import Mathlib.Data.Finset.Card
import Mathlib.Order.Interval.Finset.Nat
import Optline.Proofs.HelpText

/-!
# Which options share a row

The rows of a help text are meant to follow the declaration: five declared options to a row, the hidden
ones counted.  What starts a row is a shown option, though.  Where the option that ought to start one
is hidden, nothing does, and the options behind it go on in the row before.

* `IsNumbering` — the rows of a help text, each option with the number that it is declared as.
* `IsWrapped` — numbers in rows, each of which starts with a multiple of five, the first one apart;
  **`sameRow_iff`** says which of the numbers share a row.
* **`exists_wrapped`** — the rows of a help text are numbers in such rows.
* **`rows_follow_blocks_iff`** — options share a row with those of their block of five, and with no
  others, exactly if every block with an option that is shown begins with one, unless nothing is shown
  in front of the block.
* `row_of_six` — a hidden option that lets a row run on.
-/

namespace Optline

/-! ## Numbers in rows -/

/-- Whether two numbers stand in the same row. -/
def SameRow (rows : List (List Nat)) (i j : Nat) : Prop :=
  ∃ row ∈ rows, i ∈ row ∧ j ∈ row

/-- Ascending numbers in rows: a multiple of five starts a row, and nothing else does, apart from the
first number of all. -/
structure IsWrapped (rows : List (List Nat)) : Prop where
  ascending : rows.flatten.Pairwise (· < ·)
  nonempty : [] ∉ rows
  inside : ∀ row ∈ rows, ∀ n ∈ row.tail, ¬ optionsPerRow ∣ n
  starts : ∀ row ∈ rows.tail, ∀ n ∈ row.head?, optionsPerRow ∣ n

namespace IsWrapped

variable {rows : List (List Nat)} {i j : Nat}

/-- The numbers above a row are smaller than those in it, and the numbers below are larger. -/
lemma lt_and_lt {above below : List (List Nat)} {row : List Nat}
    (h : IsWrapped (above ++ row :: below)) {n : Nat} (hn : n ∈ row) :
    (∀ m ∈ above.flatten, m < n) ∧ ∀ m ∈ below.flatten, n < m := by
  have hascending := h.ascending
  rw [List.flatten_append, List.flatten_cons, List.pairwise_append] at hascending
  obtain ⟨-, hrest, habove⟩ := hascending
  refine ⟨fun m hm => habove m hm n (List.mem_append_left _ hn), fun m hm => ?_⟩
  exact (List.pairwise_append.mp hrest).2.2 n hn m hm

/-- Neither above a row nor below it is room for a number between two numbers of the row. -/
lemma mem_row_of_between (h : IsWrapped rows) {row : List Nat} (hrow : row ∈ rows) (hi : i ∈ row)
    (hj : j ∈ row) {k : Nat} (hk : k ∈ rows.flatten) (hik : i < k) (hkj : k ≤ j) : k ∈ row := by
  obtain ⟨above, below, rfl⟩ := List.append_of_mem hrow
  rw [List.flatten_append, List.flatten_cons, List.mem_append, List.mem_append] at hk
  rcases hk with habove | hkrow | hbelow
  · exact absurd ((h.lt_and_lt hi).1 k habove) (by omega)
  · exact hkrow
  · exact absurd ((h.lt_and_lt hj).2 k hbelow) (by omega)

/-- A number of a row that has a smaller one beside it does not start the row. -/
lemma not_dvd_of_lt (h : IsWrapped rows) {row : List Nat} (hrow : row ∈ rows) (hi : i ∈ row)
    (hj : j ∈ row) (hij : i < j) : ¬ optionsPerRow ∣ j := by
  refine h.inside row hrow j ?_
  obtain ⟨first, rest, rfl⟩ := List.exists_cons_of_ne_nil (List.ne_nil_of_mem hj)
  have hsorted : (first :: rest).Pairwise (· < ·) := (List.pairwise_flatten.mp h.ascending).1 _ hrow
  rcases List.mem_cons.mp hj with rfl | hjrest
  · rcases List.mem_cons.mp hi with rfl | hirest
    · exact absurd hij (lt_irrefl _)
    · exact absurd (List.rel_of_pairwise_cons hsorted hirest) (by omega)
  · exact hjrest

/-- Between a row and a number below it the next row starts, with a multiple of five. -/
lemma exists_start_of_below {above below : List (List Nat)} {row : List Nat}
    (h : IsWrapped (above ++ row :: below)) (hi : i ∈ row) (hj : j ∈ below.flatten) :
    ∃ k ∈ below.flatten, i < k ∧ k ≤ j ∧ optionsPerRow ∣ k := by
  obtain ⟨next, more, rfl⟩ : ∃ next more, below = next :: more := by
    refine List.exists_cons_of_ne_nil ?_
    rintro rfl
    simp at hj
  obtain ⟨k, rest, rfl⟩ := List.exists_cons_of_ne_nil
    (ne_of_mem_of_not_mem (by simp) h.nonempty : next ≠ [])
  have hstart : optionsPerRow ∣ k := by
    refine h.starts (k :: rest) ?_ k rfl
    rw [List.tail_append]
    split_ifs <;> simp
  have hsorted : ((k :: rest) :: more).flatten.Pairwise (· < ·) := by
    have hascending := h.ascending
    rw [List.flatten_append, List.flatten_cons, List.pairwise_append,
      List.pairwise_append] at hascending
    exact hascending.2.1.2.1
  refine ⟨k, by simp, (h.lt_and_lt hi).2 k (by simp), ?_, hstart⟩
  rw [List.flatten_cons, List.cons_append] at hsorted hj
  rcases List.mem_cons.mp hj with rfl | hlater
  · exact le_refl _
  · exact (List.rel_of_pairwise_cons hsorted hlater).le

/-- **What stands between two numbers of a row** is no multiple of five, and between numbers of
different rows there is one. -/
theorem sameRow_iff (h : IsWrapped rows) (hij : i < j) (hi : i ∈ rows.flatten)
    (hj : j ∈ rows.flatten) :
    SameRow rows i j ↔ ∀ k ∈ rows.flatten, i < k → k ≤ j → ¬ optionsPerRow ∣ k := by
  constructor
  · rintro ⟨row, hrow, hirow, hjrow⟩ k hk hik hkj
    exact h.not_dvd_of_lt hrow hirow (h.mem_row_of_between hrow hirow hjrow hk hik hkj) hik
  · intro hnone
    obtain ⟨row, hrow, hirow⟩ := List.mem_flatten.mp hi
    obtain ⟨above, below, rfl⟩ := List.append_of_mem hrow
    simp only [List.flatten_append, List.flatten_cons, List.mem_append] at hj hnone
    rcases hj with habove | hjrow | hbelow
    · exact absurd ((h.lt_and_lt hirow).1 j habove) (by omega)
    · exact ⟨row, hrow, hirow, hjrow⟩
    · obtain ⟨k, hk, hik, hkj, hdvd⟩ := h.exists_start_of_below hirow hbelow
      exact absurd hdvd (hnone k (Or.inr (Or.inr hk)) hik hkj)

end IsWrapped

/-- Ascending numbers of one block of five. -/
lemma length_le_of_block {row : List Nat} (hsorted : row.Pairwise (· < ·))
    (hblock : ∀ i ∈ row, ∀ j ∈ row, i < j → i / optionsPerRow = j / optionsPerRow) :
    row.length ≤ optionsPerRow := by
  cases row with
  | nil => simp
  | cons first rest =>
      have hbounds : ∀ n ∈ first :: rest, n ∈ Finset.Ico first (first + optionsPerRow) := by
        intro n hn
        rw [Finset.mem_Ico]
        rcases List.mem_cons.mp hn with rfl | hrest
        · simp [optionsPerRow]
        · have hlt : first < n := List.rel_of_pairwise_cons hsorted hrest
          have hsame := hblock first List.mem_cons_self n hn hlt
          simp only [optionsPerRow] at hsame ⊢
          omega
      have hnodup : (first :: rest).Nodup := hsorted.imp ne_of_lt
      calc (first :: rest).length
          = (first :: rest).toFinset.card := (List.toFinset_card_of_nodup hnodup).symm
        _ ≤ (Finset.Ico first (first + optionsPerRow)).card :=
            Finset.card_le_card fun n hn => hbounds n (List.mem_toFinset.mp hn)
        _ = optionsPerRow := by simp

/-! ## The rows of a help text -/

/-- Whether the option that is declared as number `i`, counted from 0, is shown by the ordinary
help. -/
def CommandSpec.IsShown (spec : CommandSpec) (i : Nat) : Prop :=
  ∃ o ∈ spec.options[i]?, o.isHidden = false

instance (spec : CommandSpec) (i : Nat) : Decidable (spec.IsShown i) :=
  inferInstanceAs (Decidable (∃ o ∈ spec.options[i]?, o.isHidden = false))

/-- Whether `lines` are the rows of a help text, each option together with the number that it is
declared as. -/
structure IsNumbering (spec : CommandSpec) (lines : List (List (OptionSpec × Nat))) : Prop where
  rows : lines.map (·.map Prod.fst) = spec.shownRows none
  order : lines.flatten = spec.options.zipIdx.filter (!·.1.isHidden)

/-- The numbers of the options in rows. -/
def numbersOf (lines : List (List (OptionSpec × Nat))) : List (List Nat) :=
  lines.map (·.map Prod.snd)

lemma flatten_numbersOf (lines : List (List (OptionSpec × Nat))) :
    (numbersOf lines).flatten = lines.flatten.map Prod.snd :=
  List.map_flatten.symm

namespace IsNumbering

variable {spec : CommandSpec} {lines : List (List (OptionSpec × Nat))}

lemma mem_flatten_iff (h : IsNumbering spec lines) {i : Nat} :
    i ∈ (numbersOf lines).flatten ↔ spec.IsShown i := by
  rw [flatten_numbersOf, h.order, List.mem_map]
  constructor
  · rintro ⟨⟨o, n⟩, hmem, rfl⟩
    obtain ⟨hoption, hshown⟩ := List.mem_filter.mp hmem
    exact ⟨o, List.mk_mem_zipIdx_iff_getElem?.mp hoption, by simpa using hshown⟩
  · rintro ⟨o, hoption, hshown⟩
    exact ⟨(o, i), List.mem_filter.mpr ⟨List.mk_mem_zipIdx_iff_getElem?.mpr hoption, by simp [hshown]⟩,
      rfl⟩

lemma ascending (h : IsNumbering spec lines) :
    (numbersOf lines).flatten.Pairwise (· < ·) := by
  rw [flatten_numbersOf, h.order]
  refine List.Pairwise.sublist (List.filter_sublist.map Prod.snd) ?_
  rw [List.zipIdx_map_snd]
  exact List.pairwise_lt_range'

/-- The lengths of the rows and the order of the options leave no choice. -/
lemma unique {other : List (List (OptionSpec × Nat))} (h : IsNumbering spec lines)
    (hother : IsNumbering spec other) : other = lines := by
  have hlengths : ∀ ls : List (List (OptionSpec × Nat)),
      ls.map List.length = (ls.map (·.map Prod.fst)).map List.length := by
    intro ls
    simp [Function.comp_def]
  rw [List.eq_iff_flatten_eq, hother.order, h.order, hlengths, hlengths, hother.rows, h.rows]
  exact ⟨rfl, rfl⟩

end IsNumbering

/-- Rows break in front of multiples of five. -/
lemma exists_lines (xs : List (OptionSpec × Nat)) :
    ∃ lines : List (List (OptionSpec × Nat)), lines.map (·.map Prod.fst) = rowsOf xs
      ∧ lines.flatten = xs ∧ [] ∉ lines
      ∧ (∀ line ∈ lines, ∀ x ∈ line.tail, ¬ optionsPerRow ∣ x.2)
      ∧ ∀ line ∈ lines.tail, ∀ x ∈ line.head?, optionsPerRow ∣ x.2 := by
  fun_induction rowsOf xs with
  | case1 => exact ⟨[], by simp⟩
  | case2 o i => exact ⟨[[(o, i)]], by simp⟩
  | case3 o i p j rest rows hbreak ih =>
      obtain ⟨lines, hrows, hflatten, hempty, hinside, hstarts⟩ := ih
      refine ⟨[(o, i)] :: lines, by simp [hrows, rows], by simp [hflatten], by simpa using hempty,
        by simpa using hinside, ?_⟩
      rw [List.tail_cons]
      intro line hline x hx
      cases lines with
      | nil => simp at hline
      | cons first more =>
          rcases List.mem_cons.mp hline with rfl | hmore
          · obtain ⟨y, ys, rfl⟩ := List.exists_cons_of_ne_nil
              (ne_of_mem_of_not_mem List.mem_cons_self hempty : line ≠ [])
            obtain rfl : y = x := by simpa using hx
            obtain rfl : y = (p, j) := (List.cons.inj hflatten).1
            exact Nat.dvd_of_mod_eq_zero hbreak
          · exact hstarts line hmore x hx
  | case4 o i p j rest rows hbreak ih =>
      obtain ⟨lines, hrows, hflatten, hempty, hinside, hstarts⟩ := ih
      cases lines with
      | nil => simp at hflatten
      | cons first more =>
          obtain ⟨y, ys, rfl⟩ := List.exists_cons_of_ne_nil
            (ne_of_mem_of_not_mem List.mem_cons_self hempty : first ≠ [])
          obtain rfl : y = (p, j) := (List.cons.inj hflatten).1
          have hnot : ¬ optionsPerRow ∣ j := fun hdvd => hbreak (Nat.mod_eq_zero_of_dvd hdvd)
          refine ⟨((o, i) :: (p, j) :: ys) :: more, ?_, ?_, ?_, ?_, hstarts⟩
          · simp only [rows, ← hrows, List.map_cons, List.modifyHead_cons]
          · simpa using hflatten
          · simpa using hempty
          · intro line hline x hx
            rcases List.mem_cons.mp hline with rfl | hmore
            · rcases List.mem_cons.mp hx with rfl | hys
              · exact hnot
              · exact hinside _ List.mem_cons_self x hys
            · exact hinside line (List.mem_cons_of_mem _ hmore) x hx

/-- **The rows of a help text** are numbers in rows that break in front of the multiples of five. -/
theorem exists_wrapped (spec : CommandSpec) :
    ∃ lines, IsNumbering spec lines ∧ IsWrapped (numbersOf lines) := by
  obtain ⟨lines, hrows, hflatten, hempty, hinside, hstarts⟩ :=
    exists_lines (spec.options.zipIdx.filter (!·.1.isHidden))
  have hnumbering : IsNumbering spec lines := ⟨hrows, hflatten⟩
  refine ⟨lines, hnumbering, hnumbering.ascending, ?_, ?_, ?_⟩
  · simpa [numbersOf] using hempty
  · intro row hrow n hn
    obtain ⟨line, hline, rfl⟩ := List.mem_map.mp hrow
    rw [← List.map_tail] at hn
    obtain ⟨x, hx, rfl⟩ := List.mem_map.mp hn
    exact hinside line hline x hx
  · intro row hrow n hn
    rw [numbersOf, ← List.map_tail] at hrow
    obtain ⟨line, hline, rfl⟩ := List.mem_map.mp hrow
    rw [List.head?_map] at hn
    obtain ⟨x, hx, rfl⟩ := Option.mem_map.mp hn
    exact hstarts line hline x hx

/-! ## Blocks of five -/

section Blocks

variable {Shown : Nat → Prop}

/-- If numbers with no shown multiple of five between them are always of one block, then a block with
something shown behind the first one begins with something shown. -/
lemma shown_of_blocks (h : ∀ i j, i < j → Shown i → Shown j →
      ((∀ k, Shown k → i < k → k ≤ j → ¬ 5 ∣ k) ↔ i / 5 = j / 5))
    {i j : Nat} (hi : Shown i) (hj : Shown j) (hblock : i / 5 < j / 5) : Shown (5 * (j / 5)) := by
  by_contra hhidden
  -- From `i` there is always a shown multiple of five further on, and never past the block.
  induction hgap : j - i using Nat.strong_induction_on generalizing i with
  | h gap ih =>
      have hbreak : ¬ ∀ k, Shown k → i < k → k ≤ j → ¬ 5 ∣ k := by
        rw [h i j (by omega) hi hj]
        omega
      push Not at hbreak
      obtain ⟨k, hk, hik, hkj, hdvd⟩ := hbreak
      have hne : k ≠ 5 * (j / 5) := by
        rintro rfl
        exact hhidden hk
      exact ih (j - k) (by omega) hk (by omega) rfl

lemma blocks_of_shown (h : ∀ i j, Shown i → Shown j → i / 5 < j / 5 → Shown (5 * (j / 5)))
    {i j : Nat} (hij : i < j) (hi : Shown i) (hj : Shown j) :
    (∀ k, Shown k → i < k → k ≤ j → ¬ 5 ∣ k) ↔ i / 5 = j / 5 := by
  constructor
  · intro hnone
    by_contra hne
    exact hnone (5 * (j / 5)) (h i j hi hj (by omega)) (by omega) (by omega) (Nat.dvd_mul_right 5 _)
  · intro hsame k _ hik hkj hdvd
    omega

end Blocks

/-- **When options share a row.**  Two options that the ordinary help shows stand in one row exactly
if no option that is shown and declared as a multiple of five is the second of them or stands between
them.  So the rows are the blocks of five declared options, none of them longer than that, exactly if
every block with an option that is shown begins with one, or nothing is shown in front of the block. -/
theorem rows_follow_blocks_iff (spec : CommandSpec) :
    ∃ lines, IsNumbering spec lines ∧ (∀ other, IsNumbering spec other → other = lines)
      ∧ (∀ i j, i < j → spec.IsShown i → spec.IsShown j →
        (SameRow (numbersOf lines) i j ↔ ∀ k, spec.IsShown k → i < k → k ≤ j → ¬ 5 ∣ k))
      ∧ (((∀ i j, i < j → spec.IsShown i → spec.IsShown j →
            (SameRow (numbersOf lines) i j ↔ i / 5 = j / 5))
          ∧ ∀ row ∈ spec.shownRows none, row.length ≤ 5)
        ↔ ∀ i j, spec.IsShown i → spec.IsShown j → i / 5 < j / 5 → spec.IsShown (5 * (j / 5))) := by
  obtain ⟨lines, hlines, hwrapped⟩ := exists_wrapped spec
  have hsame : ∀ i j, i < j → spec.IsShown i → spec.IsShown j →
      (SameRow (numbersOf lines) i j ↔ ∀ k, spec.IsShown k → i < k → k ≤ j → ¬ 5 ∣ k) := by
    intro i j hij hi hj
    rw [hwrapped.sameRow_iff hij (hlines.mem_flatten_iff.mpr hi) (hlines.mem_flatten_iff.mpr hj)]
    simp only [hlines.mem_flatten_iff, optionsPerRow]
  refine ⟨lines, hlines, fun other hother => hlines.unique hother, hsame, ?_, ?_⟩
  · rintro ⟨hblocks, -⟩ i j hi hj hlt
    refine shown_of_blocks (fun i j hij hi hj => ?_) hi hj hlt
    rw [← hsame i j hij hi hj, hblocks i j hij hi hj]
  · intro hheads
    have hblocks : ∀ i j, i < j → spec.IsShown i → spec.IsShown j →
        (SameRow (numbersOf lines) i j ↔ i / 5 = j / 5) := by
      intro i j hij hi hj
      rw [hsame i j hij hi hj, blocks_of_shown hheads hij hi hj]
    refine ⟨hblocks, fun row hrow => ?_⟩
    rw [← hlines.rows] at hrow
    obtain ⟨line, hline, rfl⟩ := List.mem_map.mp hrow
    have hnumbers : line.map Prod.snd ∈ numbersOf lines := List.mem_map_of_mem hline
    have hsorted := (List.pairwise_flatten.mp hwrapped.ascending).1 _ hnumbers
    have hshown : ∀ i ∈ line.map Prod.snd, spec.IsShown i := fun i hi =>
      hlines.mem_flatten_iff.mp (List.mem_flatten.mpr ⟨_, hnumbers, hi⟩)
    have hlength := length_le_of_block hsorted fun i hi j hj hij =>
      (hblocks i j hij (hshown i hi) (hshown j hj)).mp ⟨_, hnumbers, hi, hj⟩
    simpa [optionsPerRow] using hlength

/-- The option that ought to start the second row is hidden, and so the option behind it stands in the
first row, as the sixth one there. -/
theorem row_of_six :
    let spec := CommandSpec.compile "w" "-a -b -c -d -e -!f -g"
    (spec.IsShown 4 ∧ spec.IsShown 6 ∧ 4 / 5 ≠ 6 / 5
        ∧ ∃ lines, IsNumbering spec lines ∧ SameRow (numbersOf lines) 4 6)
      ∧ ∃ row ∈ spec.shownRows none, row.length = 6 := by
  intro spec
  have hrows : spec.shownRows none
      = [[⟨"-a", ""⟩, ⟨"-b", ""⟩, ⟨"-c", ""⟩, ⟨"-d", ""⟩, ⟨"-e", ""⟩, ⟨"-g", ""⟩]] := by
    decide +kernel
  have horder : spec.options.zipIdx.filter (!·.1.isHidden)
      = [(⟨"-a", ""⟩, 0), (⟨"-b", ""⟩, 1), (⟨"-c", ""⟩, 2), (⟨"-d", ""⟩, 3), (⟨"-e", ""⟩, 4),
        (⟨"-g", ""⟩, 6)] := by
    decide +kernel
  have hshown : spec.IsShown 4 ∧ spec.IsShown 6 := by decide +kernel
  have hnumbering : IsNumbering spec [spec.options.zipIdx.filter (!·.1.isHidden)] := by
    refine ⟨?_, by simp⟩
    rw [hrows, horder]
    rfl
  refine ⟨⟨hshown.1, hshown.2, by decide, _, hnumbering, ?_⟩, ?_⟩
  · rw [horder]
    exact ⟨_, List.mem_cons_self, by simp, by simp⟩
  · rw [hrows]
    exact ⟨_, List.mem_cons_self, rfl⟩

end Optline
