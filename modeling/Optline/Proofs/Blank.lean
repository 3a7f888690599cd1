import Mathlib.Data.List.DropRight
import Mathlib.Tactic.Lemma
import Optline.Text.Blank

/-!
# Blanks around a text

Trimming and cutting into words go by the same class of blanks, so what the one leaves at the
beginning of a text is where the other finds its first word.

* `firstMark?` — the first character that is no blank.
* **`head?_trim`** — trimming makes it the first character of all.
* `reverse_trim` — both ends are trimmed alike, so that what holds of one holds of the other.
* `fields_eq_nil_iff` — a text without fields holds nothing but separators.
* `words_trimmed_ne_nil` — a trimmed text has a word unless it is empty.
-/

namespace Optline.Text

/-! ## The first character that counts -/

/-- The first character of a text that is no blank. -/
def firstMark? (cs : List Char) : Option Char :=
  cs.find? (!isBlank ·)

lemma firstMark?_append (cs ds : List Char) :
    firstMark? (cs ++ ds) = (firstMark? cs).or (firstMark? ds) :=
  List.find?_append

lemma firstMark?_eq_none_iff {cs : List Char} :
    firstMark? cs = none ↔ cs.all isBlank = true := by
  simp [firstMark?]

lemma not_isBlank_of_firstMark? {cs : List Char} {c : Char} (h : firstMark? cs = some c) :
    isBlank c = false := by
  have hc := List.find?_some h
  rwa [Bool.not_eq_true'] at hc

/-! ## Trimming -/

/-- Dropping at the end never reaches a first character that is to be kept. -/
lemma head?_dropTrailing {p : Char → Bool} {c : Char} (hc : p c = false) (cs : List Char) :
    (dropTrailing p (c :: cs)).head? = some c := by
  have hdrop : dropTrailing p (c :: cs) = (c :: cs).rdropWhile p := rfl
  obtain ⟨dropped, hwhole⟩ := List.rdropWhile_prefix p (c :: cs)
  rw [hdrop]
  cases hkept : (c :: cs).rdropWhile p with
  | nil =>
      have hall := List.rdropWhile_eq_nil_iff.mp hkept c (by simp)
      rw [hc] at hall
      exact absurd hall (by simp)
  | cons d ds =>
      rw [hkept, List.cons_append, List.cons.injEq] at hwhole
      rw [hwhole.1]
      rfl

/-- Trimming makes the first character that is no blank the first one of all. -/
theorem head?_trim (cs : List Char) : (trim cs).head? = firstMark? cs := by
  rw [trim, dropLeading, firstMark?]
  induction cs with
  | nil => rfl
  | cons c cs ih =>
      cases hc : isBlank c with
      | true => rw [List.dropWhile_cons_of_pos hc, ih]; simp [hc]
      | false =>
          rw [List.dropWhile_cons_of_neg (by simp [hc]), head?_dropTrailing hc]
          simp [hc]

lemma reverse_dropLeading (p : Char → Bool) (cs : List Char) :
    (dropLeading p cs).reverse = dropTrailing p cs.reverse := by
  rw [dropTrailing, List.reverse_reverse, dropLeading]

lemma reverse_dropTrailing (p : Char → Bool) (cs : List Char) :
    (dropTrailing p cs).reverse = dropLeading p cs.reverse := by
  rw [dropTrailing, List.reverse_reverse, dropLeading]

/-- It does not matter which end of a text is trimmed first, whatever is dropped at either: where
nothing is left between the ends both orders leave nothing. -/
lemma dropTrailing_dropLeading (p q : Char → Bool) (cs : List Char) :
    dropTrailing q (dropLeading p cs) = dropLeading p (dropTrailing q cs) := by
  have htrail : ∀ ds, dropTrailing q ds = ds.rdropWhile q := fun _ => rfl
  simp only [htrail, dropLeading]
  induction cs using List.reverseRecOn with
  | nil => rfl
  | append_singleton cs c ih =>
      rw [List.dropWhile_append]
      cases hq : q c with
      | true =>
          rw [List.rdropWhile_concat_pos _ _ _ hq, ← ih]
          cases hkept : (cs.dropWhile p).isEmpty with
          | true =>
              rw [List.isEmpty_iff] at hkept
              rw [hkept, if_pos rfl, List.rdropWhile_nil, List.rdropWhile_eq_nil_iff]
              intro d hd
              rw [List.mem_singleton.mp ((List.dropWhile_sublist p).subset hd)]
              exact hq
          | false => exact List.rdropWhile_concat_pos _ _ _ hq
      | false =>
          rw [List.rdropWhile_concat_neg _ _ _ (by simp [hq]), List.dropWhile_append]
          cases (cs.dropWhile p).isEmpty with
          | true => cases hp : p c <;> simp [hp, hq]
          | false => exact List.rdropWhile_concat_neg _ _ _ (by simp [hq])

/-- Trimming treats both ends of a text alike. -/
lemma reverse_trim (cs : List Char) : (trim cs).reverse = trim cs.reverse := by
  rw [trim, trim, reverse_dropTrailing, reverse_dropLeading, dropTrailing_dropLeading]

/-- What trimming takes away stands around the rest. -/
lemma exists_trim_between (cs : List Char) :
    ∃ leading trailing, cs = leading ++ (trim cs ++ trailing)
      ∧ leading.all isBlank = true ∧ trailing.all isBlank = true := by
  have htrail : dropTrailing isBlank (dropLeading isBlank cs)
      = (cs.dropWhile isBlank).rdropWhile isBlank := rfl
  refine ⟨cs.takeWhile isBlank, (cs.dropWhile isBlank).rtakeWhile isBlank, ?_, ?_, ?_⟩
  · rw [trim, htrail, List.rdropWhile_append_rtakeWhile, List.takeWhile_append_dropWhile]
  · exact List.all_takeWhile
  · exact List.all_eq_true.mpr fun c hc => List.mem_rtakeWhile_imp hc

/-- A text without blanks is left as it is. -/
lemma trimmed_eq_self {text : String} (h : ∀ c ∈ text.toList, isBlank c = false) :
    trimmed text = text := by
  have hlead : dropLeading isBlank text.toList = text.toList :=
    List.dropWhile_eq_self_iff.mpr fun hl => by simp [h _ (List.getElem_mem hl)]
  have htrail : dropTrailing isBlank text.toList = text.toList :=
    List.rdropWhile_eq_self_iff.mpr fun hne => by simp [h _ (List.getLast_mem hne)]
  rw [trimmed, trim, hlead, htrail, String.ofList_toList]

/-- A text with no blank at either end is left as it is. -/
lemma trim_eq_self {c d : Char} (cs : List Char) (hc : isBlank c = false) (hd : isBlank d = false) :
    trim (c :: (cs ++ [d])) = c :: (cs ++ [d]) := by
  have hlead : dropLeading isBlank (c :: (cs ++ [d])) = c :: (cs ++ [d]) :=
    List.dropWhile_cons_of_neg (by simp [hc])
  have htrail : (c :: (cs ++ [d])).rdropWhile isBlank = c :: (cs ++ [d]) := by
    rw [List.rdropWhile_eq_self_iff]
    intro hne
    simp [hd]
  rw [trim, hlead]
  exact htrail

/-- A text that does not end in a blank is left as it is at its end. -/
lemma trimmedEnd_eq_self {text : String} {cs : List Char} {c : Char} (h : text.toList = cs ++ [c])
    (hc : isBlank c = false) : trimmedEnd text = text := by
  have htrail : dropTrailing isBlank (cs ++ [c]) = cs ++ [c] :=
    List.rdropWhile_concat_neg _ _ _ (by simp [hc])
  rw [trimmedEnd, h, htrail, ← h, String.ofList_toList]

lemma isEmpty_trim (cs : List Char) : (trim cs).isEmpty = cs.all isBlank := by
  rw [Bool.eq_iff_iff, List.isEmpty_iff, ← List.head?_eq_none_iff, head?_trim,
    firstMark?_eq_none_iff]

lemma trim_cons_blank {c : Char} (hc : isBlank c = true) (cs : List Char) :
    trim (c :: cs) = trim cs := by
  rw [trim, trim, dropLeading, dropLeading, List.dropWhile_cons_of_pos hc]

lemma trim_concat_blank {c : Char} (hc : isBlank c = true) (cs : List Char) :
    trim (cs ++ [c]) = trim cs := by
  rw [← List.reverse_inj, reverse_trim, reverse_trim, List.reverse_concat, trim_cons_blank hc]

/-- What does not feel a blank at either end does not feel trimming. -/
theorem eq_of_trim {α : Type} {f : List Char → α}
    (hfront : ∀ c cs, isBlank c = true → f (c :: cs) = f cs)
    (hback : ∀ c cs, isBlank c = true → f (cs ++ [c]) = f cs) (cs : List Char) :
    f (trim cs) = f cs := by
  have hleading : ∀ leading ds, leading.all isBlank = true → f (leading ++ ds) = f ds := by
    intro leading ds hblank
    induction leading with
    | nil => rfl
    | cons c leading ih =>
        obtain ⟨hc, hrest⟩ := Bool.and_eq_true_iff.mp (List.all_cons ▸ hblank)
        rw [List.cons_append, hfront c _ hc, ih hrest]
  have htrailing : ∀ trailing ds, trailing.all isBlank = true → f (ds ++ trailing) = f ds := by
    intro trailing ds hblank
    induction trailing generalizing ds with
    | nil => rw [List.append_nil]
    | cons c trailing ih =>
        obtain ⟨hc, hrest⟩ := Bool.and_eq_true_iff.mp (List.all_cons ▸ hblank)
        rw [← List.singleton_append, ← List.append_assoc, ih _ hrest, hback c _ hc]
  obtain ⟨leading, trailing, hcs, hlead, htrail⟩ := exists_trim_between cs
  rw [hcs, hleading leading _ hlead, htrailing trailing _ htrail, ← hcs]

lemma trim_trim (cs : List Char) : trim (trim cs) = trim cs :=
  eq_of_trim (fun _ cs hc => trim_cons_blank hc cs) (fun _ cs hc => trim_concat_blank hc cs) cs

lemma trimmed_trimmed (text : String) : trimmed (trimmed text) = trimmed text := by
  rw [trimmed, trimmed, String.toList_ofList, trim_trim]

lemma trimmed_eq_empty_iff {text : String} : trimmed text = "" ↔ isBlankText text = true := by
  rw [trimmed, String.ofList_eq_empty_iff, ← List.isEmpty_iff, isEmpty_trim, isBlankText]

/-! ## Words -/

lemma filter_splitOnP_eq_nil_iff {p : Char → Bool} {cs : List Char} :
    (cs.splitOnP p).filter (!·.isEmpty) = [] ↔ cs.all p = true := by
  induction cs with
  | nil => simp
  | cons c cs ih =>
      rw [List.splitOnP_cons_eq_if_modifyHead]
      cases hc : p c with
      | true => simpa [hc] using ih
      | false =>
          obtain ⟨piece, pieces, hpieces⟩ := List.exists_cons_of_ne_nil (List.splitOnP_ne_nil p cs)
          simp [hc, hpieces]

/-- A text without fields holds nothing but separators. -/
theorem fields_eq_nil_iff {p : Char → Bool} {text : String} :
    fields p text = [] ↔ text.toList.all p = true := by
  rw [fields, List.map_eq_nil_iff, filter_splitOnP_eq_nil_iff]

/-- What stands between separators is made of the other characters. -/
lemma mem_of_mem_splitOnP {p : Char → Bool} {cs piece : List Char} (h : piece ∈ cs.splitOnP p) {c : Char}
    (hc : c ∈ piece) : c ∈ cs ∧ p c = false := by
  induction cs generalizing piece with
  | nil =>
      rw [List.mem_singleton.mp h] at hc
      simp at hc
  | cons d ds ih =>
      rw [List.splitOnP_cons_eq_if_modifyHead] at h
      cases hd : p d with
      | true =>
          rw [if_pos hd] at h
          rcases List.mem_cons.mp h with rfl | hrest
          · simp at hc
          · obtain ⟨hmem, hp⟩ := ih hrest hc
            exact ⟨List.mem_cons_of_mem _ hmem, hp⟩
      | false =>
          obtain ⟨first, pieces, hpieces⟩ := List.exists_cons_of_ne_nil (List.splitOnP_ne_nil p ds)
          rw [if_neg (by simp [hd]), hpieces, List.modifyHead_cons] at h
          rw [hpieces] at ih
          rcases List.mem_cons.mp h with rfl | hrest
          · rcases List.mem_cons.mp hc with rfl | hfirst
            · exact ⟨List.mem_cons_self, hd⟩
            · obtain ⟨hmem, hp⟩ := ih List.mem_cons_self hfirst
              exact ⟨List.mem_cons_of_mem _ hmem, hp⟩
          · obtain ⟨hmem, hp⟩ := ih (List.mem_cons_of_mem _ hrest) hc
            exact ⟨List.mem_cons_of_mem _ hmem, hp⟩

lemma mem_of_mem_fields {p : Char → Bool} {text field : String} (h : field ∈ fields p text) {c : Char}
    (hc : c ∈ field.toList) : c ∈ text.toList ∧ p c = false := by
  obtain ⟨piece, hpiece, rfl⟩ := List.mem_map.mp h
  rw [String.toList_ofList] at hc
  exact mem_of_mem_splitOnP (List.mem_filter.mp hpiece).1 hc

lemma empty_not_mem_fields (p : Char → Bool) (text : String) : "" ∉ fields p text := by
  intro h
  obtain ⟨piece, hpiece, hempty⟩ := List.mem_map.mp h
  have hne : piece ≠ [] := by
    have hkept := (List.mem_filter.mp hpiece).2
    simpa using hkept
  exact hne (String.ofList_eq_empty_iff.mp hempty)

/-- A trimmed text begins with a character that is no blank, and thus with a word. -/
theorem words_trimmed_ne_nil {text : String} (h : (trimmed text).toList ≠ []) :
    words (trimmed text) ≠ [] := by
  intro hwords
  have hblank : (trimmed text).toList.all isBlank = true := fields_eq_nil_iff.mp hwords
  obtain ⟨c, cs, hcs⟩ := List.exists_cons_of_ne_nil h
  have hmark : firstMark? text.toList = some c := by
    rw [← head?_trim, ← String.toList_ofList (l := trim text.toList), ← trimmed, hcs]
    rfl
  rw [hcs, List.all_cons, not_isBlank_of_firstMark? hmark] at hblank
  exact absurd hblank (by simp)

end Optline.Text
