import Mathlib.Data.List.Infix
import Optline.Display.Layout
import Optline.Proofs.Escapes

/-!
# Sequences that arise where sequences are left out

A text is read once from the left, and what is left of it is not read again.  So an escape that begins
nothing, because a sequence stands right behind it, comes to stand before whatever follows the sequence;
if that is a bracket, the two are a sequence that was not in the text.  This file says that it happens in
no other way, and what it does to texts that are cut.

* `IsSequence`, `EndsWithin` — complete sequences, and texts that end in the midst of one.
* `text_induction` — every text is empty, an unfinished sequence, or begins with a complete sequence or
  a character that is shown; `stripFrom_unfinished`, `stripFrom_sequence` and `stripFrom_shown` say what
  becomes of each.
* `stripFrom_append` — a text that does not end within a sequence is shown as it is alone.
* `JoinsAt`, **`joinsAt_iff`** — sequences between an escape and a bracket are where a new one arises.
* `HasOpening`, **`stripFrom_eq_self_iff`** — the texts that are shown as they are.
* **`sequences_removed_iff`** — every sequence of a text is left out, and nothing that is left begins one
  exactly if there is no such place; then, and only then, is it left as it is by another round, as wide as
  it was measured, and as wide as its column where it is cut.
-/

namespace Optline.Display

/-- A complete sequence: an escape, a bracket, any characters but letters, and a letter. -/
inductive IsSequence : List Char → Prop
  | intro {parameters : List Char} {final : Char} (h : ∀ c ∈ parameters, c.isAlpha = false)
      (hfinal : final.isAlpha = true) : IsSequence ('\x1b' :: '[' :: (parameters ++ [final]))

lemma IsSequence.exists_final {sequence : List Char} (h : IsSequence sequence) :
    ∃ begin final, sequence = begin ++ [final] ∧ final.isAlpha = true := by
  cases h with
  | @intro parameters final _ hfinal => exact ⟨'\x1b' :: '[' :: parameters, final, rfl, hfinal⟩

lemma IsSequence.head?_append {sequence : List Char} (h : IsSequence sequence) (rest : List Char) :
    (sequence ++ rest).head? = some '\x1b' := by
  cases h
  rfl

/-- Whether a text ends within a sequence: it has an escape and a bracket with no letter behind them. -/
def EndsWithin (cs : List Char) : Prop :=
  ∃ front parameters, cs = front ++ '\x1b' :: '[' :: parameters
    ∧ ∀ c ∈ parameters, c.isAlpha = false

/-- Whether a bracket stands right behind an escape somewhere in a text. -/
def HasOpening (cs : List Char) : Prop :=
  ['\x1b', '['] <:+: cs

instance (cs : List Char) : Decidable (HasOpening cs) :=
  inferInstanceAs (Decidable (_ <:+: _))

/-- Whether there are sequences between an escape and a bracket, with `n` characters shown in front. -/
def JoinsAt (cs : List Char) (n : ℕ) : Prop :=
  ∃ front sequences rest, cs = front ++ '\x1b' :: (sequences.flatten ++ '[' :: rest)
    ∧ ¬ EndsWithin front ∧ (stripFrom false front).length = n
    ∧ sequences ≠ [] ∧ ∀ sequence ∈ sequences, IsSequence sequence

/-! ## The parts of a text -/

section

variable {cs front parameters sequence rest : List Char} {sequences : List (List Char)} {c : Char}

lemma stripFrom_unfinished (h : ∀ c ∈ parameters, c.isAlpha = false) :
    stripFrom false ('\x1b' :: '[' :: parameters) = [] := by
  rw [stripFrom]
  induction parameters with
  | nil => rfl
  | cons c parameters ih =>
      obtain ⟨hc, hrest⟩ := List.forall_mem_cons.mp h
      rw [stripFrom, hc]
      exact ih hrest

lemma stripFrom_sequence (h : IsSequence sequence) (rest : List Char) :
    stripFrom false (sequence ++ rest) = stripFrom false rest := by
  cases h with
  | intro h hfinal => simpa [stripFrom] using stripFrom_parameters h hfinal rest

lemma stripFrom_shown (h : c = '\x1b' → cs.head? ≠ some '[') :
    stripFrom false (c :: cs) = c :: stripFrom false cs := by
  rw [stripFrom]
  intro rest hescape hbracket
  exact h hescape (by rw [hbracket, List.head?_cons])

/-- Every text is built from its end, sequence by sequence and character by character.  The scan is
followed, and within a sequence the claim is about the text from its escape on. -/
theorem text_induction {motive : List Char → Prop} (empty : motive [])
    (unfinished : ∀ parameters : List Char, (∀ c ∈ parameters, c.isAlpha = false) →
      motive ('\x1b' :: '[' :: parameters))
    (sequence : ∀ sequence rest, IsSequence sequence → motive rest → motive (sequence ++ rest))
    (shown : ∀ c rest, (c = '\x1b' → rest.head? ≠ some '[') → motive rest → motive (c :: rest))
    (cs : List Char) : motive cs := by
  have hscan : ∀ inside cs, (inside = false → motive cs)
      ∧ (inside = true → ∀ parameters : List Char, (∀ c ∈ parameters, c.isAlpha = false) →
        motive ('\x1b' :: '[' :: (parameters ++ cs))) := by
    intro inside cs
    fun_induction stripFrom inside cs with
    | case1 =>
        refine ⟨fun _ => empty, fun _ parameters h => ?_⟩
        rw [List.append_nil]
        exact unfinished parameters h
    | case2 c cs ih =>
        refine ⟨by simp, fun _ parameters h => ?_⟩
        cases hc : c.isAlpha with
        | true =>
            have hrest : motive cs := ih.1 (by simp [hc])
            simpa using sequence _ cs (.intro h hc) hrest
        | false =>
            have hmore : ∀ d ∈ parameters ++ [c], d.isAlpha = false := by
              simpa [or_imp, forall_and] using ⟨h, hc⟩
            simpa using ih.2 (by simp [hc]) (parameters ++ [c]) hmore
    | case3 cs ih => exact ⟨fun _ => ih.2 rfl [] (by simp), by simp⟩
    | case4 c cs hc ih =>
        refine ⟨fun _ => shown c cs (fun hescape hhead => ?_) (ih.1 rfl), by simp⟩
        obtain ⟨rest, hrest⟩ := List.head?_eq_some_iff.mp hhead
        exact hc rest hescape hrest
  exact (hscan false cs).1 rfl

/-! ## Texts that end within a sequence -/

lemma not_endsWithin_nil : ¬ EndsWithin [] := by
  rintro ⟨front, parameters, h, -⟩
  exact absurd h (by simp)

lemma EndsWithin.behind (h : EndsWithin rest) (front : List Char) : EndsWithin (front ++ rest) := by
  obtain ⟨more, parameters, rfl, hparameters⟩ := h
  exact ⟨front ++ more, parameters, by simp, hparameters⟩

lemma endsWithin_of_shown (hc : c = '\x1b' → cs.head? ≠ some '[') (h : EndsWithin (c :: cs)) :
    EndsWithin cs := by
  obtain ⟨front, parameters, hsplit, hparameters⟩ := h
  cases front with
  | nil =>
      obtain ⟨rfl, rfl⟩ := List.cons.inj hsplit
      exact absurd rfl (hc rfl)
  | cons d front => exact ⟨front, parameters, (List.cons.inj hsplit).2, hparameters⟩

/-- What ends within a sequence has no letter from its last escape on, so a complete sequence in front of
it ends before that. -/
lemma endsWithin_of_sequence (hsequence : IsSequence sequence) (h : EndsWithin (sequence ++ rest)) :
    EndsWithin rest := by
  obtain ⟨front, parameters, hsplit, hparameters⟩ := h
  obtain ⟨begin, final, rfl, hfinal⟩ := hsequence.exists_final
  have hopen : final ∉ '\x1b' :: '[' :: parameters := by
    intro hmem
    have hletter : final.isAlpha = false := by
      simp only [List.mem_cons] at hmem
      rcases hmem with rfl | rfl | hmem
      · rfl
      · rfl
      · exact hparameters final hmem
    exact absurd (hletter.symm.trans hfinal) (by simp)
  rw [List.append_assoc, List.singleton_append] at hsplit
  rcases List.append_eq_append_iff.mp hsplit with ⟨more, -, hrest⟩ | ⟨more, -, hbehind⟩
  · cases more with
    | nil =>
        rw [List.nil_append] at hrest
        exact absurd (hrest ▸ List.mem_cons_self) hopen
    | cons d more => exact ⟨more, parameters, (List.cons.inj hrest).2, hparameters⟩
  · exact absurd (by simp [hbehind]) hopen

/-- A text that does not end within a sequence is shown as it is alone, unless a bracket follows. -/
lemma stripFrom_append (hfront : ¬ EndsWithin front) (hrest : rest.head? ≠ some '[') :
    stripFrom false (front ++ rest) = stripFrom false front ++ stripFrom false rest := by
  induction front using text_induction with
  | empty => rfl
  | unfinished parameters h => exact absurd ⟨[], parameters, rfl, h⟩ hfront
  | sequence sequence front hsequence ih =>
      rw [List.append_assoc, stripFrom_sequence hsequence, stripFrom_sequence hsequence,
        ih (mt (EndsWithin.behind · sequence) hfront)]
  | shown c front hc ih =>
      have hc' : c = '\x1b' → (front ++ rest).head? ≠ some '[' := by
        cases front with
        | nil => exact fun _ => hrest
        | cons d front => exact hc
      rw [List.cons_append, stripFrom_shown hc', stripFrom_shown hc,
        ih (mt (EndsWithin.behind · [c]) hfront), List.cons_append]

/-! ## Where a new sequence arises -/

lemma stripFrom_sequences (h : ∀ sequence ∈ sequences, IsSequence sequence) (rest : List Char) :
    stripFrom false (sequences.flatten ++ rest) = stripFrom false rest := by
  induction sequences with
  | nil => rfl
  | cons sequence sequences ih =>
      obtain ⟨hsequence, hsequences⟩ := List.forall_mem_cons.mp h
      rw [List.flatten_cons, List.append_assoc, stripFrom_sequence hsequence, ih hsequences]

/-- Nothing but sequences stands in front of the first character that is shown. -/
lemma exists_of_stripFrom_eq_cons {shown : List Char} (h : stripFrom false cs = c :: shown) :
    ∃ (sequences : List (List Char)) (rest : List Char), cs = sequences.flatten ++ c :: rest
      ∧ (∀ sequence ∈ sequences, IsSequence sequence) := by
  induction cs using text_induction with
  | empty => exact absurd h (by simp [stripFrom])
  | unfinished parameters hparameters =>
      rw [stripFrom_unfinished hparameters] at h
      exact absurd h (by simp)
  | sequence sequence rest hsequence ih =>
      rw [stripFrom_sequence hsequence] at h
      obtain ⟨sequences, behind, rfl, hsequences⟩ := ih h
      exact ⟨sequence :: sequences, behind, by simp, List.forall_mem_cons.mpr ⟨hsequence, hsequences⟩⟩
  | shown d rest hd ih =>
      rw [stripFrom_shown hd] at h
      obtain ⟨rfl, -⟩ := List.cons.inj h
      exact ⟨[], rest, rfl, by simp⟩

lemma joinsAt_of_stripFrom {before behind : List Char}
    (h : stripFrom false cs = before ++ '\x1b' :: '[' :: behind) : JoinsAt cs before.length := by
  induction cs using text_induction generalizing before with
  | empty => exact absurd h (by simp [stripFrom])
  | unfinished parameters hparameters =>
      rw [stripFrom_unfinished hparameters] at h
      exact absurd h (by simp)
  | sequence sequence rest hsequence ih =>
      rw [stripFrom_sequence hsequence] at h
      obtain ⟨front, sequences, more, rfl, hfront, hlength, hne, hsequences⟩ := ih h
      refine ⟨sequence ++ front, sequences, more, by simp, ?_, ?_, hne, hsequences⟩
      · exact mt (endsWithin_of_sequence hsequence) hfront
      · rw [stripFrom_sequence hsequence, hlength]
  | shown c rest hc ih =>
      rw [stripFrom_shown hc] at h
      cases before with
      | nil =>
          -- The escape begins no sequence, so there is one between it and the bracket.
          obtain ⟨rfl, hbracket⟩ := List.cons.inj h
          obtain ⟨sequences, more, rfl, hsequences⟩ := exists_of_stripFrom_eq_cons hbracket
          refine ⟨[], sequences, more, rfl, not_endsWithin_nil, rfl, ?_, hsequences⟩
          rintro rfl
          exact hc rfl rfl
      | cons d before =>
          obtain ⟨front, sequences, more, rfl, hfront, hlength, hne, hsequences⟩ :=
            ih (List.cons.inj h).2
          have hc' : c = '\x1b' → front.head? ≠ some '[' := by
            cases front with
            | nil => simp
            | cons d front => exact hc
          refine ⟨c :: front, sequences, more, rfl, mt (endsWithin_of_shown hc') hfront, ?_, hne,
            hsequences⟩
          rw [stripFrom_shown hc', List.length_cons, List.length_cons, hlength]

/-- **Where a new sequence arises**: an escape and a bracket are shown one behind the other exactly where
sequences, and nothing else, stand between the two. -/
theorem joinsAt_iff {n : ℕ} :
    JoinsAt cs n ↔ ∃ before, before ++ ['\x1b', '['] <+: stripFrom false cs ∧ before.length = n := by
  constructor
  · rintro ⟨front, sequences, rest, rfl, hfront, hlength, hne, hsequences⟩
    have hescape : (sequences.flatten ++ '[' :: rest).head? ≠ some '[' := by
      obtain ⟨sequence, sequences, rfl⟩ := List.exists_cons_of_ne_nil hne
      have hsequence := hsequences sequence List.mem_cons_self
      rw [List.flatten_cons, List.append_assoc, hsequence.head?_append]
      decide
    refine ⟨stripFrom false front, ⟨stripFrom false rest, ?_⟩, hlength⟩
    rw [stripFrom_append hfront (by simp), stripFrom_shown fun _ => hescape,
      stripFrom_sequences hsequences, stripFrom_cons (by decide), List.append_assoc]
    rfl
  · rintro ⟨before, ⟨behind, h⟩, rfl⟩
    have hshown : stripFrom false cs = before ++ '\x1b' :: '[' :: behind := by simpa using h.symm
    exact joinsAt_of_stripFrom hshown

/-! ## Texts that are shown as they are -/

lemma hasOpening_iff : HasOpening cs ↔ ∃ before, before ++ ['\x1b', '['] <+: cs := by
  constructor
  · rintro ⟨before, behind, h⟩
    exact ⟨before, behind, h⟩
  · rintro ⟨before, behind, h⟩
    exact ⟨before, behind, h⟩

lemma hasOpening_cons_iff :
    HasOpening (c :: cs) ↔ (c = '\x1b' ∧ cs.head? = some '[') ∨ HasOpening cs := by
  have hhead : ['['] <+: cs ↔ cs.head? = some '[' := by
    cases cs <;> simp [List.cons_prefix_cons, eq_comm]
  rw [HasOpening, List.infix_cons_iff, List.cons_prefix_cons, hhead, eq_comm (a := '\x1b')]
  rfl

lemma hasOpening_concat_iff (hc : c ≠ '[') : HasOpening (cs ++ [c]) ↔ HasOpening cs := by
  simp only [hasOpening_iff, List.prefix_concat_iff]
  constructor
  · rintro ⟨before, hwhole | hbegins⟩
    · have hlast : c = '[' := by simpa using (congrArg List.getLast? hwhole).symm
      exact absurd hlast hc
    · exact ⟨before, hbegins⟩
  · rintro ⟨before, hbegins⟩
    exact ⟨before, Or.inr hbegins⟩

/-- **The texts that are shown as they are** are those without a bracket right behind an escape. -/
theorem stripFrom_eq_self_iff : stripFrom false cs = cs ↔ ¬ HasOpening cs := by
  induction cs using text_induction with
  | empty => simp [stripFrom, HasOpening]
  | unfinished parameters hparameters =>
      rw [stripFrom_unfinished hparameters, hasOpening_cons_iff]
      simp
  | sequence sequence rest hsequence ih =>
      have hopening : HasOpening (sequence ++ rest) := by
        cases hsequence
        exact hasOpening_cons_iff.mpr (Or.inl ⟨rfl, rfl⟩)
      have hlonger : rest.length < (sequence ++ rest).length := by
        obtain ⟨begin, final, rfl, -⟩ := hsequence.exists_final
        rw [List.length_append, List.length_append, List.length_singleton]
        omega
      have hshorter := (stripFrom_sublist false rest).length_le
      rw [stripFrom_sequence hsequence]
      refine iff_of_false (fun heq => ?_) (not_not_intro hopening)
      rw [heq] at hshorter
      omega
  | shown c rest hc ih =>
      rw [stripFrom_shown hc, List.cons_inj_right, ih, hasOpening_cons_iff]
      tauto

lemma hasOpening_stripFrom_iff : HasOpening (stripFrom false cs) ↔ ∃ n, JoinsAt cs n := by
  simp only [hasOpening_iff, joinsAt_iff]
  constructor
  · rintro ⟨before, h⟩
    exact ⟨before.length, before, h, rfl⟩
  · rintro ⟨-, before, h, rfl⟩
    exact ⟨before, h⟩

/-- How much has to be shown of a text for a sequence that arises in it. -/
lemma hasOpening_take_stripFrom_iff {k : ℕ} :
    HasOpening ((stripFrom false cs).take k) ↔ ∃ n, n + 2 ≤ k ∧ JoinsAt cs n := by
  simp only [hasOpening_iff, joinsAt_iff, List.prefix_take_iff, List.length_append]
  constructor
  · rintro ⟨before, h, hk⟩
    exact ⟨before.length, hk, before, h, rfl⟩
  · rintro ⟨-, hk, before, h, rfl⟩
    exact ⟨before, h, hk⟩

end

section

variable {text : String}

lemma stripEscapes_eq_self_iff : stripEscapes text = text ↔ ¬ HasOpening text.toList := by
  rw [← stripFrom_eq_self_iff, ← String.toList_inj, stripEscapes, String.toList_ofList]

lemma displayWidth_eq_length_iff : displayWidth text = text.length ↔ ¬ HasOpening text.toList := by
  rw [← stripFrom_eq_self_iff, displayWidth, ← String.length_toList]
  exact (stripFrom_sublist false text.toList).length_eq

end

/-! ## What is left of a text -/

section

variable {front sequence parameters : String}

lemma stripEscapes_sequence (hfront : ¬ EndsWithin front.toList) (h : IsSequence sequence.toList)
    (rest : String) :
    stripEscapes (front ++ sequence ++ rest) = stripEscapes front ++ stripEscapes rest := by
  have hhead : (sequence.toList ++ rest.toList).head? ≠ some '[' := by
    rw [h.head?_append]
    decide
  rw [stripEscapes, String.toList_append, String.toList_append, List.append_assoc,
    stripFrom_append hfront hhead, stripFrom_sequence h, String.ofList_append]
  rfl

lemma stripEscapes_unfinished (hfront : ¬ EndsWithin front.toList)
    (h : ∀ c ∈ parameters.toList, c.isAlpha = false) :
    stripEscapes (front ++ "\x1b[" ++ parameters) = stripEscapes front := by
  have hchars : (front ++ "\x1b[" ++ parameters).toList
      = front.toList ++ '\x1b' :: '[' :: parameters.toList := by simp
  rw [stripEscapes, hchars, stripFrom_append hfront (by simp), stripFrom_unfinished h,
    List.append_nil]
  rfl

end

/-- A text that is cut is as wide as its column if no sequence arises in what is left of it. -/
lemma displayWidth_fit_iff {text : String} {width : ℕ} (hpos : 0 < width)
    (hcut : width < displayWidth text) :
    displayWidth (fit text width) = width ↔ ¬ ∃ n, n + 2 < width ∧ JoinsAt text.toList n := by
  have hchars : (fit text width).toList = (stripFrom false text.toList).take (width - 1) ++ ['…'] := by
    rw [fit, if_neg (by omega)]
    simp
  have hlength : (fit text width).length = width := by
    rw [displayWidth] at hcut
    rw [← String.length_toList, hchars, List.length_append, List.length_take]
    simp
    omega
  have hfilled : displayWidth (fit text width) = width ↔ ¬ HasOpening (fit text width).toList := by
    rw [← displayWidth_eq_length_iff, hlength]
  have hshown : ∀ n, n + 2 ≤ width - 1 ↔ n + 2 < width := by omega
  rw [hfilled, hchars, hasOpening_concat_iff (by decide), hasOpening_take_stripFrom_iff]
  simp only [hshown]

/-- **What becomes of the sequences of a text.**  Each of them is left out, also one that the text ends
within, and the rest is shown as it is.  In what is left a bracket stands behind an escape exactly if there
were sequences between the two; exactly then a further round changes it, it is shown narrower than it was
measured, and it does not fill the columns that it is cut for and in which both are left. -/
theorem sequences_removed_iff (text : String) :
    (∀ front sequence rest : String, text = front ++ sequence ++ rest →
        ¬ EndsWithin front.toList → IsSequence sequence.toList →
        stripEscapes text = stripEscapes front ++ stripEscapes rest)
      ∧ (∀ front parameters : String, text = front ++ "\x1b[" ++ parameters →
        ¬ EndsWithin front.toList → (∀ c ∈ parameters.toList, c.isAlpha = false) →
        stripEscapes text = stripEscapes front)
      ∧ (HasOpening (stripEscapes text).toList ↔ ∃ n, JoinsAt text.toList n)
      ∧ (stripEscapes (stripEscapes text) = stripEscapes text ↔ ¬ ∃ n, JoinsAt text.toList n)
      ∧ (displayWidth (stripEscapes text) = displayWidth text ↔ ¬ ∃ n, JoinsAt text.toList n)
      ∧ ∀ width, 0 < width → width < displayWidth text →
        (displayWidth (fit text width) = width ↔ ¬ ∃ n, n + 2 < width ∧ JoinsAt text.toList n) := by
  have hopening : HasOpening (stripEscapes text).toList ↔ ∃ n, JoinsAt text.toList n := by
    rw [stripEscapes, String.toList_ofList, hasOpening_stripFrom_iff]
  have hwidth : displayWidth text = (stripEscapes text).length := by
    rw [displayWidth, stripEscapes, String.length_ofList]
  refine ⟨?_, ?_, hopening, ?_, ?_, fun width hpos hcut => displayWidth_fit_iff hpos hcut⟩
  · rintro front sequence rest rfl hfront h
    exact stripEscapes_sequence hfront h rest
  · rintro front parameters rfl hfront h
    exact stripEscapes_unfinished hfront h
  · rw [stripEscapes_eq_self_iff, hopening]
  · rw [hwidth, displayWidth_eq_length_iff, hopening]

/-- A sequence between an escape and a bracket: another one is left, and a cell that is cut to four
characters is shown as one. -/
theorem joined_escape :
    stripEscapes "\x1b\x1b[m[" = "\x1b["
      ∧ HasOpening (stripEscapes "\x1b\x1b[m[").toList
      ∧ stripEscapes (stripEscapes "\x1b\x1b[m[") ≠ stripEscapes "\x1b\x1b[m["
      ∧ displayWidth "\x1b\x1b[m[abc" = 5 ∧ displayWidth (fit "\x1b\x1b[m[abc" 4) = 1 := by
  decide +kernel

end Optline.Display
