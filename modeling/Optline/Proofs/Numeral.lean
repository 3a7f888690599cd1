import Mathlib.Algebra.Group.Int.Defs
import Mathlib.Data.List.TakeWhile
import Mathlib.Tactic.Lemma
import Optline.Invocation

/-!
# Numerals

Validation tells numbers from other words by their characters alone; the accessors read them.  For
fractions the two agree: every text in the class of `isDecimalText` is the text of a number in both
formats.  For integers they do not: `isIntegerText` is the class of the texts that denote an integer,
and `int64?` reads only those whose integer fits into 64 bits.

* **`exists_read64?`**, **`exists_read32?`** — a decimal text is read.
* `isIntegerText_iff` — an integer text denotes an integer.
* **`int64?_eq_some_iff`** — which integers are read.
-/

namespace Optline

open Decimal

/-! ## Fractions -/

/-- The characters of a decimal text behind its sign. -/
def IsDecimalChar (c : Char) : Prop :=
  c = '.' ∨ c.isDigit = true

instance (c : Char) : Decidable (IsDecimalChar c) :=
  inferInstanceAs (Decidable (_ ∨ _))

lemma isDecimalText_iff {text : String} :
    isDecimalText text = true
      ↔ (∀ c ∈ unsigned text, IsDecimalChar c) ∧ (unsigned text).count '.' ≤ 1
        ∧ ∃ c ∈ unsigned text, c.isDigit = true := by
  simp [isDecimalText, IsDecimalChar, and_assoc]

lemma mantissa_cons_digit {c : Char} (hc : c.isDigit = true) (cs : List Char) :
    mantissa (c :: cs) = (c :: (mantissa cs).1, (mantissa cs).2) := by
  simp only [mantissa, List.takeWhile_cons_of_pos hc, List.dropWhile_cons_of_pos hc]
  split
  · rfl
  · rfl

/-- Without a second point the digits after the first one go to the end, so that the mantissa of a
decimal text is the whole text, and it holds all the digits. -/
lemma mantissa_of_decimal {cs : List Char} (hall : ∀ c ∈ cs, IsDecimalChar c)
    (hcount : cs.count '.' ≤ 1) :
    ∃ whole fraction, mantissa cs = (whole, fraction, [])
      ∧ whole ++ fraction = cs.filter Char.isDigit := by
  induction cs with
  | nil => exact ⟨[], [], rfl, rfl⟩
  | cons c cs ih =>
      rcases hall c (by simp) with rfl | hc
      · have hdigits : ∀ d ∈ cs, d.isDigit = true := by
          intro d hd
          rcases hall d (by simp [hd]) with rfl | hdigit
          · rw [List.count_cons_self] at hcount
            have hpos : 0 < cs.count '.' := List.count_pos_iff.mpr hd
            omega
          · exact hdigit
        refine ⟨[], cs, ?_, ?_⟩
        · have htake : cs.takeWhile Char.isDigit = cs := List.takeWhile_eq_self_iff.mpr hdigits
          have hdrop : cs.dropWhile Char.isDigit = [] := List.dropWhile_eq_nil_iff.mpr hdigits
          have hpoint : ('.' : Char).isDigit = false := by decide
          simp [mantissa, hpoint, htake, hdrop]
        · have hpoint : ('.' : Char).isDigit = false := by decide
          rw [List.nil_append, List.filter_cons_of_neg (by simp [hpoint]),
            List.filter_eq_self.mpr hdigits]
      · have hne : c ≠ '.' := by
          rintro rfl
          exact absurd hc (by decide)
        rw [List.count_cons_of_ne hne] at hcount
        obtain ⟨whole, fraction, hmantissa, happend⟩ :=
          ih (fun d hd => hall d (by simp [hd])) hcount
        refine ⟨c :: whole, fraction, ?_, by simp [hc, happend]⟩
        rw [mantissa_cons_digit hc, hmantissa]

/-- The sign of a decimal text is a minus or nothing; a plus is no character of it. -/
lemma takeSign_snd {text : String} (hall : ∀ c ∈ unsigned text, IsDecimalChar c) :
    (takeSign text.toList).2 = unsigned text := by
  unfold unsigned at hall ⊢
  unfold takeSign
  split
  next cs htext => simp only [htext]
  next cs htext =>
    rw [htext] at hall
    exact absurd (hall '+' (by simp)) (by decide)
  next hminus hplus =>
    split
    next cs htext => exact absurd htext (hminus cs)
    next => rfl

theorem read?_isSome_of_isDecimalText {text : String} (h : isDecimalText text = true) :
    (Literal.read? text).isSome = true := by
  obtain ⟨hall, hcount, digit, hmem, hdigit⟩ := isDecimalText_iff.mp h
  obtain ⟨whole, fraction, hmantissa, happend⟩ := mantissa_of_decimal hall hcount
  have hne : whole ++ fraction ≠ [] := by
    rw [happend]
    exact List.ne_nil_of_mem (List.mem_filter.mpr ⟨hmem, hdigit⟩)
  have hfinite : (finite? (unsigned text)).isSome = true := by
    simp only [finite?, hmantissa, if_neg hne]
    rfl
  rw [Literal.read?, Option.isSome_map, takeSign_snd hall, magnitude?]
  split_ifs
  · rfl
  · rfl
  · exact hfinite

/-- A decimal text is the text of a number of 64 bits. -/
theorem exists_read64? {text : String} (h : isDecimalText text = true) :
    ∃ x, read64? text = some x := by
  rw [← Option.isSome_iff_exists, read64?, Option.isSome_map]
  exact read?_isSome_of_isDecimalText h

/-- A decimal text is the text of a number of 32 bits. -/
theorem exists_read32? {text : String} (h : isDecimalText text = true) :
    ∃ x, read32? text = some x := by
  rw [← Option.isSome_iff_exists, read32?, Option.isSome_map]
  exact read?_isSome_of_isDecimalText h

/-! ## Integers -/

/-- The class of integer texts is the class of the texts that denote an integer. -/
theorem isIntegerText_iff {text : String} :
    isIntegerText text = true ↔ ∃ n, integer? text = some n := by
  have hclass : isIntegerText text = true
      ↔ unsigned text ≠ [] ∧ (unsigned text).all Char.isDigit = true := by
    simp [isIntegerText]
  rw [hclass, unsigned, integer?]
  cases text.toList with
  | nil => simp
  | cons c ds =>
      by_cases hc : c = '-'
      · subst hc
        simp
      · simp [hc]

/-- An integer is read if it fits into 64 bits with a sign. -/
theorem int64?_eq_some_iff {text : String} {n : Int} :
    Invocation.int64? text = some n
      ↔ integer? text = some n ∧ -2 ^ 63 ≤ n ∧ n < 2 ^ 63 := by
  have hhalf : ((wordCount / 2 : Nat) : Int) = 2 ^ 63 := by decide
  simp [Invocation.int64?, Option.filter_eq_some_iff, hhalf]

lemma exists_int64?_iff {text : String} {n : Int} (h : integer? text = some n) :
    (∃ m, Invocation.int64? text = some m) ↔ -2 ^ 63 ≤ n ∧ n < 2 ^ 63 := by
  constructor
  · rintro ⟨m, hm⟩
    obtain ⟨hinteger, hbounds⟩ := int64?_eq_some_iff.mp hm
    obtain rfl : n = m := Option.some.inj (h.symm.trans hinteger)
    exact hbounds
  · intro hbounds
    exact ⟨n, int64?_eq_some_iff.mpr ⟨h, hbounds⟩⟩

end Optline
