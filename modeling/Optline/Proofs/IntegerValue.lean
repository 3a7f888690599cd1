import Mathlib.Data.Nat.Digits.Defs
import Optline.Proofs.Access

/-!
# The integer of an option

Whether an option has an integer is settled in two steps: what stands behind its flag has to look like
an integer, and the integer has to be one of 64 bits.  A text of this look may be of any length, with
zeros in front or not, so the second step is about the integer that the text denotes and not about its
characters.

* `placeValue`, `Denotes` — the integer that a text denotes, by the places of its digits.
* **`integer?_eq_some_iff`** — reading finds this integer.
* `getValue_eq_ok_iff`, `getValue_eq_error_iff` — when an option has a value of any type, and why not.
* **`getInt_exact`** — which options have an integer, which one it is, and what is wrong with the
  others.
-/

namespace Optline

open Decimal Invocation

/-! ## What a text denotes -/

/-- The number that digits denote; the last of them counts ones. -/
def placeValue (digits : List Char) : Nat :=
  Nat.ofDigits 10 (digits.reverse.map fun c => c.toNat - '0'.toNat)

/-- Whether a text is one or more digits, perhaps behind a minus, and which integer it denotes then. -/
inductive Denotes (text : String) : Int → Prop
  | plain (hne : text ≠ "") (h : ∀ c ∈ text.toList, c.isDigit = true) :
      Denotes text (placeValue text.toList)
  | negated {digits : List Char} (htext : text.toList = '-' :: digits) (hne : digits ≠ [])
      (h : ∀ c ∈ digits, c.isDigit = true) : Denotes text (-(placeValue digits : Int))

/-- Reading digits from the left gives each of them the weight of its place. -/
lemma digitsValue_eq_placeValue (digits : List Char) : digitsValue digits = placeValue digits := by
  induction digits using List.reverseRecOn with
  | nil => rfl
  | append_singleton digits c ih =>
      rw [digitsValue, List.foldl_concat, ← digitsValue, ih, placeValue, placeValue,
        List.reverse_concat, List.map_cons, Nat.ofDigits_cons, Nat.add_comm]

/-- **An integer text is read as the integer that it denotes.** -/
theorem integer?_eq_some_iff {text : String} {n : Int} : integer? text = some n ↔ Denotes text n := by
  have hchars : (text = "") = (text.toList = []) := by rw [String.toList_eq_nil_iff]
  constructor
  · intro h
    unfold integer? at h
    split at h
    next digits htext =>
      split_ifs at h with hdigits
      rw [← Option.some.inj h, digitsValue_eq_placeValue]
      exact .negated htext hdigits.1 (List.all_eq_true.mp hdigits.2)
    next =>
      split_ifs at h with hdigits
      rw [← Option.some.inj h, digitsValue_eq_placeValue]
      exact .plain (by rw [ne_eq, hchars]; exact hdigits.1) (List.all_eq_true.mp hdigits.2)
  · rintro (⟨hne, h⟩ | ⟨htext, hne, h⟩)
    · unfold integer?
      split
      next digits htext =>
        -- A minus is no digit.
        exact absurd (h '-' (by simp [htext])) (by decide)
      next =>
        rw [ne_eq, hchars] at hne
        rw [if_pos ⟨hne, List.all_eq_true.mpr h⟩, digitsValue_eq_placeValue]
    · simp only [integer?, htext]
      rw [if_pos ⟨hne, List.all_eq_true.mpr h⟩, digitsValue_eq_placeValue]

/-- Whether an integer is one of 64 bits with a sign. -/
def FitsWord (n : Int) : Prop :=
  -2 ^ 63 ≤ n ∧ n ≤ 2 ^ 63 - 1

lemma int64?_iff_denotes {text : String} {n : Int} :
    int64? text = some n ↔ Denotes text n ∧ FitsWord n := by
  rw [int64?_eq_some_iff, integer?_eq_some_iff, FitsWord, Int.le_sub_one_iff]

lemma int64?_eq_none_iff {text : String} :
    int64? text = none ↔ ∀ n, Denotes text n → ¬ FitsWord n := by
  rw [Option.eq_none_iff_forall_ne_some]
  simp only [ne_eq, int64?_iff_denotes, not_and]

/-! ## Values of any type -/

section

variable {α : Type} {wanted : Wanted} {read? : String → Option α} {tokens : List String}
  {flag : String}

/-- An option has the value of the token behind the first occurrence of its flag. -/
lemma getValue_eq_ok_iff {value : α} :
    getValue wanted read? tokens flag = .ok value
      ↔ ∃ before token rest, arguments tokens = before ++ flag :: token :: rest ∧ flag ∉ before
        ∧ read? token = some value := by
  constructor
  · intro h
    unfold getValue at h
    split at h
    · simp at h
    · simp at h
    next token rest hafter =>
      obtain ⟨before, hargs, hfirst⟩ := after?_eq_some_iff.mp hafter
      split at h
      next found hread =>
        rw [Except.ok.inj h] at hread
        exact ⟨before, token, rest, hargs, hfirst, hread⟩
      · simp at h
  · rintro ⟨before, token, rest, hargs, hfirst, hread⟩
    exact getValue_of_some (after?_of_first hargs hfirst) hread

/-- Why an option has no value: its flag is not given, nothing stands behind the first occurrence of
it, or what stands there is not read. -/
inductive LacksValue (wanted : Wanted) (read? : String → Option α) (tokens : List String)
    (flag : String) : AccessError → Prop
  | absent (h : flag ∉ arguments tokens) : LacksValue wanted read? tokens flag (.absent flag)
  | last {before : List String} (hargs : arguments tokens = before ++ [flag])
      (hfirst : flag ∉ before) : LacksValue wanted read? tokens flag (.missingValue flag wanted)
  | other {before rest : List String} {found : String}
      (hargs : arguments tokens = before ++ flag :: found :: rest) (hfirst : flag ∉ before)
      (hread : read? found = none) :
      LacksValue wanted read? tokens flag (.invalid flag wanted found)

lemma getValue_eq_error_iff {e : AccessError} :
    getValue wanted read? tokens flag = .error e ↔ LacksValue wanted read? tokens flag e := by
  constructor
  · intro h
    unfold getValue at h
    split at h
    next hafter =>
      rw [← Except.error.inj h]
      refine .absent fun hmem => ?_
      obtain ⟨rest, hrest⟩ := isUsed_iff_after?.mp (isUsed_iff.mpr hmem)
      exact absurd (hafter.symm.trans hrest) (by simp)
    next hafter =>
      obtain ⟨before, hargs, hfirst⟩ := after?_eq_some_iff.mp hafter
      rw [← Except.error.inj h]
      exact .last hargs hfirst
    next found rest hafter =>
      obtain ⟨before, hargs, hfirst⟩ := after?_eq_some_iff.mp hafter
      split at h
      · simp at h
      next hread =>
        rw [← Except.error.inj h]
        exact .other hargs hfirst hread
  · rintro (h | ⟨hargs, hfirst⟩ | ⟨hargs, hfirst, hread⟩)
    · have hafter : after? tokens flag = none := by
        rw [Option.eq_none_iff_forall_ne_some]
        intro rest hrest
        exact h (isUsed_iff.mp (isUsed_iff_after?.mpr ⟨rest, hrest⟩))
      simp only [getValue, hafter]
    · exact getValue_of_last (after?_of_first hargs hfirst)
    · exact getValue_of_none (after?_of_first hargs hfirst) hread

end

/-! ## Integers -/

/-- **An option has an integer exactly if one of 64 bits stands behind its flag.**  The flag is looked
for behind the name of the command, and the token behind its first occurrence has to be digits,
perhaps behind a minus, that denote an integer from `-2 ^ 63` to `2 ^ 63 - 1`; this integer is the
value.  Otherwise the flag is not given, or it is the last token, or the token behind it is another
text, and the error is the one for that. -/
theorem getInt_exact (tokens : List String) (flag : String) :
    (∀ v, getInt tokens flag = .ok v
        ↔ ∃ before token rest, arguments tokens = before ++ flag :: token :: rest ∧ flag ∉ before
          ∧ Denotes token v ∧ -2 ^ 63 ≤ v ∧ v ≤ 2 ^ 63 - 1)
      ∧ (getInt tokens flag = .error (.absent flag) ↔ flag ∉ arguments tokens)
      ∧ (getInt tokens flag = .error (.missingValue flag .int)
        ↔ ∃ before, arguments tokens = before ++ [flag] ∧ flag ∉ before)
      ∧ (∀ found, getInt tokens flag = .error (.invalid flag .int found)
        ↔ ∃ before rest, arguments tokens = before ++ flag :: found :: rest ∧ flag ∉ before
          ∧ ∀ v, Denotes found v → ¬ (-2 ^ 63 ≤ v ∧ v ≤ 2 ^ 63 - 1))
      ∧ ∀ e, getInt tokens flag = .error e →
        e = .absent flag ∨ e = .missingValue flag .int ∨ ∃ found, e = .invalid flag .int found := by
  have herror : ∀ e, getInt tokens flag = .error e ↔ LacksValue .int int64? tokens flag e :=
    fun _ => getValue_eq_error_iff
  refine ⟨fun v => ?_, ?_, ?_, fun found => ?_, fun e h => ?_⟩
  · simp only [getInt, getValue_eq_ok_iff, int64?_iff_denotes, FitsWord]
  · rw [herror]
    refine ⟨fun h => ?_, .absent⟩
    cases h with
    | absent h => exact h
  · rw [herror]
    constructor
    · rintro (_ | ⟨hargs, hfirst⟩)
      exact ⟨_, hargs, hfirst⟩
    · rintro ⟨before, hargs, hfirst⟩
      exact .last hargs hfirst
  · rw [herror]
    constructor
    · rintro (_ | _ | ⟨hargs, hfirst, hread⟩)
      exact ⟨_, _, hargs, hfirst, int64?_eq_none_iff.mp hread⟩
    · rintro ⟨before, rest, hargs, hfirst, hother⟩
      exact .other hargs hfirst (int64?_eq_none_iff.mpr hother)
  · cases (herror e).mp h with
    | absent => exact Or.inl rfl
    | last => exact Or.inr (Or.inl rfl)
    | other => exact Or.inr (Or.inr ⟨_, rfl⟩)

/-- The least integer of 64 bits behind zeros, and the first one that is too large. -/
example :
    getInt ["c", "-n", "-009223372036854775808"] "-n" = .ok (-2 ^ 63)
      ∧ getInt ["c", "-n", "9223372036854775808"] "-n"
        = .error (.invalid "-n" .int "9223372036854775808") := by
  exact ⟨rfl, rfl⟩

end Optline
