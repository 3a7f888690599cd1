import Optline.Proofs.Constraint
import Optline.Proofs.Numeral
import Optline.Proofs.Verdict

/-!
# Accessors and validation

An accessor looks for its flag among the tokens and reads what stands behind it; it knows nothing of
segments or constraints.  Validation checks segments and never asks where a flag stands first.  Both
look at the same tokens all the same: a flag starts a segment wherever it stands, so the run of data
behind its first occurrence is a run that validation has checked.

* `after?_eq_some_iff` — what stands behind the first occurrence of a flag.
* `accepts_run_of_ok` — the run behind any occurrence of a flag satisfies the flag's constraint.
* `ReadsRun` — the values of a flag, in terms of the run behind it.
* **`accessors_read_checked_run`** — in an accepted invocation these are the values that accessors
  return.
-/

namespace Optline

namespace Invocation

/-! ## Where a flag stands -/

lemma after?_of_first {tokens before rest : List String} {flag : String}
    (h : arguments tokens = before ++ flag :: rest) (hfirst : flag ∉ before) :
    after? tokens flag = some rest := by
  have hbefore : before.findIdx? (· == flag) = none := by
    rw [List.findIdx?_eq_none_iff]
    intro token htoken
    rw [beq_eq_false_iff_ne]
    rintro rfl
    exact hfirst htoken
  have hlocate : locate? tokens flag = some (before.length + 1) := by
    simp [locate?, h, List.findIdx?_append, hbefore, List.findIdx?_cons]
  have hdrop : tokens.drop (before.length + 1 + 1) = rest := by
    rw [arguments] at h
    rw [Nat.add_comm (before.length + 1) 1, ← List.drop_drop, h]
    simp
  rw [after?, hlocate, Option.map_some, hdrop]

theorem isUsed_iff {tokens : List String} {flag : String} :
    isUsed tokens flag = true ↔ flag ∈ arguments tokens := by
  simp [isUsed, locate?, List.findIdx?_isSome]

lemma isUsed_iff_after? {tokens : List String} {flag : String} :
    isUsed tokens flag = true ↔ ∃ rest, after? tokens flag = some rest := by
  rw [← Option.isSome_iff_exists, after?, Option.isSome_map, isUsed]

theorem after?_eq_some_iff {tokens rest : List String} {flag : String} :
    after? tokens flag = some rest
      ↔ ∃ before, arguments tokens = before ++ flag :: rest ∧ flag ∉ before := by
  constructor
  · intro h
    have hmem : flag ∈ arguments tokens := isUsed_iff.mp (isUsed_iff_after?.mpr ⟨rest, h⟩)
    obtain ⟨before, rest', hargs, hfirst⟩ := List.eq_append_cons_of_mem hmem
    have hafter : after? tokens flag = some rest' := after?_of_first hargs hfirst
    obtain rfl : rest' = rest := Option.some.inj (hafter.symm.trans h)
    exact ⟨before, hargs, hfirst⟩
  · rintro ⟨before, hargs, hfirst⟩
    exact after?_of_first hargs hfirst

/-! ## What stands behind it -/

section

variable {tokens rest : List String} {flag token : String}

lemma getValue_of_some {α : Type} {wanted : Wanted} {read? : String → Option α} {value : α}
    (h : after? tokens flag = some (token :: rest)) (hread : read? token = some value) :
    getValue wanted read? tokens flag = .ok value := by
  simp only [getValue, h, hread]

lemma getValue_of_none {α : Type} {wanted : Wanted} {read? : String → Option α}
    (h : after? tokens flag = some (token :: rest)) (hread : read? token = none) :
    getValue wanted read? tokens flag = .error (.invalid flag wanted token) := by
  simp only [getValue, h, hread]

lemma getValue_of_last {α : Type} {wanted : Wanted} {read? : String → Option α}
    (h : after? tokens flag = some []) :
    getValue wanted read? tokens flag = .error (.missingValue flag wanted) := by
  simp only [getValue, h]

lemma getString_of_after (h : after? tokens flag = some (token :: rest)) :
    getString tokens flag
      = .ok (Text.unwords ((token :: rest).takeWhile (!endsText ·))) := by
  simp only [getString, h]

lemma getString_of_last (h : after? tokens flag = some []) :
    getString tokens flag = .error (.missingValue flag .string) := by
  simp only [getString, h]

end

/-- Whether a token stands for a variable that was not replaced. -/
def startsVariable (token : String) : Bool :=
  token.toList.head? == some '$'

/-- A text ends where the run of data ends, if no variable ends it before. -/
lemma takeWhile_endsText (rest : List String) :
    rest.takeWhile (!endsText ·)
      = (rest.takeWhile (!isFlagLike ·)).takeWhile (!startsVariable ·) := by
  rw [List.takeWhile_takeWhile]
  congr 1
  funext token
  cases hf : isFlagLike token with
  | true => simp [endsText, hf]
  | false => simp [endsText, startsVariable, hf, beq_eq_decide]

end Invocation

open Invocation

/-! ## What validation has checked -/

/-- With nothing wrong in it, a segment satisfies the constraint of its flag. -/
lemma accepts_of_not_refused {spec : CommandSpec} {flag : String} {run : List String}
    {o : OptionSpec} (ho : spec.FirstDeclared flag o)
    (h : ∀ found, ¬ Refused spec (flag, run) found) : o.compiled.accepts run = true := by
  by_contra hrun
  rw [Bool.not_eq_true] at hrun
  exact h _ (.mismatch ho hrun)

lemma not_refused_of_ok {spec : CommandSpec} {tokens : List String}
    (h : validate spec tokens = .ok) :
    ∀ seg ∈ (segments (arguments tokens)).2, ∀ found, ¬ Refused spec seg found := by
  obtain ⟨-, hpass⟩ := (validate_eq_ok_iff (segmented_segments _)).mp h
  exact fun seg hseg => (hpass seg hseg).2

/-- The run of data behind any occurrence of a flag is the run of a segment. -/
theorem accepts_run_of_ok {spec : CommandSpec} {tokens before rest : List String} {flag : String}
    {o : OptionSpec} (h : validate spec tokens = .ok) (hf : isFlagLike flag = true)
    (ho : spec.FirstDeclared flag o) (hargs : arguments tokens = before ++ flag :: rest) :
    o.compiled.accepts (rest.takeWhile (!isFlagLike ·)) = true := by
  refine accepts_of_not_refused ho (not_refused_of_ok h (flag, _) ?_)
  rw [hargs, segments_append_flag hf, segments_fst rest]
  exact List.mem_append_right _ List.mem_cons_self

/-! ## The values of a flag -/

/-- The values that accessors return for a flag with a constraint, in terms of the run of data
behind its first occurrence. -/
structure ReadsRun (tokens : List String) (flag : String) (c : Constraint) (run : List String) :
    Prop where
  /-- A text is made of the words of the run that come before any variable. -/
  text : run ≠ [] →
    getString tokens flag = .ok (Text.unwords (run.takeWhile (!startsVariable ·)))
  anyString : c = .anyString → run ≠ []
  double : c = .sequence [.typed .double] →
    ∃ token x, run = [token] ∧ Decimal.read64? token = some x ∧ getDouble tokens flag = .ok x
  float : c = .sequence [.typed .float] →
    ∃ token x, run = [token] ∧ Decimal.read32? token = some x ∧ getFloat tokens flag = .ok x
  /-- An integer is looked for in one token only, and may be too large. -/
  int : c = .sequence [.typed .int] →
    ∃ token, run = [token] ∧ (∀ n, int64? token = some n → getInt tokens flag = .ok n)
      ∧ (int64? token = none → getInt tokens flag = .error (.invalid flag .int token))

/-- Behind a flag with a constraint of one slot stands the one token of its run. -/
lemma exists_token_of_accepts {slot : Slot} {rest : List String}
    (h : (Constraint.sequence [slot]).accepts (rest.takeWhile (!isFlagLike ·)) = true) :
    ∃ token tail, rest = token :: tail ∧ rest.takeWhile (!isFlagLike ·) = [token]
      ∧ slot.accepts token = true := by
  obtain ⟨token, hrun, htoken⟩ := Constraint.accepts_singleton h
  obtain ⟨tail, hrest⟩ := List.takeWhile_prefix (!isFlagLike ·)
  rw [hrun] at hrest
  exact ⟨token, tail, hrest.symm, hrun, htoken⟩

lemma exists_getValue_of_isDecimalText {α : Type} {wanted : Wanted} {read? : String → Option α}
    {tokens tail : List String} {flag token : String}
    (hread : ∀ {text}, isDecimalText text = true → ∃ x, read? text = some x)
    (hafter : after? tokens flag = some (token :: tail)) (htoken : isDecimalText token = true) :
    ∃ x, read? token = some x
      ∧ getValue wanted (fun t => if isDecimalText t then read? t else none) tokens flag
        = .ok x := by
  obtain ⟨x, hx⟩ := hread htoken
  exact ⟨x, hx, getValue_of_some hafter (by rw [if_pos htoken, hx])⟩

/-- **Accessors read what validation has checked.**  In an accepted invocation the values of a
declared flag are those of the run of data behind its first occurrence. -/
theorem accessors_read_checked_run {spec : CommandSpec} {tokens : List String} {flag : String}
    {o : OptionSpec} (h : validate spec tokens = .ok) (hf : isFlagLike flag = true)
    (ho : spec.FirstDeclared flag o) (hmem : flag ∈ arguments tokens) :
    ∃ before rest, arguments tokens = before ++ flag :: rest ∧ flag ∉ before
      ∧ ReadsRun tokens flag o.compiled (rest.takeWhile (!isFlagLike ·)) := by
  obtain ⟨before, rest, hargs, hfirst⟩ := List.eq_append_cons_of_mem hmem
  have hafter : after? tokens flag = some rest := after?_of_first hargs hfirst
  have haccepts : o.compiled.accepts (rest.takeWhile (!isFlagLike ·)) = true :=
    accepts_run_of_ok h hf ho hargs
  refine ⟨before, rest, hargs, hfirst, ?_, ?_, ?_, ?_, ?_⟩
  · intro hne
    rw [← takeWhile_endsText]
    cases rest with
    | nil => exact absurd rfl hne
    | cons token rest => exact getString_of_after hafter
  · intro hc hnil
    rw [hc, hnil, Constraint.accepts_nil_iff] at haccepts
    exact absurd haccepts (by simp)
  · intro hc
    rw [hc] at haccepts
    obtain ⟨token, tail, rfl, hrun, htoken⟩ := exists_token_of_accepts haccepts
    obtain ⟨x, hx, hget⟩ := exists_getValue_of_isDecimalText exists_read64? hafter htoken
    exact ⟨token, x, hrun, hx, hget⟩
  · intro hc
    rw [hc] at haccepts
    obtain ⟨token, tail, rfl, hrun, htoken⟩ := exists_token_of_accepts haccepts
    obtain ⟨x, hx, hget⟩ := exists_getValue_of_isDecimalText exists_read32? hafter htoken
    exact ⟨token, x, hrun, hx, hget⟩
  · intro hc
    rw [hc] at haccepts
    obtain ⟨token, tail, rfl, hrun, -⟩ := exists_token_of_accepts haccepts
    exact ⟨token, hrun, fun n hn => getValue_of_some hafter hn, getValue_of_none hafter⟩

/-- An option read as a number, in front of another option and of a variable. -/
theorem accessors_read_checked_run_number :
    let spec := CommandSpec.compile "cell" "-scale <double> -label <string>"
    let tokens := ["cell", "-scale", "-2.5", "-label", "top", "$side"]
    let o : OptionSpec := ⟨"-scale", "<double>"⟩
    (validate spec tokens = .ok ∧ isFlagLike "-scale" = true ∧ spec.FirstDeclared "-scale" o
        ∧ "-scale" ∈ arguments tokens)
      ∧ ∃ before rest, arguments tokens = before ++ "-scale" :: rest ∧ "-scale" ∉ before
        ∧ ReadsRun tokens "-scale" o.compiled (rest.takeWhile (!isFlagLike ·)) := by
  intro spec tokens o
  have h : validate spec tokens = .ok := by decide +kernel
  have hf : isFlagLike "-scale" = true := by decide
  have ho : spec.FirstDeclared "-scale" o := option?_eq_some_iff.mp (by decide +kernel)
  have hmem : "-scale" ∈ arguments tokens := by decide
  exact ⟨⟨h, hf, ho, hmem⟩, accessors_read_checked_run h hf ho hmem⟩

/-- The placeholders that stand alone, in the form that `ReadsRun` looks at. -/
example :
    Constraint.compile "<string>" = .anyString
      ∧ Constraint.compile "<double>" = .sequence [.typed .double]
      ∧ Constraint.compile "<float>" = .sequence [.typed .float]
      ∧ Constraint.compile "<int>" = .sequence [.typed .int] := by
  decide +kernel

end Optline
