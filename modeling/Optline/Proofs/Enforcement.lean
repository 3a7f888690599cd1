import Optline.Proofs.Access
import Optline.Proofs.SpecTokens

/-!
# Which options validation enforces

A specification may declare any flag behind a lone minus, also one such as `-3d` that does not look
like a flag.  Accessors find it, since they go by equality; validation cuts the arguments at the
tokens that look like flags and takes `-3d` for data of whatever stands before it.

* `CommandSpec.ownRun` — the tokens that belong to a flag if declared flags count as flags.
* `Enforced` — every declared flag of an invocation has a run that satisfies its constraint.
* **`accepted_enforced_iff`** — a specification enforces all its options in every accepted
  invocation if and only if all its flags look like flags.
* `promoted_not_enforced` — a number flag that goes unchecked, and one that is counted as data of
  the option before it.

For the converse an accepted invocation is built from data alone: some run without any flag fails
every constraint there is (`exists_refused_run`), and behind a flag that is data to validation
nobody looks at it.
-/

namespace Optline

open Invocation

/-! ## Flags of a specification -/

/-- A flag that begins like a negative number. -/
def IsNumberFlag (flag : String) : Prop :=
  ∃ c cs, flag.toList = '-' :: c :: cs ∧ c.isDigit = true

lemma isFlagLike_flag_iff {name raw : String} {o : OptionSpec}
    (h : o ∈ (CommandSpec.compile name raw).options) :
    isFlagLike o.flag = true ↔ ¬ IsNumberFlag o.flag := by
  obtain ⟨c, cs, hflag⟩ := exists_flag_of_mem_compile h
  simp [isFlagLike, IsNumberFlag, hflag]

/-! ## Runs that are data to validation -/

/-- Arguments without any flag are accepted if there are enough of them. -/
lemma validate_of_data {spec : CommandSpec} {tokens : List String}
    (hdata : IsData (arguments tokens)) (henough : spec.required ≤ (arguments tokens).length) :
    validate spec tokens = .ok := by
  have hcut : Segmented (arguments tokens) (arguments tokens) [] :=
    ⟨by simp [joined], hdata, by simp, by simp⟩
  have hall : data (arguments tokens) = arguments tokens :=
    List.filter_eq_self.mpr fun token htoken => by simp [hdata token htoken]
  exact (validate_eq_ok_iff hcut).mpr ⟨by rw [hall]; exact henough, by simp⟩

/-! ## Enforcement -/

/-- The tokens behind a flag up to the next token that looks like a flag or is a declared one. -/
def CommandSpec.ownRun (spec : CommandSpec) (rest : List String) : List String :=
  rest.takeWhile fun token => !isFlagLike token && (spec.option? token).isNone

/-- Wherever a declared flag stands among the arguments, its own run satisfies the constraint of the
first option that is declared with it. -/
def Enforced (spec : CommandSpec) (tokens : List String) : Prop :=
  ∀ before flag rest o, arguments tokens = before ++ flag :: rest → spec.FirstDeclared flag o →
    o.compiled.accepts (spec.ownRun rest) = true

/-- A run without a declared flag among its data is the run that validation checks. -/
lemma ownRun_eq_takeWhile {spec : CommandSpec} {rest : List String}
    (h : ∀ token ∈ rest.takeWhile (!isFlagLike ·), ¬ spec.Declares token) :
    spec.ownRun rest = rest.takeWhile (!isFlagLike ·) := by
  rw [CommandSpec.ownRun]
  induction rest with
  | nil => rfl
  | cons token rest ih =>
      cases hf : isFlagLike token with
      | true => simp [hf]
      | false =>
          have hrun : (token :: rest).takeWhile (!isFlagLike ·)
              = token :: rest.takeWhile (!isFlagLike ·) := by simp [hf]
          rw [hrun] at h ⊢
          have hnone : spec.option? token = none :=
            option?_eq_none_iff.mpr (h token List.mem_cons_self)
          rw [List.takeWhile_cons_of_pos (by simp [hf, hnone]),
            ih fun t ht => h t (List.mem_cons_of_mem _ ht)]

/-- Behind a flag that does not look like one anything goes. -/
lemma exists_accepted_not_enforced {name raw flag : String} {o : OptionSpec}
    (ho : (CommandSpec.compile name raw).FirstDeclared flag o) (hf : isFlagLike flag = false) :
    ∃ tokens, validate (CommandSpec.compile name raw) tokens = .ok
      ∧ ¬ Enforced (CommandSpec.compile name raw) tokens := by
  obtain ⟨run, hrun, hrefused⟩ := Constraint.exists_refused_run o.constraint
  have hdata : IsData run := by
    intro word hword
    rw [← Bool.not_eq_true, isFlagLike_iff]
    rintro ⟨c, cs, hchars, -⟩
    exact hrun word hword (by rw [hchars]; rfl)
  set spec := CommandSpec.compile name raw
  have hundeclared : ∀ word ∈ run, spec.option? word = none := by
    intro word hword
    rw [option?_eq_none_iff]
    rintro ⟨p, hp, rfl⟩
    obtain ⟨c, cs, hflag⟩ := exists_flag_of_mem_compile hp
    exact hrun p.flag hword (by rw [hflag]; rfl)
  -- With enough data in front, nothing but the run behind the flag is left to object to.
  let padding := List.replicate spec.required "x"
  refine ⟨name :: (padding ++ flag :: run), validate_of_data ?_ ?_, fun henforced => ?_⟩
  · intro token htoken
    rcases List.mem_append.mp htoken with hpad | hrest
    · rw [List.eq_of_mem_replicate hpad]
      decide
    · rcases List.mem_cons.mp hrest with rfl | hword
      · exact hf
      · exact hdata token hword
  · simp [arguments, padding]
  · have hown : spec.ownRun run = run :=
      List.takeWhile_eq_self_iff.mpr fun word hword => by
        simp [hdata word hword, hundeclared word hword]
    have haccepts := henforced padding flag run o rfl ho
    rw [hown, OptionSpec.compiled, hrefused] at haccepts
    exact absurd haccepts (by simp)

lemma enforced_of_ok {spec : CommandSpec} {tokens before rest : List String} {flag : String}
    {o : OptionSpec} (h : validate spec tokens = .ok)
    (hargs : arguments tokens = before ++ flag :: rest) (ho : spec.FirstDeclared flag o)
    (hf : isFlagLike flag = true)
    (hdata : ∀ token ∈ rest.takeWhile (!isFlagLike ·), ¬ spec.Declares token) :
    o.compiled.accepts (spec.ownRun rest) = true := by
  rw [ownRun_eq_takeWhile hdata]
  exact accepts_run_of_ok h hf ho hargs

/-- **What is declared is enforced, number flags apart.**  A specification enforces all its options
in every invocation that validation accepts if and only if no flag of it looks like a number; and in
one that declares such flags, every other option is still enforced where none of them stands among
its data. -/
theorem accepted_enforced_iff (name raw : String) :
    let spec := CommandSpec.compile name raw
    ((∀ tokens, validate spec tokens = .ok → Enforced spec tokens)
        ↔ ∀ o ∈ spec.options, ¬ IsNumberFlag o.flag)
      ∧ ∀ tokens before flag rest o, validate spec tokens = .ok →
        arguments tokens = before ++ flag :: rest → spec.FirstDeclared flag o →
        ¬ IsNumberFlag flag → (∀ token ∈ rest.takeWhile (!isFlagLike ·), ¬ spec.Declares token) →
        o.compiled.accepts (spec.ownRun rest) = true := by
  intro spec
  refine ⟨⟨fun h o ho hnumber => ?_, fun h tokens hok => ?_⟩, ?_⟩
  · obtain ⟨first, hfirst⟩ := Option.isSome_iff_exists.mp (option?_isSome_iff.mpr ⟨o, ho, rfl⟩)
    have hlike : isFlagLike o.flag = false := by
      rw [← Bool.not_eq_true, isFlagLike_flag_iff ho]
      exact not_not.mpr hnumber
    obtain ⟨tokens, hok, hnot⟩ :=
      exists_accepted_not_enforced (option?_eq_some_iff.mp hfirst) hlike
    exact hnot (h tokens hok)
  · have hlike : ∀ p ∈ spec.options, isFlagLike p.flag = true := fun p hp =>
      (isFlagLike_flag_iff hp).mpr (h p hp)
    intro before flag rest o hargs hfirst
    obtain ⟨ho, rfl⟩ := hfirst.mem
    refine enforced_of_ok hok hargs hfirst (hlike o ho) ?_
    -- A declared token would look like a flag, and the run has none of those.
    rintro token htoken ⟨p, hp, rfl⟩
    have hdata := List.mem_takeWhile_imp htoken
    rw [hlike p hp] at hdata
    exact absurd hdata (by simp)
  · intro tokens before flag rest o hok hargs hfirst hnumber hdata
    obtain ⟨ho, rfl⟩ := hfirst.mem
    exact enforced_of_ok hok hargs hfirst ((isFlagLike_flag_iff ho).mpr hnumber) hdata

/-- An option behind a lone minus that is given a word in place of an integer, and one that an
option before it takes for the second of its two integers. -/
theorem promoted_not_enforced :
    let option3d := CommandSpec.compile "cmd" "- -3d <int>"
    let option3 := CommandSpec.compile "cmd" "-size <int> <int> - 3 <int>"
    (validate option3d ["cmd", "-3d", "x"] = .ok ∧ ¬ Enforced option3d ["cmd", "-3d", "x"])
      ∧ (validate option3 ["cmd", "-size", "5", "-3"] = .ok
        ∧ ¬ Enforced option3 ["cmd", "-size", "5", "-3"]) := by
  intro option3d option3
  refine ⟨⟨by decide +kernel, fun h => ?_⟩, by decide +kernel, fun h => ?_⟩
  · have hfirst : option3d.FirstDeclared "-3d" ⟨"-3d", "<int>"⟩ :=
      option?_eq_some_iff.mp (by decide +kernel)
    exact absurd (h [] "-3d" ["x"] _ rfl hfirst) (by decide +kernel)
  · have hfirst : option3.FirstDeclared "-size" ⟨"-size", "<int> <int>"⟩ :=
      option?_eq_some_iff.mp (by decide +kernel)
    exact absurd (h [] "-size" ["5", "-3"] _ rfl hfirst) (by decide +kernel)

end Optline
