import Mathlib.Data.List.TakeWhile
import Optline.Proofs.Segment

/-!
# What validation finds

`validate` returns an outcome; this file says which one is right.  The rules are given as a relation
`Verdict` between the arguments of an invocation and an outcome, with one rule for each kind of
outcome, in terms of the text of the invocation and of the declarations alone: which token comes
first, how the arguments fall into segments, which declaration of a flag is the first.

* `Declares`, `FirstDeclared` — what the options of a command say about a flag.
* `Refused` — what is wrong with one segment.
* `Verdict` — what is wrong with an invocation.
* `Passes`, `validate_eq_ok_iff` — an invocation is accepted if there is enough data and nothing is
  wrong with any segment.
* **`validate_follows_rules`** — `validate` returns exactly the outcome that the rules allow.

Every rule determines what `validate` computes (`validate_of_verdict`), and some rule always applies
(`exists_verdict`).  Together these make the rules a function, and the function `validate`.
-/

namespace Optline

open Invocation

/-! ## Declarations -/

/-- Whether some option has the flag. -/
def CommandSpec.Declares (spec : CommandSpec) (flag : String) : Prop :=
  ∃ o ∈ spec.options, o.flag = flag

/-- The option `o` has the flag, and no option before it does. -/
def CommandSpec.FirstDeclared (spec : CommandSpec) (flag : String) (o : OptionSpec) : Prop :=
  ∃ before after, spec.options = before ++ o :: after ∧ o.flag = flag
    ∧ ∀ p ∈ before, p.flag ≠ flag

lemma CommandSpec.FirstDeclared.mem {spec : CommandSpec} {flag : String} {o : OptionSpec}
    (h : spec.FirstDeclared flag o) : o ∈ spec.options ∧ o.flag = flag := by
  obtain ⟨before, after, hopts, hflag, -⟩ := h
  exact ⟨by rw [hopts]; simp, hflag⟩

theorem option?_eq_some_iff {spec : CommandSpec} {flag : String} {o : OptionSpec} :
    spec.option? flag = some o ↔ spec.FirstDeclared flag o := by
  rw [CommandSpec.option?, List.find?_eq_some_iff_append]
  constructor
  · rintro ⟨hflag, before, after, hopts, hbefore⟩
    exact ⟨before, after, hopts, by simpa using hflag, fun p hp => by simpa using hbefore p hp⟩
  · rintro ⟨before, after, hopts, hflag, hbefore⟩
    exact ⟨by simpa using hflag, before, after, hopts, fun p hp => by simpa using hbefore p hp⟩

theorem option?_eq_none_iff {spec : CommandSpec} {flag : String} :
    spec.option? flag = none ↔ ¬ spec.Declares flag := by
  simp [CommandSpec.option?, CommandSpec.Declares]

theorem option?_isSome_iff {spec : CommandSpec} {flag : String} :
    (spec.option? flag).isSome = true ↔ spec.Declares flag := by
  simp [CommandSpec.option?, CommandSpec.Declares]

/-! ## Requests for help -/

/-- Whether a token asks for help. -/
def AsksHelp (token : String) : Prop :=
  token = "-help" ∨ token = "-h"

/-- Whether help that is asked for in front of `after` is about `topic`: about the next token if
that is a declared flag, and otherwise about no option. -/
def IsTopic (spec : CommandSpec) (after : List String) (topic : Option String) : Prop :=
  ∀ flag, topic = some flag ↔ after.head? = some flag ∧ isFlagLike flag = true ∧ spec.Declares flag

lemma isFlagLike_of_asksHelp {token : String} (h : AsksHelp token) : isFlagLike token = true := by
  rcases h with rfl | rfl <;> decide

lemma IsTopic.unique {spec : CommandSpec} {after : List String} {s t : Option String}
    (hs : IsTopic spec after s) (ht : IsTopic spec after t) : s = t :=
  Option.ext fun flag => (hs flag).trans (ht flag).symm

lemma contains_helpFlags {token : String} : helpFlags.contains token = true ↔ AsksHelp token := by
  simp [helpFlags, AsksHelp]

lemma helpRequest?_of_none {spec : CommandSpec} {args : List String}
    (h : ∀ token ∈ args, ¬ AsksHelp token) : helpRequest? spec args = none := by
  have hdrop : args.dropWhile (!helpFlags.contains ·) = [] := by
    rw [List.dropWhile_eq_nil_iff]
    intro token htoken
    rw [Bool.not_eq_true', ← Bool.not_eq_true, contains_helpFlags]
    exact h token htoken
  rw [helpRequest?, hdrop]

/-- The first help flag alone decides: what stands before it is not looked at, and of what stands
after it only the next token. -/
lemma helpRequest?_of_first (spec : CommandSpec) {before : List String} {asks : String}
    (hasks : AsksHelp asks) (hbefore : ∀ token ∈ before, ¬ AsksHelp token) (after : List String) :
    ∃ topic, helpRequest? spec (before ++ asks :: after) = some topic ∧ IsTopic spec after topic := by
  have hdrop : (before ++ asks :: after).dropWhile (!helpFlags.contains ·) = asks :: after := by
    rw [List.dropWhile_append_of_pos, List.dropWhile_cons_of_neg]
    · simpa [← contains_helpFlags] using hasks
    · intro token htoken
      simpa [← contains_helpFlags] using hbefore token htoken
  rw [helpRequest?, hdrop]
  cases after with
  | nil => exact ⟨none, rfl, by simp [IsTopic]⟩
  | cons next after =>
      refine ⟨_, rfl, fun flag => ?_⟩
      have hdeclared : (isFlagLike next && (spec.option? next).isSome) = true
          ↔ isFlagLike next = true ∧ spec.Declares next := by
        rw [Bool.and_eq_true, option?_isSome_iff]
      by_cases hnext : isFlagLike next = true ∧ spec.Declares next
      · rw [if_pos (hdeclared.mpr hnext)]
        constructor
        · rintro ⟨rfl⟩
          exact ⟨rfl, hnext⟩
        · rintro ⟨h, -⟩
          exact h
      · rw [if_neg (mt hdeclared.mp hnext)]
        constructor
        · rintro ⟨⟩
        · rintro ⟨h, hflag⟩
          obtain rfl : next = flag := by simpa using h
          exact absurd hflag hnext

/-- A list in which some token asks for help has a first such token. -/
lemma exists_first_asksHelp {args : List String} (h : ∃ token ∈ args, AsksHelp token) :
    ∃ before asks after, args = before ++ asks :: after ∧ AsksHelp asks
      ∧ ∀ token ∈ before, ¬ AsksHelp token := by
  induction args with
  | nil => simp at h
  | cons token rest ih =>
      by_cases ht : AsksHelp token
      · exact ⟨[], token, rest, rfl, ht, by simp⟩
      · have hrest : ∃ t ∈ rest, AsksHelp t := by
          obtain ⟨t, hmem, hasks⟩ := h
          rcases List.mem_cons.mp hmem with rfl | hmem
          · exact absurd hasks ht
          · exact ⟨t, hmem, hasks⟩
        obtain ⟨before, asks, after, rfl, hasks, hbefore⟩ := ih hrest
        refine ⟨token :: before, asks, after, rfl, hasks, ?_⟩
        rintro t (_ | ⟨_, hmem⟩)
        · exact ht
        · exact hbefore t hmem

/-! ## Segments -/

/-- What is wrong with a segment: its flag is not declared, or the first option that is declared
with it does not take the data after it. -/
inductive Refused (spec : CommandSpec) : String × List String → Outcome → Prop
  | undeclared {flag : String} {run : List String} (h : ¬ spec.Declares flag) :
      Refused spec (flag, run) (.unknownOption flag)
  | mismatch {flag : String} {run : List String} {o : OptionSpec} (h : spec.FirstDeclared flag o)
      (hrun : o.compiled.accepts run = false) :
      Refused spec (flag, run) (.optionConstraint flag run o.constraint)

theorem checkSegment_eq_some_iff {spec : CommandSpec} {flag : String} {run : List String}
    {found : Outcome} :
    checkSegment spec flag run = some found ↔ Refused spec (flag, run) found := by
  rw [checkSegment]
  constructor
  · intro h
    split at h
    next hnone =>
      obtain rfl : Outcome.unknownOption flag = found := by simpa using h
      exact .undeclared (option?_eq_none_iff.mp hnone)
    next o hsome =>
      split at h
      · simp at h
      next hrun =>
        obtain rfl : Outcome.optionConstraint flag run o.constraint = found := by simpa using h
        exact .mismatch (option?_eq_some_iff.mp hsome) (by simpa using hrun)
  · rintro (h | ⟨h, hrun⟩)
    · rw [option?_eq_none_iff.mpr h]
    · rw [option?_eq_some_iff.mpr h]
      simp [hrun]

theorem checkSegment_eq_none_iff {spec : CommandSpec} {flag : String} {run : List String} :
    checkSegment spec flag run = none ↔ ∀ found, ¬ Refused spec (flag, run) found := by
  simp only [← checkSegment_eq_some_iff, Option.eq_none_iff_forall_ne_some, ne_eq]

/-! ## Invocations -/

/-- The rules for what is found in the arguments of an invocation. -/
inductive Verdict (spec : CommandSpec) (args : List String) : Outcome → Prop
  /-- A request for help goes before everything else, and the first one counts. -/
  | help {before after : List String} {asks : String} {topic : Option String}
      (hargs : args = before ++ asks :: after) (hasks : AsksHelp asks)
      (hfirst : ∀ token ∈ before, ¬ AsksHelp token) (htopic : IsTopic spec after topic) :
      Verdict spec args (.helpRequested topic)
  /-- Then the data is counted, wherever it stands. -/
  | tooFew (hhelp : ∀ token ∈ args, ¬ AsksHelp token)
      (hfew : args.countP (!isFlagLike ·) < spec.required) :
      Verdict spec args (.argumentCount spec.required (args.countP (!isFlagLike ·)))
  /-- Then the first segment with something wrong decides. -/
  | refused {lead : List String} {before after : List (String × List String)}
      {seg : String × List String} {found : Outcome}
      (hhelp : ∀ token ∈ args, ¬ AsksHelp token)
      (henough : spec.required ≤ args.countP (!isFlagLike ·))
      (hcut : Segmented args lead (before ++ seg :: after))
      (hfirst : ∀ s ∈ before, ∀ f, ¬ Refused spec s f) (hseg : Refused spec seg found) :
      Verdict spec args found
  /-- With nothing wrong in any segment the command may run. -/
  | ok {lead : List String} {segs : List (String × List String)}
      (hhelp : ∀ token ∈ args, ¬ AsksHelp token)
      (henough : spec.required ≤ args.countP (!isFlagLike ·))
      (hcut : Segmented args lead segs) (hpass : ∀ s ∈ segs, ∀ f, ¬ Refused spec s f) :
      Verdict spec args .ok

/-- The part of the check that comes after the request for help and the count. -/
lemma validate_of_enough {spec : CommandSpec} {tokens : List String}
    (hhelp : ∀ token ∈ arguments tokens, ¬ AsksHelp token)
    (henough : spec.required ≤ (arguments tokens).countP (!isFlagLike ·)) :
    validate spec tokens
      = ((segments (arguments tokens)).2.findSome? fun seg =>
          checkSegment spec seg.1 seg.2).getD .ok := by
  have hcount : ¬ (data (arguments tokens)).length < spec.required := by
    rw [data, ← List.countP_eq_length_filter]
    exact Nat.not_lt.mpr henough
  simp only [validate, helpRequest?_of_none hhelp, if_neg hcount]

/-- Every rule determines what `validate` computes. -/
lemma validate_of_verdict {spec : CommandSpec} {tokens : List String} {found : Outcome}
    (h : Verdict spec (arguments tokens) found) : validate spec tokens = found := by
  cases h with
  | @help before after asks topic hargs hasks hfirst htopic =>
      obtain ⟨topic', hreq, htopic'⟩ := helpRequest?_of_first spec hasks hfirst after
      rw [← hargs] at hreq
      rw [htopic.unique htopic']
      simp only [validate, hreq]
  | tooFew hhelp hfew =>
      rw [List.countP_eq_length_filter, ← data] at hfew ⊢
      simp only [validate, helpRequest?_of_none hhelp, if_pos hfew]
  | @refused lead before after seg found hhelp henough hcut hfirst hseg =>
      rw [validate_of_enough hhelp henough, segments_eq_iff.mpr hcut]
      have hbefore : before.findSome? (fun s => checkSegment spec s.1 s.2) = none := by
        rw [List.findSome?_eq_none_iff]
        exact fun s hs => checkSegment_eq_none_iff.mpr (hfirst s hs)
      have hfound : checkSegment spec seg.1 seg.2 = some found := checkSegment_eq_some_iff.mpr hseg
      simp [List.findSome?_append, hbefore, hfound]
  | @ok lead segs hhelp henough hcut hpass =>
      rw [validate_of_enough hhelp henough, segments_eq_iff.mpr hcut]
      have hnone : segs.findSome? (fun s => checkSegment spec s.1 s.2) = none := by
        rw [List.findSome?_eq_none_iff]
        exact fun s hs => checkSegment_eq_none_iff.mpr (hpass s hs)
      simp [hnone]

/-- Some rule always applies. -/
lemma exists_verdict (spec : CommandSpec) (args : List String) :
    ∃ found, Verdict spec args found := by
  by_cases hhelp : ∀ token ∈ args, ¬ AsksHelp token
  · by_cases henough : spec.required ≤ args.countP (!isFlagLike ·)
    · have hcut := segmented_segments args
      cases hfind : (segments args).2.findSome? fun seg => checkSegment spec seg.1 seg.2 with
      | none =>
          rw [List.findSome?_eq_none_iff] at hfind
          exact ⟨.ok, .ok hhelp henough hcut fun s hs => checkSegment_eq_none_iff.mp (hfind s hs)⟩
      | some found =>
          obtain ⟨before, seg, after, hsegs, hseg, hbefore⟩ :=
            List.findSome?_eq_some_iff.mp hfind
          rw [hsegs] at hcut
          exact ⟨found, .refused hhelp henough hcut
            (fun s hs => checkSegment_eq_none_iff.mp (hbefore s hs))
            (checkSegment_eq_some_iff.mp hseg)⟩
    · exact ⟨_, .tooFew hhelp (Nat.lt_of_not_le henough)⟩
  · have hsome : ∃ token ∈ args, AsksHelp token := by
      simpa using hhelp
    obtain ⟨before, asks, after, hargs, hasks, hfirst⟩ := exists_first_asksHelp hsome
    obtain ⟨topic, -, htopic⟩ := helpRequest?_of_first spec hasks hfirst after
    exact ⟨_, .help hargs hasks hfirst htopic⟩

theorem validate_eq_iff_verdict {spec : CommandSpec} {tokens : List String} {found : Outcome} :
    validate spec tokens = found ↔ Verdict spec (arguments tokens) found := by
  constructor
  · rintro rfl
    obtain ⟨found, h⟩ := exists_verdict spec (arguments tokens)
    rwa [validate_of_verdict h]
  · exact validate_of_verdict

/-- Whether there is nothing wrong with a segment, and it does not ask for help. -/
def Passes (spec : CommandSpec) (seg : String × List String) : Prop :=
  ¬ AsksHelp seg.1 ∧ ∀ found, ¬ Refused spec seg found

/-- An invocation is accepted if there is enough data and every segment passes. -/
theorem validate_eq_ok_iff {spec : CommandSpec} {tokens lead : List String}
    {segs : List (String × List String)} (hcut : Segmented (arguments tokens) lead segs) :
    validate spec tokens = .ok
      ↔ spec.required ≤ (data (arguments tokens)).length ∧ ∀ seg ∈ segs, Passes spec seg := by
  rw [validate_eq_iff_verdict, data, ← List.countP_eq_length_filter]
  constructor
  · intro h
    cases h with
    | refused _ _ _ _ hseg => cases hseg
    | @ok lead' segs' hhelp henough hcut' hpass =>
        obtain ⟨rfl, rfl⟩ : lead = lead' ∧ segs = segs' := by
          rw [← Prod.mk.injEq, ← segments_eq_iff.mpr hcut, ← segments_eq_iff.mpr hcut']
        refine ⟨henough, fun seg hseg => ⟨hhelp seg.1 ?_, hpass seg hseg⟩⟩
        exact (hcut.flag_mem_iff (hcut.head_flag seg hseg)).mpr ⟨seg, hseg, rfl⟩
  · rintro ⟨henough, hpass⟩
    refine .ok (fun token htoken hasks => ?_) henough hcut fun seg hseg => (hpass seg hseg).2
    obtain ⟨seg, hseg, rfl⟩ := (hcut.flag_mem_iff (isFlagLike_of_asksHelp hasks)).mp htoken
    exact (hpass seg hseg).1 hasks

/-- **Validation follows the rules.**  The arguments of an invocation fall into segments in exactly
one way, the data of each segment goes as far as there is data, and `validate` returns an outcome
if and only if the rules allow it for these segments. -/
theorem validate_follows_rules (spec : CommandSpec) (tokens : List String) :
    (∃! cut : List String × List (String × List String),
        Segmented (arguments tokens) cut.1 cut.2)
      ∧ (∀ lead before flag run after,
          Segmented (arguments tokens) lead (before ++ (flag, run) :: after) →
          ∃ rest, arguments tokens = joined lead before ++ flag :: rest
            ∧ run = rest.takeWhile (!isFlagLike ·))
      ∧ ∀ found, validate spec tokens = found ↔ Verdict spec (arguments tokens) found := by
  refine ⟨⟨segments (arguments tokens), segmented_segments _, ?_⟩, ?_, ?_⟩
  · intro cut hcut
    exact (segments_eq_iff.mpr hcut).symm
  · intro lead before flag run after hcut
    exact hcut.run_maximal
  · intro found
    exact validate_eq_iff_verdict

end Optline
