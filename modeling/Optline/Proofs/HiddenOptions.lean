import Mathlib.Data.List.Forall2
import Optline.Cli.Program
import Optline.Proofs.Execution
import Optline.Proofs.Verdict

/-!
# Hidden options do not leak

A hidden option counts among the declared ones, so it has a say in where a row of the help begins, and
validation looks it up like any other.  What its flag and its constraint are is seen in none of this,
by those who do not name it.  Two registries are compared that have the same commands up to the hidden
options, of which both have as many and at the same places.

* `OptionSpec.SameShown`, `CommandSpec.SameShown`, `Registry.SameShown` — the same up to hidden options.
* `numbered_eq` — the options that are shown are the same, with the same numbers; all that is shown of a
  command comes from them, its name and its arguments (`help_eq`, `listed_eq`).
* `CommandSpec.SameShown.validate_eq` — validation finds the same wherever no hidden option is named.
* **`hidden_options_do_not_leak`** — help, the list of commands and rejections are the same for both.

Data is counted before any option is looked up, so there is too little of it for both or for neither.  A
flag that is not declared may be that of a hidden option of the other registry, and so not everybody
who names it is turned away by both; the help that goes with a rejection is the same even then.
-/

namespace Optline

open Invocation

/-! ## The same up to hidden options -/

/-- Whether two options are the same, or both hidden. -/
def OptionSpec.SameShown (o p : OptionSpec) : Prop :=
  o = p ∨ o.isHidden = true ∧ p.isHidden = true

/-- Whether two commands are the same up to their hidden options, and the text they were read from. -/
structure CommandSpec.SameShown (s t : CommandSpec) : Prop where
  name : s.name = t.name
  pattern : s.argumentPattern = t.argumentPattern
  options : List.Forall₂ OptionSpec.SameShown s.options t.options

/-- Whether two registries have the same commands up to hidden options, bound to anything. -/
def Registry.SameShown {η θ : Type} (r : Registry η) (r' : Registry θ) : Prop :=
  List.Forall₂ (fun e e' => e.spec.SameShown e'.spec) r.entries r'.entries

instance (o p : OptionSpec) : Decidable (o.SameShown p) :=
  inferInstanceAs (Decidable (o = p ∨ o.isHidden = true ∧ p.isHidden = true))

instance (s t : CommandSpec) : Decidable (s.SameShown t) :=
  decidable_of_iff (s.name = t.name ∧ s.argumentPattern = t.argumentPattern
      ∧ List.Forall₂ OptionSpec.SameShown s.options t.options)
    ⟨fun h => ⟨h.1, h.2.1, h.2.2⟩, fun h => ⟨h.name, h.pattern, h.options⟩⟩

instance {η θ : Type} (r : Registry η) (r' : Registry θ) : Decidable (r.SameShown r') :=
  inferInstanceAs (Decidable (List.Forall₂ _ r.entries r'.entries))

/-- Whether a token is the flag of a hidden option, if it is that of an option at all. -/
def namesHidden (token : String) : Bool :=
  token.toList[1]? == some '!'

lemma OptionSpec.SameShown.symm {o p : OptionSpec} (h : o.SameShown p) : p.SameShown o := by
  rcases h with rfl | ⟨ho, hp⟩
  · exact Or.inl rfl
  · exact Or.inr ⟨hp, ho⟩

namespace CommandSpec.SameShown

variable {s t : CommandSpec} {tokens : List String}

lemma symm (h : s.SameShown t) : t.SameShown s :=
  ⟨h.name.symm, h.pattern.symm, .flip (h.options.imp fun _ _ => OptionSpec.SameShown.symm)⟩

/-! ## What is shown of a command -/

lemma required_eq (h : s.SameShown t) : s.required = t.required := by
  rw [required, required, arguments, arguments, h.pattern]

lemma isInternal_eq (h : s.SameShown t) : s.isInternal = t.isInternal := by
  rw [isInternal, isInternal, h.name]

lemma numbered_eq {os ps : List OptionSpec} (h : List.Forall₂ OptionSpec.SameShown os ps) (n : ℕ) :
    (os.zipIdx n).filter (!·.1.isHidden) = (ps.zipIdx n).filter (!·.1.isHidden) := by
  induction h generalizing n with
  | nil => rfl
  | cons hop _ ih =>
      rcases hop with rfl | ⟨ho, hp⟩
      · simp only [List.zipIdx_cons, List.filter_cons, ih]
      · simp [List.zipIdx_cons, ho, hp, ih]

lemma listed_eq (h : s.SameShown t) : s.listed false = t.listed false := by
  have hnumbered : ∀ spec : CommandSpec,
      spec.listed false = (spec.options.zipIdx.filter (!·.1.isHidden)).map Prod.fst := by
    intro spec
    have hoptions : spec.options = spec.options.zipIdx.map Prod.fst := by simp
    conv_lhs => rw [listed, hoptions, List.filter_map]
    rfl
  rw [hnumbered, hnumbered, numbered_eq h.options]

/-- No hidden option is found by a flag that is not that of one. -/
lemma option?_eq (h : s.SameShown t) {flag : String} (hflag : namesHidden flag = false) :
    s.option? flag = t.option? flag := by
  have hother : ∀ o : OptionSpec, o.isHidden = true → (o.flag == flag) = false := by
    intro o ho
    rw [beq_eq_false_iff_ne]
    rintro rfl
    exact absurd (ho.symm.trans hflag) (by simp)
  have hoptions := h.options
  rw [option?, option?]
  generalize s.options = os, t.options = ps at hoptions
  induction hoptions with
  | nil => rfl
  | cons hop _ ih =>
      rcases hop with rfl | ⟨ho, hp⟩
      · simp only [List.find?_cons, ih]
      · simp only [List.find?_cons, hother _ ho, hother _ hp, ih]

/-- Help is the same, unless it is about a hidden option. -/
lemma help_eq (h : s.SameShown t) {topic : Option String}
    (htopic : ∀ flag, topic = some flag → namesHidden flag = false) :
    s.help topic = t.help topic := by
  have hrows : s.shownRows topic = t.shownRows topic := by
    cases topic with
    | none => simp only [shownRows, optionRows, numbered_eq h.options]
    | some flag => simp only [shownRows, h.option?_eq (htopic flag rfl)]
  rw [help, help, helpLines, helpLines, hrows, h.name, h.pattern]

lemma help_none_eq (h : s.SameShown t) : s.help none = t.help none :=
  h.help_eq (by simp)

/-! ## What validation finds -/

/-- There is too little data for both commands or for neither, whatever the options are. -/
lemma tooFew_of_tooFew (h : s.SameShown t) {required supplied : ℕ}
    (hfew : validate s tokens = .argumentCount required supplied) :
    validate t tokens = .argumentCount required supplied := by
  rw [validate_eq_iff_verdict] at hfew ⊢
  cases hfew with
  | tooFew hhelp hcount =>
      rw [h.required_eq] at hcount ⊢
      exact .tooFew hhelp hcount
  | refused _ _ _ _ hseg => cases hseg

section

variable (htokens : ∀ token ∈ Invocation.arguments tokens, namesHidden token = false)

include htokens

lemma helpRequest?_eq (h : s.SameShown t) :
    helpRequest? s (Invocation.arguments tokens) = helpRequest? t (Invocation.arguments tokens) := by
  unfold helpRequest?
  split
  · rfl
  · rfl
  next next rest hdrop =>
    have hmem : next ∈ Invocation.arguments tokens := by
      refine (List.dropWhile_sublist (!helpFlags.contains ·)).subset ?_
      rw [hdrop]
      simp
    rw [h.option?_eq (htokens next hmem)]

/-- Validation does not notice hidden options that an invocation does not name. -/
theorem validate_eq (h : s.SameShown t) : validate s tokens = validate t tokens := by
  have hcut := segmented_segments (Invocation.arguments tokens)
  have hsegments : (segments (Invocation.arguments tokens)).2.findSome?
        (fun seg => checkSegment s seg.1 seg.2)
      = (segments (Invocation.arguments tokens)).2.findSome?
        (fun seg => checkSegment t seg.1 seg.2) := by
    rw [← List.head?_filterMap, ← List.head?_filterMap]
    refine congrArg _ (List.filterMap_congr fun seg hseg => ?_)
    have hmem : seg.1 ∈ Invocation.arguments tokens :=
      (hcut.flag_mem_iff (hcut.head_flag seg hseg)).mpr ⟨seg, hseg, rfl⟩
    rw [checkSegment, checkSegment, h.option?_eq (htokens seg.1 hmem)]
  simp only [validate, h.helpRequest?_eq htokens, h.required_eq, hsegments]

/-- The help that goes with what is found is never about an option that is not named. -/
lemma helpFor_eq (h : s.SameShown t) {found : Outcome} (hfound : validate s tokens = found) :
    found.helpFor s = found.helpFor t := by
  rw [validate_eq_iff_verdict] at hfound
  cases hfound with
  | @help before after asks topic hargs _ _ htopic =>
      refine h.help_eq fun flag hflag => htokens flag ?_
      have hhead := ((htopic flag).mp hflag).1
      rw [hargs]
      simp [List.mem_of_mem_head? hhead]
  | tooFew _ _ => exact h.help_none_eq
  | @refused lead before after seg _ _ _ hcut _ hseg =>
      cases hseg with
      | undeclared _ => exact h.help_none_eq
      | @mismatch flag run o _ _ =>
          refine h.help_eq fun named hnamed => htokens named ?_
          obtain rfl := Option.some.inj hnamed
          have hmem : (flag, run) ∈ before ++ (flag, run) :: after := by simp
          exact (hcut.flag_mem_iff (hcut.head_flag _ hmem)).mpr ⟨_, hmem, rfl⟩
  | ok _ _ _ _ => exact h.help_none_eq

end

end CommandSpec.SameShown

/-! ## What is shown of all commands -/

section

variable {specs specs' : List CommandSpec}

lemma helpIndex_eq (h : List.Forall₂ CommandSpec.SameShown specs specs') :
    helpIndex specs = helpIndex specs' := by
  have hshown : (specs.filter (!·.isInternal)).map (·.help none)
      = (specs'.filter (!·.isInternal)).map (·.help none) := by
    induction h with
    | nil => rfl
    | cons hst _ ih =>
        rw [List.filter_cons, List.filter_cons, hst.isInternal_eq]
        split_ifs
        · rw [List.map_cons, List.map_cons, hst.help_none_eq, ih]
        · exact ih
  rw [helpIndex, helpIndex, hshown]

lemma listRows_eq (h : List.Forall₂ CommandSpec.SameShown specs specs') :
    Cli.listRows specs false = Cli.listRows specs' false := by
  rw [Cli.listRows, Cli.listRows]
  generalize 0 = n
  induction h generalizing n with
  | nil => rfl
  | cons hst _ ih =>
      rw [List.zipIdx_cons, List.zipIdx_cons, List.map_cons, List.map_cons, ih]
      simp only [hst.name, hst.pattern, hst.listed_eq]

end

namespace Registry.SameShown

variable {η θ : Type} {r : Registry η} {r' : Registry θ} {name : String}

lemma symm (h : r.SameShown r') : r'.SameShown r :=
  .flip (h.imp fun _ _ => CommandSpec.SameShown.symm)

lemma specs (h : r.SameShown r') : List.Forall₂ CommandSpec.SameShown r.specs r'.specs := by
  rw [Registry.specs, Registry.specs, List.forall₂_map_left_iff, List.forall₂_map_right_iff]
  exact h

/-- A name leads to the same command. -/
lemma exists_firstRegistered (h : r.SameShown r') {e : Entry η} (he : r.FirstRegistered name e) :
    ∃ e', r'.FirstRegistered name e' ∧ e.spec.SameShown e'.spec := by
  simp only [← lookup?_eq_some_iff, lookup?] at he ⊢
  unfold Registry.SameShown at h
  generalize r.entries = es, r'.entries = es' at h he
  induction h with
  | nil => simp at he
  | cons hst _ ih =>
      rw [List.find?_cons, hst.name] at he
      rw [List.find?_cons]
      split at he
      · obtain rfl := Option.some.inj he
        exact ⟨_, rfl, hst⟩
      · exact ih he

end Registry.SameShown

/-! ## Rejections -/

namespace Dispatcher

variable {d d' : Dispatcher} {tokens : List String} {command message help : String}
  {outcome : Outcome}

lemma execute_eq_rejected_iff :
    (d.execute tokens).result = .ok (.rejected command outcome message help)
      ↔ ∃ rest e, tokens = command :: rest ∧ d.registry.FirstRegistered command e
        ∧ validate e.spec tokens = outcome ∧ outcome.isRejection = true
        ∧ outcome.message?.getD "" = message ∧ outcome.helpFor e.spec = help := by
  constructor
  · intro h
    cases tokens with
    | nil => simp [execute] at h
    | cons name rest =>
        by_cases hname : d.registry.Registers name
        · obtain ⟨e, he⟩ := Registry.exists_firstRegistered hname
          rcases ok_or_help_or_rejection (validate e.spec (name :: rest)) with
            hok | ⟨topic, hhelp⟩ | hrejection
          · rw [execute_of_ok he hok, run] at h
            dsimp only at h
            split at h <;> simp at h
          · simp [execute_of_help he hhelp] at h
          · rw [execute_of_rejection he rfl hrejection] at h
            obtain ⟨rfl, rfl, rfl, rfl⟩ := Dispatch.rejected.inj (Except.ok.inj h)
            exact ⟨rest, e, rfl, he, rfl, hrejection, rfl, rfl⟩
        · simp [execute_of_unregistered hname] at h
  · rintro ⟨rest, e, rfl, he, houtcome, hrejection, rfl, rfl⟩
    rw [execute_of_rejection he houtcome hrejection]

/-- Whether an invocation is turned away for too little data or a flag that is not declared. -/
def TurnsAway (d : Dispatcher) (tokens : List String) (help : String) : Prop :=
  ∃ command outcome message,
    (d.execute tokens).result = .ok (.rejected command outcome message help)
      ∧ ((∃ required supplied, outcome = .argumentCount required supplied)
        ∨ ∃ flag, outcome = .unknownOption flag)

lemma turnsAway_of_unknownOption {name flag : String} {rest : List String} {e : Entry Handler}
    (he : d.registry.FirstRegistered name e)
    (h : validate e.spec (name :: rest) = .unknownOption flag) :
    d.TurnsAway (name :: rest) (e.spec.help none) :=
  ⟨name, _, _, execute_eq_rejected_iff.mpr ⟨rest, e, rfl, he, h, rfl, rfl, rfl⟩, Or.inr ⟨flag, rfl⟩⟩

lemma TurnsAway.help_eq {name : String} {rest : List String} (h : d.TurnsAway (name :: rest) help) :
    ∃ e, d.registry.FirstRegistered name e ∧ help = e.spec.help none := by
  obtain ⟨command, outcome, message, hresult, hkind⟩ := h
  obtain ⟨_, e, hcons, he, -, -, -, rfl⟩ := execute_eq_rejected_iff.mp hresult
  obtain ⟨rfl, -⟩ := List.cons.inj hcons
  refine ⟨e, he, ?_⟩
  rcases hkind with ⟨required, supplied, rfl⟩ | ⟨flag, rfl⟩
  · rfl
  · rfl

section

variable (h : d.registry.SameShown d'.registry)

include h

lemma tooFew_of_tooFew {required supplied : ℕ}
    (hresult : (d.execute tokens).result
      = .ok (.rejected command (.argumentCount required supplied) message help)) :
    (d'.execute tokens).result
      = .ok (.rejected command (.argumentCount required supplied) message help) := by
  rw [execute_eq_rejected_iff] at hresult ⊢
  obtain ⟨rest, e, rfl, he, hfew, hrejection, hmessage, rfl⟩ := hresult
  obtain ⟨e', he', hsame⟩ := h.exists_firstRegistered he
  exact ⟨rest, e', rfl, he', hsame.tooFew_of_tooFew hfew, hrejection, hmessage,
    hsame.symm.help_none_eq⟩

/-- Without a handler that takes part, and without a hidden option that is named, all is the same. -/
lemma result_eq_of_idle (hidle : d.Idle tokens)
    (htokens : ∀ token ∈ tokens.tail, namesHidden token = false) :
    (d.execute tokens).result = (d'.execute tokens).result := by
  cases tokens with
  | nil => rfl
  | cons name rest =>
      have hargs : ∀ token ∈ Invocation.arguments (name :: rest), namesHidden token = false := by
        simpa [Invocation.arguments] using htokens
      by_cases hname : d.registry.Registers name
      · obtain ⟨e, he⟩ := Registry.exists_firstRegistered hname
        obtain ⟨e', he', hsame⟩ := h.exists_firstRegistered he
        have hvalid := hsame.validate_eq hargs
        rcases ok_or_help_or_rejection (validate e.spec (name :: rest)) with
          hok | ⟨topic, hhelp⟩ | hrejection
        · exact absurd (runsOnce_of_ok he hok) hidle.not_runsOnce
        · have htext : e.spec.help topic = e'.spec.help topic := hsame.helpFor_eq hargs hhelp
          rw [execute_of_help he hhelp, execute_of_help he' (hvalid ▸ hhelp), htext]
        · rw [execute_of_rejection he rfl hrejection,
            execute_of_rejection he' hvalid.symm hrejection, hsame.helpFor_eq hargs rfl]
      · have hname' : ¬ d'.registry.Registers name := by
          intro hregisters
          obtain ⟨e', he'⟩ := Registry.exists_firstRegistered hregisters
          obtain ⟨e, he, -⟩ := h.symm.exists_firstRegistered he'
          exact hname ⟨e, he.mem⟩
        rw [execute_of_unregistered hname, execute_of_unregistered hname']

end

/-- **Hidden options do not leak.**  Two dispatchers whose commands are the same up to the flags and the
constraints of hidden options show the same help of each command and of all of them, and the same rows
in the list of commands.  Whoever they turn away for too little data or a flag that is not declared
gets the same help of them; they find too little data in the same invocations; and as long as an
invocation names no hidden option, it has the same answer wherever no handler takes part. -/
theorem hidden_options_do_not_leak {d d' : Dispatcher} (h : d.registry.SameShown d'.registry) :
    d.registry.specs.map (·.help none) = d'.registry.specs.map (·.help none)
      ∧ d.registry.helpIndex = d'.registry.helpIndex
      ∧ Cli.listRows d.registry.specs false = Cli.listRows d'.registry.specs false
      ∧ (∀ name rest rest' help help', d.TurnsAway (name :: rest) help →
        d'.TurnsAway (name :: rest') help' → help = help')
      ∧ (∀ tokens command required supplied message help,
        (d.execute tokens).result
            = .ok (.rejected command (.argumentCount required supplied) message help)
          ↔ (d'.execute tokens).result
            = .ok (.rejected command (.argumentCount required supplied) message help))
      ∧ ∀ tokens, d.Idle tokens → (∀ token ∈ tokens.tail, namesHidden token = false) →
        (d.execute tokens).result = (d'.execute tokens).result := by
  refine ⟨?_, helpIndex_eq h.specs, listRows_eq h.specs, ?_, ?_, ?_⟩
  · rw [← List.forall₂_eq_eq_eq, List.forall₂_map_left_iff, List.forall₂_map_right_iff]
    exact h.specs.imp fun _ _ => CommandSpec.SameShown.help_none_eq
  · intro name rest rest' help help' haway haway'
    obtain ⟨e, he, rfl⟩ := haway.help_eq
    obtain ⟨e', he', rfl⟩ := haway'.help_eq
    obtain ⟨first, hfirst, hsame⟩ := h.exists_firstRegistered he
    rw [hsame.help_none_eq, hfirst.unique he']
  · intro tokens command required supplied message help
    exact ⟨tooFew_of_tooFew h, tooFew_of_tooFew h.symm⟩
  · intro tokens hidle htokens
    exact result_eq_of_idle h hidle htokens

/-- Each of two registries turns the hidden option of the other one away, with the same help. -/
theorem hidden_options_do_not_leak_renamed :
    let spec := CommandSpec.compile "route" "<net> -a -!trace on|off -layer <int> -b -c -d"
    let spec' := CommandSpec.compile "route" "<net> -a -!dump -layer <int> -b -c -d"
    let d : Dispatcher := { registry := ⟨[⟨spec, Builtin.noop⟩]⟩, settings := {} }
    let d' : Dispatcher := { registry := ⟨[⟨spec', Builtin.noop⟩]⟩, settings := {} }
    (d.registry.SameShown d'.registry ∧ spec.options ≠ spec'.options)
      ∧ d.registry.helpIndex = d'.registry.helpIndex
      ∧ (d.TurnsAway ["route", "n1", "-!dump"] (spec.help none)
        ∧ d'.TurnsAway ["route", "n1", "-!trace"] (spec'.help none))
      ∧ spec.help none = spec'.help none := by
  intro spec spec' d d'
  have hsame : d.registry.SameShown d'.registry := by decide +kernel
  have hdiffer : spec.options ≠ spec'.options := by decide +kernel
  have hname : spec.name = "route" ∧ spec'.name = "route" := by decide +kernel
  have hunknown : validate spec ["route", "n1", "-!dump"] = .unknownOption "-!dump"
      ∧ validate spec' ["route", "n1", "-!trace"] = .unknownOption "-!trace" := by decide +kernel
  -- From here on what the specifications say is of no account, and must not be computed.
  clear_value spec spec'
  have he : d.registry.FirstRegistered "route" ⟨spec, Builtin.noop⟩ :=
    ⟨[], [], rfl, hname.1, by simp⟩
  have he' : d'.registry.FirstRegistered "route" ⟨spec', Builtin.noop⟩ :=
    ⟨[], [], rfl, hname.2, by simp⟩
  have haway : d.TurnsAway ["route", "n1", "-!dump"] (spec.help none) :=
    turnsAway_of_unknownOption he hunknown.1
  have haway' : d'.TurnsAway ["route", "n1", "-!trace"] (spec'.help none) :=
    turnsAway_of_unknownOption he' hunknown.2
  obtain ⟨-, hindex, -, hhelp, -⟩ := hidden_options_do_not_leak hsame
  exact ⟨⟨hsame, hdiffer⟩, hindex, ⟨haway, haway'⟩, hhelp _ _ _ _ _ haway haway'⟩

end Dispatcher

end Optline
