import Mathlib.Data.List.Basic
import Mathlib.Tactic.Lemma
import Optline.Dispatch

/-!
# What becomes of an invocation

An invocation is looked up by its first token, validated, and then answered with help, turned away
or run.  A handler may be any function, so whether one takes part is a question about all of them:
an execution in which none does is the same whatever the handlers are (`Idle`), and one in which a
single handler does is determined by the one reply that this handler gives (`RunsOnce`).

* `Registry.FirstRegistered` — the entry that a name leads to.
* `Registry.rebind` — the same commands with other handlers.
* `Dispatcher.Idle`, `Dispatcher.RunsOnce` — no handler takes part, or one does once.
* **`execute_runs_iff_accepted`** — which of the two an execution is, and what its answer is.
-/

namespace Optline

/-! ## The entry of a name -/

namespace Registry

variable {η : Type} {r : Registry η} {name : String} {e : Entry η}

/-- Whether some entry has the name. -/
def Registers (r : Registry η) (name : String) : Prop :=
  ∃ e ∈ r.entries, e.spec.name = name

/-- The entry `e` has the name, and no entry before it does. -/
def FirstRegistered (r : Registry η) (name : String) (e : Entry η) : Prop :=
  ∃ before after, r.entries = before ++ e :: after ∧ e.spec.name = name
    ∧ ∀ p ∈ before, p.spec.name ≠ name

theorem lookup?_eq_some_iff : r.lookup? name = some e ↔ r.FirstRegistered name e := by
  rw [lookup?, List.find?_eq_some_iff_append]
  constructor
  · rintro ⟨hname, before, after, hentries, hbefore⟩
    exact ⟨before, after, hentries, by simpa using hname, fun p hp => by simpa using hbefore p hp⟩
  · rintro ⟨before, after, hentries, hname, hbefore⟩
    exact ⟨by simpa using hname, before, after, hentries, fun p hp => by simpa using hbefore p hp⟩

lemma FirstRegistered.unique {e' : Entry η} (h : r.FirstRegistered name e)
    (h' : r.FirstRegistered name e') : e = e' := by
  rw [← lookup?_eq_some_iff] at h h'
  exact Option.some.inj (h.symm.trans h')

lemma FirstRegistered.mem (h : r.FirstRegistered name e) : e ∈ r.entries ∧ e.spec.name = name := by
  obtain ⟨before, after, hentries, hname, -⟩ := h
  exact ⟨by rw [hentries]; simp, hname⟩

theorem lookup?_eq_none_iff : r.lookup? name = none ↔ ¬ r.Registers name := by
  simp [lookup?, Registers]

lemma exists_firstRegistered (h : r.Registers name) : ∃ e, r.FirstRegistered name e := by
  cases hlookup : r.lookup? name with
  | none => exact absurd h (lookup?_eq_none_iff.mp hlookup)
  | some e => exact ⟨e, lookup?_eq_some_iff.mp hlookup⟩

/-- The same commands with other handlers. -/
def rebind (r : Registry η) (handlers : Entry η → η) : Registry η :=
  ⟨r.entries.map fun e => ⟨e.spec, handlers e⟩⟩

lemma rebind_self (r : Registry η) : r.rebind (·.handler) = r := by
  simp [rebind]

@[simp] lemma specs_rebind (r : Registry η) (handlers : Entry η → η) :
    (r.rebind handlers).specs = r.specs := by
  simp [rebind, specs, Function.comp_def]

lemma lookup?_rebind (r : Registry η) (handlers : Entry η → η) (name : String) :
    (r.rebind handlers).lookup? name
      = (r.lookup? name).map fun e => ⟨e.spec, handlers e⟩ := by
  rw [lookup?, rebind, List.find?_map]
  rfl

lemma FirstRegistered.rebind (h : r.FirstRegistered name e) (handlers : Entry η → η) :
    (r.rebind handlers).FirstRegistered name ⟨e.spec, handlers e⟩ := by
  rw [← lookup?_eq_some_iff, lookup?_rebind, lookup?_eq_some_iff.mpr h]
  rfl

lemma registers_rebind_iff (handlers : Entry η → η) :
    (r.rebind handlers).Registers name ↔ r.Registers name := by
  simp [Registers, Registry.rebind]

end Registry

/-! ## What is wrong -/

lemma exists_message_of_isRejection {o : Outcome} (h : o.isRejection = true) :
    ∃ message, o.message? = some message ∧ message ≠ "" := by
  cases o with
  | ok => simp [Outcome.isRejection] at h
  | helpRequested topic => simp [Outcome.isRejection] at h
  | argumentCount required supplied => exact ⟨_, rfl, by simp⟩
  | unknownOption flag => exact ⟨_, rfl, by simp⟩
  | optionConstraint flag params constraint => exact ⟨_, rfl, by simp⟩

lemma ok_or_help_or_rejection (o : Outcome) :
    o = .ok ∨ (∃ topic, o = .helpRequested topic) ∨ o.isRejection = true := by
  cases o with
  | ok => exact Or.inl rfl
  | helpRequested topic => exact Or.inr (Or.inl ⟨topic, rfl⟩)
  | argumentCount required supplied => exact Or.inr (Or.inr rfl)
  | unknownOption flag => exact Or.inr (Or.inr rfl)
  | optionConstraint flag params constraint => exact Or.inr (Or.inr rfl)

namespace Dispatcher

variable {d : Dispatcher} {tokens rest : List String} {name : String} {e : Entry Handler}

/-- The same dispatcher with other handlers. -/
def rebind (d : Dispatcher) (handlers : Entry Handler → Handler) : Dispatcher :=
  { d with registry := d.registry.rebind handlers }

/-- The reply that the handler of an entry gives to an invocation. -/
def replyTo (d : Dispatcher) (e : Entry Handler) (tokens : List String) : Reply :=
  e.handler ⟨tokens, e.spec, d.registry.specs, d.settings⟩

/-! ## Step by step -/

lemma execute_of_unregistered (h : ¬ d.registry.Registers name) (rest : List String) :
    d.execute (name :: rest) = ⟨.error (.unknownCommand name), d, []⟩ := by
  simp only [execute, Registry.lookup?_eq_none_iff.mpr h]

lemma execute_of_ok (he : d.registry.FirstRegistered name e)
    (h : validate e.spec (name :: rest) = .ok) :
    d.execute (name :: rest) = d.run e (name :: rest) := by
  simp only [execute, Registry.lookup?_eq_some_iff.mpr he, h]

lemma execute_of_help (he : d.registry.FirstRegistered name e) {topic : Option String}
    (h : validate e.spec (name :: rest) = .helpRequested topic) :
    d.execute (name :: rest) = ⟨.ok (.help name (e.spec.help topic)), d, []⟩ := by
  simp only [execute, Registry.lookup?_eq_some_iff.mpr he, h]

lemma execute_of_rejection (he : d.registry.FirstRegistered name e) {outcome : Outcome}
    (h : validate e.spec (name :: rest) = outcome) (hrejection : outcome.isRejection = true) :
    d.execute (name :: rest)
      = ⟨.ok (.rejected name outcome (outcome.message?.getD "") (outcome.helpFor e.spec)), d,
          [.rejected (fullName (name :: rest)) (outcome.message?.getD "")]⟩ := by
  cases outcome with
  | ok => simp [Outcome.isRejection] at hrejection
  | helpRequested topic => simp [Outcome.isRejection] at hrejection
  | argumentCount required supplied =>
      simp only [execute, Registry.lookup?_eq_some_iff.mpr he, h]
  | unknownOption flag =>
      simp only [execute, Registry.lookup?_eq_some_iff.mpr he, h]
  | optionConstraint flag params constraint =>
      simp only [execute, Registry.lookup?_eq_some_iff.mpr he, h]

/-! ## With and without a handler -/

/-- No handler takes part in an execution: it leaves everything as it is, and would do so with the
same result whatever the handlers were. -/
structure Idle (d : Dispatcher) (tokens : List String) : Prop where
  unchanged : (d.execute tokens).dispatcher = d
  any_handlers : ∀ handlers, (d.rebind handlers).execute tokens
    = ⟨(d.execute tokens).result, d.rebind handlers, (d.execute tokens).notices⟩

/-- The handler of an entry is run once, and no other one is. -/
structure RunsOnce (d : Dispatcher) (e : Entry Handler) (tokens : List String) : Prop where
  runs : (d.execute tokens).dispatcher.runs = d.runs + 1
  waited : (d.execute tokens).dispatcher.waited = d.waited + (d.replyTo e tokens).pause
  /-- The settings are those that the handler leaves, also where it fails. -/
  settings : (d.execute tokens).dispatcher.settings = (d.replyTo e tokens).settings
  registry : (d.execute tokens).dispatcher.registry = d.registry
  at_rest : (d.execute tokens).dispatcher.usage.inFlight = false
  completed : ∀ output, (d.replyTo e tokens).result = .ok output →
    ∃ report, (d.execute tokens).result = .ok (.completed e.spec.name output report)
  failed : ∀ fault, (d.replyTo e tokens).result = .error fault →
    ∃ error, (d.execute tokens).result = .error error
      ∧ error.fault = fault.within ("command failed: " ++ fullName tokens)
  other_handlers : ∀ handlers, handlers e = e.handler → (d.rebind handlers).execute tokens
    = ⟨(d.execute tokens).result, (d.execute tokens).dispatcher.rebind handlers,
        (d.execute tokens).notices⟩

lemma Idle.not_runsOnce (h : d.Idle tokens) : ¬ d.RunsOnce e tokens := by
  intro hruns
  have hcount := hruns.runs
  rw [h.unchanged] at hcount
  omega

lemma idle_of_forall {result : Except DispatchError Dispatch} {notices : List Notice}
    (h : ∀ handlers, (d.rebind handlers).execute tokens = ⟨result, d.rebind handlers, notices⟩) :
    d.Idle tokens := by
  -- The dispatcher itself is the case of its own handlers.
  have hself : d.execute tokens = ⟨result, d, notices⟩ := by
    have hown := h (·.handler)
    rwa [rebind, Registry.rebind_self] at hown
  refine ⟨by rw [hself], fun handlers => ?_⟩
  rw [h handlers, hself]

lemma idle_nil : d.Idle [] :=
  idle_of_forall fun _ => rfl

lemma idle_of_unregistered (h : ¬ d.registry.Registers name) : d.Idle (name :: rest) :=
  idle_of_forall fun handlers =>
    execute_of_unregistered (mt (Registry.registers_rebind_iff handlers).mp h) rest

lemma idle_of_help (he : d.registry.FirstRegistered name e) {topic : Option String}
    (h : validate e.spec (name :: rest) = .helpRequested topic) : d.Idle (name :: rest) := by
  have hany : ∀ handlers, (d.rebind handlers).execute (name :: rest)
      = ⟨.ok (.help name (e.spec.help topic)), d.rebind handlers, []⟩ :=
    fun handlers => execute_of_help (d := d.rebind handlers) (he.rebind handlers) h
  exact idle_of_forall hany

lemma idle_of_rejection (he : d.registry.FirstRegistered name e) {outcome : Outcome}
    (h : validate e.spec (name :: rest) = outcome) (hrejection : outcome.isRejection = true) :
    d.Idle (name :: rest) := by
  have hany : ∀ handlers, (d.rebind handlers).execute (name :: rest)
      = ⟨.ok (.rejected name outcome (outcome.message?.getD "") (outcome.helpFor e.spec)),
        d.rebind handlers,
        [.rejected (fullName (name :: rest)) (outcome.message?.getD "")]⟩ :=
    fun handlers =>
      execute_of_rejection (d := d.rebind handlers) (he.rebind handlers) h hrejection
  exact idle_of_forall hany

lemma runsOnce_of_ok (he : d.registry.FirstRegistered name e)
    (h : validate e.spec (name :: rest) = .ok) : d.RunsOnce e (name :: rest) := by
  have hexecute := execute_of_ok he h
  obtain ⟨-, -, -, hname, -⟩ := id he
  refine ⟨?_, ?_, ?_, ?_, ?_, fun output houtput => ?_, fun fault hfault => ?_,
    fun handlers hhandler => ?_⟩
  · rw [hexecute, run]
  · rw [hexecute]; rfl
  · rw [hexecute]; rfl
  · rw [hexecute]; rfl
  · rw [hexecute]; rfl
  · rw [replyTo] at houtput
    simp only [hexecute, run, houtput, hname]
    exact ⟨_, rfl⟩
  · rw [replyTo] at hfault
    simp only [hexecute, run, hfault]
    exact ⟨_, rfl, rfl⟩
  · rw [execute_of_ok (d := d.rebind handlers) (he.rebind handlers) h, hexecute, hhandler]
    simp only [run, rebind, Registry.specs_rebind]

/-! ## The decision -/

/-- Until a handler is run, the commands alone decide what becomes of an invocation: all dispatchers
that have them run the handler of the same entry, or all of them give the same answer, in which no
handler has a part, and stay as they are. -/
theorem run_or_stay (r : Registry Handler) (tokens : List String) :
    (∃ name rest e, tokens = name :: rest ∧ r.FirstRegistered name e
        ∧ ∀ d : Dispatcher, d.registry = r → d.execute tokens = d.run e tokens)
      ∨ ∃ result notices,
        (∀ command output report, result ≠ .ok (.completed command output report))
        ∧ ∀ d : Dispatcher, d.registry = r → d.execute tokens = ⟨result, d, notices⟩ := by
  cases tokens with
  | nil => exact Or.inr ⟨.error .emptyInvocation, [], by simp, fun _ _ => rfl⟩
  | cons name rest =>
      by_cases hname : r.Registers name
      · obtain ⟨e, he⟩ := Registry.exists_firstRegistered hname
        rcases ok_or_help_or_rejection (validate e.spec (name :: rest)) with
          hok | ⟨topic, hhelp⟩ | hrejection
        · exact Or.inl ⟨name, rest, e, rfl, he, fun d hd => execute_of_ok (hd ▸ he) hok⟩
        · refine Or.inr ⟨_, _, ?_, fun d hd => execute_of_help (hd ▸ he) hhelp⟩
          simp
        · refine Or.inr ⟨_, _, ?_, fun d hd => execute_of_rejection (hd ▸ he) rfl hrejection⟩
          simp
      · refine Or.inr ⟨_, _, ?_, fun d hd => execute_of_unregistered (hd ▸ hname) rest⟩
        simp

/-- An execution is one or the other, and it is an accepted invocation that runs a handler. -/
theorem idle_or_runsOnce (d : Dispatcher) (tokens : List String) :
    d.Idle tokens ∨ ∃ name rest e, tokens = name :: rest ∧ d.registry.FirstRegistered name e
      ∧ validate e.spec tokens = .ok ∧ d.RunsOnce e tokens := by
  cases tokens with
  | nil => exact Or.inl idle_nil
  | cons name rest =>
      cases hlookup : d.registry.lookup? name with
      | none => exact Or.inl (idle_of_unregistered (Registry.lookup?_eq_none_iff.mp hlookup))
      | some e =>
          have he := Registry.lookup?_eq_some_iff.mp hlookup
          rcases ok_or_help_or_rejection (validate e.spec (name :: rest)) with
            hok | ⟨topic, hhelp⟩ | hrejection
          · exact Or.inr ⟨name, rest, e, rfl, he, hok, runsOnce_of_ok he hok⟩
          · exact Or.inl (idle_of_help he hhelp)
          · exact Or.inl (idle_of_rejection he rfl hrejection)

/-- Whichever handler runs, it is that of the first entry, on an invocation that is accepted. -/
lemma exists_runsOnce_iff (he : d.registry.FirstRegistered name e) :
    (∃ e', d.RunsOnce e' (name :: rest)) ↔ validate e.spec (name :: rest) = .ok := by
  constructor
  · rintro ⟨e', hruns⟩
    rcases d.idle_or_runsOnce (name :: rest) with hidle | ⟨_, _, first, ⟨rfl, rfl⟩, hfirst, hok, -⟩
    · exact absurd hruns hidle.not_runsOnce
    · rwa [he.unique hfirst]
  · exact fun hok => ⟨e, runsOnce_of_ok he hok⟩

lemma runsOnce_iff (he : d.registry.FirstRegistered name e) :
    d.RunsOnce e (name :: rest) ↔ validate e.spec (name :: rest) = .ok :=
  ⟨fun hruns => (exists_runsOnce_iff he).mp ⟨e, hruns⟩, runsOnce_of_ok he⟩

lemma registry_execute (d : Dispatcher) (tokens : List String) :
    (d.execute tokens).dispatcher.registry = d.registry := by
  rcases d.idle_or_runsOnce tokens with hidle | ⟨_, _, _, _, _, _, hruns⟩
  · rw [hidle.unchanged]
  · exact hruns.registry

/-- **A handler is run if and only if its invocation is accepted.**  Without a token, or with a name
that nobody has registered, the execution fails; the first entry of a name answers a request with
its help, turns an invocation that is wrong away with the wording of what is wrong, and runs its
handler otherwise.  Nothing but the handler that is run changes anything. -/
theorem execute_runs_iff_accepted (d : Dispatcher) :
    ((d.execute []).result = .error .emptyInvocation ∧ d.Idle [])
      ∧ ∀ name rest,
        (¬ d.registry.Registers name →
          (d.execute (name :: rest)).result = .error (.unknownCommand name)
            ∧ d.Idle (name :: rest))
        ∧ ∀ e, d.registry.FirstRegistered name e →
          (d.RunsOnce e (name :: rest) ↔ validate e.spec (name :: rest) = .ok)
          ∧ (∀ topic, validate e.spec (name :: rest) = .helpRequested topic →
            (d.execute (name :: rest)).result = .ok (.help name (e.spec.help topic))
              ∧ d.Idle (name :: rest))
          ∧ ∀ outcome, validate e.spec (name :: rest) = outcome → outcome.isRejection = true →
            (∃ message, outcome.message? = some message ∧ message ≠ ""
              ∧ (d.execute (name :: rest)).result = .ok (.rejected name outcome message
                (match outcome with
                  | .optionConstraint flag _ _ => e.spec.help (some flag)
                  | _ => e.spec.help none)))
              ∧ d.Idle (name :: rest) := by
  refine ⟨⟨rfl, idle_nil⟩, fun name rest => ⟨fun hname => ?_, fun e he => ⟨runsOnce_iff he, ?_, ?_⟩⟩⟩
  · exact ⟨by rw [execute_of_unregistered hname], idle_of_unregistered hname⟩
  · intro topic h
    exact ⟨by rw [execute_of_help he h], idle_of_help he h⟩
  · intro outcome h hrejection
    refine ⟨?_, idle_of_rejection he h hrejection⟩
    obtain ⟨message, hmessage, hne⟩ := exists_message_of_isRejection hrejection
    refine ⟨message, hmessage, hne, ?_⟩
    rw [execute_of_rejection he h hrejection, hmessage]
    cases outcome with
    | ok => simp [Outcome.isRejection] at hrejection
    | helpRequested topic => simp [Outcome.isRejection] at hrejection
    | argumentCount required supplied => rfl
    | unknownOption flag => rfl
    | optionConstraint flag params constraint => rfl

end Dispatcher

end Optline
