import Optline.Proofs.ExitStatus
import Optline.Proofs.Execution

/-!
# Checking in place of executing

A check looks an invocation up and validates it as an execution does, but it decides by itself which
help belongs to what it finds, and whether all is well.  Still it never says anything else than the
execution would: its report tells whether a handler would run, and if not, what the answer would be.

* `Foretells` — a check against the result of an execution, one rule for each kind of result.
* `Foretells.of_ok`, `Foretells.of_help` — where there is no message, and where no help.
* `Foretells.text_eq`, `Foretells.member?_eq` — what people see, and what stands in JSON.
* **`check_is_dry_run`** — every check foretells the execution, and it fails exactly where the
  execution does not know the command or turns the invocation away.
-/

namespace Optline.Cli

open Dispatcher

/-- Whether a check tells what the result of an execution is.  Where a handler runs there is nothing
to tell, be it that the handler fails. -/
inductive Foretells : Check → Except DispatchError Dispatch → Prop
  | rejected {command message help : String} {outcome : Outcome}
      (h : outcome.isRejection = true) (hmessage : outcome.message? = some message) :
      Foretells ⟨command, outcome, some help⟩ (.ok (.rejected command outcome message help))
  | help {command text : String} {topic : Option String} :
      Foretells ⟨command, .helpRequested topic, some text⟩ (.ok (.help command text))
  | completed {command output : String} {report : Option Report} :
      Foretells ⟨command, .ok, none⟩ (.ok (.completed command output report))
  | failed {command : String} {rest : List String} {fault : Fault} :
      Foretells ⟨command, .ok, none⟩ (.error (.failed (command :: rest) fault))

@[simp] lemma Check.member?_message (check : Check) :
    check.toJson.member? "message" = some (.ofText check.outcome.message?) := by
  simp [Check.toJson, Json.member?, List.lookup_cons]

@[simp] lemma Check.member?_help (check : Check) :
    check.toJson.member? "help" = some (.ofText check.help) := by
  simp [Check.toJson, Json.member?, List.lookup_cons]

namespace Foretells

variable {check : Check} {result : Except DispatchError Dispatch} {answer : Dispatch}
  {command text : String}

lemma fault_eq_none_iff (h : Foretells check result) :
    check.fault = none ↔ ∀ answer, result = .ok answer → answer.isRejected = false := by
  cases h with
  | rejected hrejection _ => simp [Check.fault, hrejection, Dispatch.isRejected]
  | help => simp [Check.fault, Outcome.isRejection, Dispatch.isRejected]
  | completed => simp [Check.fault, Outcome.isRejection, Dispatch.isRejected]
  | failed => simp [Check.fault, Outcome.isRejection]

/-- Where a handler runs there is neither a message nor help. -/
theorem of_ok (h : Foretells check result) (hok : check.outcome = .ok) :
    check.outcome.message? = none ∧ check.help = none
      ∧ check.toJson.member? "message" = some .null
      ∧ check.toJson.member? "help" = some .null := by
  cases h with
  | @rejected _ _ _ outcome hrejection _ =>
      obtain rfl : outcome = .ok := hok
      exact absurd hrejection (by simp [Outcome.isRejection])
  | help => exact absurd hok (by simp)
  | completed => exact ⟨rfl, rfl, Check.member?_message _, Check.member?_help _⟩
  | failed => exact ⟨rfl, rfl, Check.member?_message _, Check.member?_help _⟩

/-- Where help is given there is no message. -/
theorem of_help (h : Foretells check result) (hhelp : result = .ok (.help command text)) :
    check.outcome.message? = none ∧ check.help = some text
      ∧ check.toJson.member? "message" = some .null
      ∧ check.toJson.member? "help" = some (.string text) := by
  subst hhelp
  cases h with
  | help => exact ⟨rfl, rfl, Check.member?_message _, Check.member?_help _⟩

/-- People see what they would see with the answer, unless a handler runs. -/
theorem text_eq (h : Foretells check result) (hok : check.outcome ≠ .ok)
    (hanswer : result = .ok answer) (style : Display.Style) :
    check.text style = Display.answerText answer style ++ "\n" := by
  cases h with
  | @rejected command message help outcome hrejection hmessage =>
      obtain rfl := Except.ok.inj hanswer
      have htext : outcome.text = message := by
        cases outcome <;> simp_all [Outcome.text, Outcome.isRejection]
      cases outcome <;>
        simp_all [Check.text, Display.answerText, Outcome.isRejection, String.append_assoc]
  | help =>
      obtain rfl := Except.ok.inj hanswer
      simp [Check.text, Display.answerText]
  | completed => exact absurd rfl hok
  | failed => exact absurd rfl hok

/-- In JSON the members of a rejection are those of the answer. -/
theorem member?_eq (h : Foretells check result) (hanswer : result = .ok answer)
    (hrejected : answer.isRejected = true) :
    ∀ key ∈ ["command", "help", "message", "outcome"],
      check.toJson.member? key = answer.toJson.member? key := by
  subst hanswer
  cases h with
  | rejected _ hmessage =>
      simp [Check.toJson, Dispatch.toJson, Json.member?, List.lookup_cons, hmessage, Json.ofText,
        Json.ofOption]
  | help => exact absurd hrejected (by simp [Dispatch.isRejected])
  | completed => exact absurd hrejected (by simp [Dispatch.isRejected])

end Foretells

/-! ## What a check finds -/

variable {r : Registry Handler} {d : Dispatcher} {name : String} {rest : List String}

lemma checkInvocation_eq_error_iff {fault : Fault} :
    checkInvocation r (name :: rest) = .error fault
      ↔ ¬ r.Registers name ∧ fault = unknownCommandFault name := by
  rw [← Registry.lookup?_eq_none_iff, checkInvocation]
  cases hlookup : r.lookup? name with
  | none => simp [eq_comm]
  | some e => simp

lemma checkInvocation_of_registered {e : Entry Handler} (he : r.FirstRegistered name e)
    {outcome : Outcome} (h : validate e.spec (name :: rest) = outcome) :
    checkInvocation r (name :: rest)
      = .ok ⟨name, outcome, if outcome.permits then none else some (outcome.helpFor e.spec)⟩ := by
  simp only [checkInvocation, Registry.lookup?_eq_some_iff.mpr he, h]

/-- Every outcome foretells what an execution makes of it. -/
theorem foretells_execute {e : Entry Handler} (he : d.registry.FirstRegistered name e)
    {outcome : Outcome} (h : validate e.spec (name :: rest) = outcome) :
    Foretells ⟨name, outcome, if outcome.permits then none else some (outcome.helpFor e.spec)⟩
      (d.execute (name :: rest)).result := by
  rcases ok_or_help_or_rejection outcome with rfl | ⟨topic, rfl⟩ | hrejection
  · rw [execute_of_ok he h, run]
    cases (e.handler ⟨name :: rest, e.spec, d.registry.specs, d.settings⟩).result with
    | ok output => exact .completed
    | error fault => exact .failed
  · rw [execute_of_help he h]
    exact .help
  · obtain ⟨message, hmessage, -⟩ := exists_message_of_isRejection hrejection
    have hpermits : outcome.permits = false := by
      cases outcome <;> simp_all [Outcome.permits, Outcome.isRejection]
    rw [execute_of_rejection he h hrejection, hmessage, hpermits]
    exact .rejected hrejection hmessage

lemma execute_eq_unknownCommand_iff :
    (d.execute (name :: rest)).result = .error (.unknownCommand name)
      ↔ ¬ d.registry.Registers name := by
  constructor
  · intro hresult hname
    obtain ⟨e, he⟩ := Registry.exists_firstRegistered hname
    obtain ⟨check, hcheck⟩ : ∃ check, Foretells check (d.execute (name :: rest)).result :=
      ⟨_, foretells_execute he rfl⟩
    rw [hresult] at hcheck
    cases hcheck
  · intro hname
    rw [execute_of_unregistered hname]

/-! ## What it reports -/

lemma output_of (output : String) (fault : Option Fault) :
    (Finished.of output fault).output = output := by
  cases fault <;> rfl

/-- **A check is a dry run.**  It fails with an unknown command exactly where an execution of the
same tokens does, and with the same words.  Otherwise it reports the outcome, the message and the
help of the rejection that the execution answers with, the help that the execution gives and no
message, or neither message nor help where a handler runs; and it succeeds if and only if the
execution does not turn the invocation away. -/
theorem check_is_dry_run (s : Surroundings) (session : Session) (name : String)
    (rest : List String) :
    let tokens := name :: rest
    let d := session.dispatcher s.observe
    let result := (d.execute tokens).result
    (∀ fault, checkInvocation session.registry tokens = .error fault
        ↔ result = .error (.unknownCommand name)
          ∧ fault = (DispatchError.unknownCommand name).fault)
      ∧ (∀ fault json, checkInvocation session.registry tokens = .error fault →
        checkRequest s session tokens json = .of "" (some fault))
      ∧ (∀ check, checkInvocation session.registry tokens = .ok check →
        Foretells check result
          ∧ (check.outcome = .ok ↔ ∃ e, d.RunsOnce e tokens)
          ∧ (check.outcome = .ok → check.outcome.message? = none ∧ check.help = none
            ∧ check.toJson.member? "message" = some .null
            ∧ check.toJson.member? "help" = some .null)
          ∧ (∀ command text, result = .ok (.help command text) →
            check.outcome.message? = none ∧ check.help = some text
              ∧ check.toJson.member? "message" = some .null
              ∧ check.toJson.member? "help" = some (.string text))
          ∧ (∀ answer style, result = .ok answer → check.outcome ≠ .ok →
            check.text style = Display.answerText answer style ++ "\n")
          ∧ (∀ answer, result = .ok answer → answer.isRejected = true →
            ∀ key ∈ ["command", "help", "message", "outcome"],
              check.toJson.member? key = answer.toJson.member? key)
          ∧ ∀ json, (checkRequest s session tokens json).output
            = if json then check.toJson.pretty ++ "\n" else check.text (plainStyle s.columns))
      ∧ ∀ json, (checkRequest s session tokens json).exit = 0
        ↔ result ≠ .error (.unknownCommand name)
          ∧ ∀ answer, result = .ok answer → answer.isRejected = false := by
  intro tokens d result
  have hunknown : result = .error (.unknownCommand name) ↔ ¬ session.registry.Registers name :=
    execute_eq_unknownCommand_iff
  refine ⟨fun fault => ?_, fun fault json hfault => ?_, fun check hcheck => ?_, fun json => ?_⟩
  · rw [hunknown]
    exact checkInvocation_eq_error_iff
  · rw [checkRequest, hfault]
  · have hname : session.registry.Registers name := by
      by_contra hname
      have herror : checkInvocation session.registry tokens = .error (unknownCommandFault name) :=
        checkInvocation_eq_error_iff.mpr ⟨hname, rfl⟩
      rw [hcheck] at herror
      exact absurd herror (by simp)
    obtain ⟨e, he⟩ := Registry.exists_firstRegistered hname
    obtain rfl := Except.ok.inj (hcheck.symm.trans (checkInvocation_of_registered he rfl))
    have hforetells : Foretells _ result := foretells_execute he rfl
    refine ⟨hforetells, (exists_runsOnce_iff he).symm, hforetells.of_ok,
      fun command text => hforetells.of_help,
      fun answer style hanswer hok => hforetells.text_eq hok hanswer style,
      fun answer => hforetells.member?_eq, fun json => ?_⟩
    rw [checkRequest, hcheck]
    exact output_of _ _
  · by_cases hname : session.registry.Registers name
    · obtain ⟨e, he⟩ := Registry.exists_firstRegistered hname
      have hforetells : Foretells _ result := foretells_execute he rfl
      rw [checkRequest, checkInvocation_of_registered he rfl]
      simp only [exit_of_eq_zero_iff, hforetells.fault_eq_none_iff]
      exact (and_iff_right (mt hunknown.mp (not_not.mpr hname))).symm
    · rw [checkRequest, checkInvocation_eq_error_iff.mpr ⟨hname, rfl⟩]
      simp [exit_of_eq_zero_iff, hunknown.mpr hname]

end Optline.Cli
