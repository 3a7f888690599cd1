import Optline.Cli.Program
import Optline.Proofs.Stopping

/-!
# How a run of command lines ends

The exit status of the program and the status that it reports are read off the end of a run: off its
failure and its last answer.  Nothing gets lost that way, because a rejection stops the run that it
appears in.  It is the last answer, the only one of its kind, and it leaves no room for a failure.

* **`RunsTo.rejected_last`** — a rejection is the end of a run.
* `wasRejected_iff` — to look at the last answer is to look at all of them.
* `runFault_eq_none_iff` — when a run ends well.
* **`run_ends_at_first_stop`** — all of this for the command lines and the file of a request.
-/

namespace Optline

namespace Dispatcher

variable {d : Dispatcher} {lines : List String} {run : ScriptRun}

/-- **A rejection is the end of a run**, with no answer and no failure behind it. -/
theorem RunsTo.rejected_last (h : RunsTo d lines run) {before after : List Dispatch} {a : Dispatch}
    (hanswers : run.answers = before ++ a :: after) (ha : a.isRejected = true) :
    after = [] ∧ run.failure = none := by
  cases h with
  | @complete _ answers _ hpass =>
      replace hanswers : answers = before ++ a :: after := hanswers
      exact absurd (by simp [hanswers]) (hpass.not_mem_of_rejected ha)
  | @stopped d' _ _ line answers last _ failure _ hbefore hline =>
      replace hanswers : answers ++ last = before ++ a :: after := hanswers
      have hnot : a ∉ answers := hbefore.not_mem_of_rejected ha
      generalize (d'.executeLine line).result = result at hline
      cases hline with
      | failed e =>
          rw [List.append_nil] at hanswers
          exact absurd (by simp [hanswers]) hnot
      | rejected h =>
          -- With anything behind it the rejection would be an answer of a line that passed.
          rcases List.eq_nil_or_concat' after with rfl | ⟨init, final, rfl⟩
          · exact ⟨rfl, rfl⟩
          · rw [← List.cons_append, ← List.append_assoc] at hanswers
            have hinit := (List.append_inj' hanswers rfl).1
            exact absurd (by simp [hinit]) hnot

end Dispatcher

namespace Cli

open Dispatcher

variable {d : Dispatcher} {lines : List String} {run : ScriptRun}

/-- Some answer of a run is a rejection if and only if the last one is. -/
lemma wasRejected_iff (h : RunsTo d lines run) :
    wasRejected run = true ↔ ∃ a ∈ run.answers, a.isRejected = true := by
  rw [wasRejected, Option.any_eq_true]
  constructor
  · rintro ⟨a, hlast, ha⟩
    exact ⟨a, List.mem_of_getLast? hlast, ha⟩
  · rintro ⟨a, hmem, ha⟩
    obtain ⟨before, after, hanswers⟩ := List.append_of_mem hmem
    obtain ⟨rfl, -⟩ := h.rejected_last hanswers ha
    exact ⟨a, by rw [hanswers]; simp, ha⟩

lemma runFault_eq_none_iff (h : RunsTo d lines run) :
    runFault run = none
      ↔ run.failure = none ∧ ∀ a ∈ run.answers, a.isRejected = false := by
  have hnone : (∀ a ∈ run.answers, a.isRejected = false) ↔ wasRejected run = false := by
    rw [← Bool.not_eq_true, wasRejected_iff h]
    simp
  rw [hnone, runFault]
  cases hfailure : run.failure with
  | some e => simp
  | none => cases hrejected : wasRejected run <;> simp

lemma exit_of_eq_zero_iff {output : String} {fault : Option Fault} :
    (Finished.of output fault).exit = 0 ↔ fault = none := by
  cases fault <;> simp [Finished.of]

lemma member?_status (run : ScriptRun) :
    (runJson run).member? "status" = some (.string
      (if run.failure.isSome then "error" else if wasRejected run then "rejected" else "ok")) := by
  cases hfailure : run.failure <;> simp [runJson, hfailure, Json.member?, List.lookup_cons]

/-- The status that is reported is that of a failure, or else that of the last answer. -/
lemma exists_status (run : ScriptRun) :
    ∃ status, (runJson run).member? "status" = some (.string status)
      ∧ (status = "error" ↔ run.failure ≠ none)
      ∧ (status = "rejected"
        ↔ run.failure = none ∧ ∃ a, run.answers.getLast? = some a ∧ a.isRejected = true)
      ∧ (status = "ok"
        ↔ run.failure = none ∧ ∀ a, run.answers.getLast? = some a → a.isRejected = false) := by
  refine ⟨_, member?_status run, ?_⟩
  rw [wasRejected]
  cases run.failure with
  | some e => simp
  | none =>
      cases run.answers.getLast? with
      | none => simp
      | some a => cases hrejected : a.isRejected <;> simp [hrejected]

lemma member?_results (run : ScriptRun) :
    (runJson run).member? "results" = some (.array (run.answers.map (·.toJson))) := by
  cases hfailure : run.failure <;> simp [runJson, hfailure, Json.member?, List.lookup_cons]

/-- **A run ends at its first stop.**  Whatever the command lines and the file of a request say,
they are run in order up to the first that fails or is turned away, and no further.  A rejection
among the answers is the last of them, and then nothing has failed; so the status that is reported
and the exit status, which are read off the failure and the last answer, tell whether anything went
wrong anywhere. -/
theorem run_ends_at_first_stop {s : Surroundings} {lines : List String} {file : Option String}
    {script : String} (h : scriptOf s lines file = .ok script) (session : Session) :
    let d := session.dispatcher s.observe
    let run := d.runScript script
    (∀ r, RunsTo d (splitScript script) r ↔ r = run)
      ∧ (∀ before a after, run.answers = before ++ a :: after → a.isRejected = true →
        after = [] ∧ run.failure = none)
      ∧ (Text.isBlankText script = false → ∀ json,
        (runRequest s session lines file json).output
            = (if json then (runJson run).pretty ++ "\n" else runText run (plainStyle s.columns))
          ∧ (runRequest s session lines file json).waited = run.dispatcher.waited)
      ∧ (runJson run).member? "results" = some (.array (run.answers.map (·.toJson)))
      ∧ (∃ status, (runJson run).member? "status" = some (.string status)
        ∧ (status = "error" ↔ run.failure ≠ none)
        ∧ (status = "rejected"
          ↔ run.failure = none ∧ ∃ a, run.answers.getLast? = some a ∧ a.isRejected = true)
        ∧ (status = "ok"
          ↔ run.failure = none ∧ ∀ a, run.answers.getLast? = some a → a.isRejected = false))
      ∧ ∀ json, (runRequest s session lines file json).exit = 0
        ↔ Text.isBlankText script = false ∧ run.failure = none
          ∧ ∀ a ∈ run.answers, a.isRejected = false := by
  intro d run
  have hrun : RunsTo d (splitScript script) run := runsTo_runLines d (splitScript script)
  refine ⟨fun r => runsTo_iff, fun _ _ _ hanswers ha => hrun.rejected_last hanswers ha,
    fun hblank json => ?_, member?_results run, exists_status run, fun json => ?_⟩
  · rw [runRequest, h]
    cases hfault : runFault run <;> simp [hblank, Finished.of, run, d, hfault]
  · rw [runRequest, h]
    cases hblank : Text.isBlankText script with
    | true => simp [hblank, exit_of_eq_zero_iff]
    | false => simp [hblank, exit_of_eq_zero_iff, runFault_eq_none_iff hrun, run, d]

/-- A command line with a comment behind it, and a file whose first command is turned away. -/
theorem run_ends_at_first_stop_rejected :
    let s : Surroundings :=
      { files := fun _ => .ok "sum 1\necho -text never\n".toUTF8, input := .empty }
    let session : Session := { registry := builtinRegistry, settings := { profile := false } }
    let script := "echo -text a; # b\nsum 1\necho -text never\n"
    scriptOf s ["echo -text a; # b"] (some "f") = .ok script
      ∧ ((session.dispatcher s.observe).runScript script).answers.map (·.isRejected)
        = [false, true]
      ∧ ∀ json, (runRequest s session ["echo -text a; # b"] (some "f") json).exit ≠ 0 := by
  intro s session script
  have h : scriptOf s ["echo -text a; # b"] (some "f") = .ok script := by decide +kernel
  have hanswers : ((session.dispatcher s.observe).runScript script).answers.map (·.isRejected)
      = [false, true] := by decide +kernel
  obtain ⟨-, -, -, -, -, hexit⟩ := run_ends_at_first_stop h session
  refine ⟨h, hanswers, fun json hzero => ?_⟩
  obtain ⟨-, -, hnone⟩ := (hexit json).mp hzero
  have hmem : true ∈ [false, true] := by decide
  rw [← hanswers] at hmem
  obtain ⟨a, ha, hrejected⟩ := List.mem_map.mp hmem
  rw [hnone a ha] at hrejected
  exact absurd hrejected (by simp)

end Cli

end Optline
