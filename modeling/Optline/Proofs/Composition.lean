import Optline.Builtin
import Optline.Proofs.Script
import Optline.Proofs.Stopping

/-!
# Scripts one after the other

A separator between two scripts makes one script of them, provided that the first one leaves no
quote and no backslash open.  To run it is to run the first one and then, unless that ended with a
failure or a rejection, the second one from the state that the first one left.  This holds for runs
of any two lists of command lines, by induction on the first one: its first line either stops both
runs or passes, and then it only adds its own answer to both.

* `ScriptRun.andThen`, `Step.andThen` — runs one after the other.
* **`runLines_append`**, **`executeLines_append`** — to run lines and further lines is to run the
  ones after the others.
* `splitScript_unlines` — the command lines of a script, written one below the other, are the
  command lines again.
* **`scripts_compose`** — the same for scripts.
-/

namespace Optline

/-- A run and then another one from where the first one ended, unless that was a failure or a
rejection. -/
def Step.andThen (first : Step (List Dispatch)) (next : Dispatcher → Step (List Dispatch)) :
    Step (List Dispatch) :=
  match first.result with
  | .error _ => first
  | .ok answers =>
    if answers.any (·.isRejected) then first
    else
      let second := next first.dispatcher
      ⟨second.result.map (answers ++ ·), second.dispatcher, first.notices ++ second.notices⟩

namespace Dispatcher

/-! ## Runs whose answers are kept -/

namespace ScriptRun

/-- Whether a run has come through all its lines. -/
def isComplete (run : ScriptRun) : Bool :=
  run.failure.isNone && !run.answers.any (·.isRejected)

/-- A run and then another one, unless the first one was stopped. -/
def andThen (first : ScriptRun) (next : Dispatcher → ScriptRun) : ScriptRun :=
  if first.isComplete then (next first.dispatcher).precededBy first.answers first.notices
  else first

lemma andThen_of_complete {first : ScriptRun} (h : first.isComplete = true)
    (next : Dispatcher → ScriptRun) :
    first.andThen next = (next first.dispatcher).precededBy first.answers first.notices := by
  rw [andThen, if_pos h]

lemma andThen_of_stopped {first : ScriptRun} (h : first.isComplete = false)
    (next : Dispatcher → ScriptRun) : first.andThen next = first := by
  rw [andThen, if_neg (by simp [h])]

lemma isComplete_precededBy {answers : List Dispatch} (h : ∀ a ∈ answers, a.isRejected = false)
    (run : ScriptRun) (notices : List Notice) :
    (run.precededBy answers notices).isComplete = run.isComplete := by
  have hnone : answers.any (·.isRejected) = false := by simpa using h
  simp [isComplete, precededBy, List.any_append, hnone]

/-- What stands in front of the first run stands in front of both. -/
lemma andThen_precededBy {answers : List Dispatch} (h : ∀ a ∈ answers, a.isRejected = false)
    (run : ScriptRun) (notices : List Notice) (next : Dispatcher → ScriptRun) :
    (run.precededBy answers notices).andThen next
      = (run.andThen next).precededBy answers notices := by
  have hcomplete := isComplete_precededBy h run notices
  cases hrun : run.isComplete with
  | true =>
      rw [andThen_of_complete (hcomplete.trans hrun), andThen_of_complete hrun]
      simp [precededBy]
  | false => rw [andThen_of_stopped (hcomplete.trans hrun), andThen_of_stopped hrun]

lemma isComplete_of_stops {result : Except DispatchError (Option Dispatch)}
    {last : List Dispatch} {failure : Option DispatchError} (h : Stops result last failure)
    (d : Dispatcher) (notices : List Notice) :
    isComplete ⟨last, failure, d, notices⟩ = false := by
  cases h with
  | failed e => rfl
  | rejected h => simp [isComplete, h]

lemma isComplete_iff {run : ScriptRun} :
    run.isComplete = true ↔ run.failure = none ∧ ∀ a ∈ run.answers, a.isRejected = false := by
  simp [isComplete]

/-- Both of two runs have come through all their lines, if the one that they make has. -/
lemma isComplete_andThen {first : ScriptRun} {next : Dispatcher → ScriptRun}
    (h : (first.andThen next).isComplete = true) :
    first.isComplete = true ∧ (next first.dispatcher).isComplete = true := by
  cases hfirst : first.isComplete with
  | true =>
      rw [andThen_of_complete hfirst, isComplete_precededBy (isComplete_iff.mp hfirst).2] at h
      exact ⟨rfl, h⟩
  | false =>
      rw [andThen_of_stopped hfirst, hfirst] at h
      exact absurd h (by simp)

end ScriptRun

/-- **To run lines and further lines** is to run the ones after the others.  The induction is on the
lines in front; a line that stops the run makes it one that nothing follows. -/
theorem runLines_append (d : Dispatcher) (first second : List String) :
    d.runLines (first ++ second) = (d.runLines first).andThen (·.runLines second) := by
  induction first generalizing d with
  | nil => rfl
  | cons line first ih =>
      rw [List.cons_append]
      rcases passes_or_stops (d.executeLine line).result with
        ⟨answer, hresult, hanswer⟩ | ⟨last, failure, hstop⟩
      · have hnone : ∀ a ∈ answer.toList, a.isRejected = false :=
          fun a ha => hanswer a (Option.mem_toList.mp ha)
        rw [runLines_cons_of_pass hresult hanswer, runLines_cons_of_pass hresult hanswer, ih,
          ScriptRun.andThen_precededBy hnone]
      · rw [runLines_cons_of_stop hstop, runLines_cons_of_stop hstop,
          ScriptRun.andThen_of_stopped (ScriptRun.isComplete_of_stops hstop _ _)]

/-- The two ways to run go on under the same condition. -/
lemma step_andThen (first : ScriptRun) (next : Dispatcher → ScriptRun) :
    (first.andThen next).step = first.step.andThen fun d => (next d).step := by
  cases hfailure : first.failure with
  | some e => simp [ScriptRun.andThen, ScriptRun.isComplete, ScriptRun.step, Step.andThen, hfailure]
  | none =>
      cases hrejected : first.answers.any (·.isRejected) with
      | true =>
          rw [ScriptRun.andThen_of_stopped (by simp [ScriptRun.isComplete, hrejected])]
          simp [ScriptRun.step, Step.andThen, hfailure, hrejected]
      | false =>
          rw [ScriptRun.andThen_of_complete (by simp [ScriptRun.isComplete, hfailure, hrejected])]
          cases hnext : (next first.dispatcher).failure with
          | some e =>
              simp [ScriptRun.precededBy, ScriptRun.step, Step.andThen, hfailure, hrejected, hnext,
                Except.map]
          | none =>
              simp [ScriptRun.precededBy, ScriptRun.step, Step.andThen, hfailure, hrejected, hnext,
                Except.map]

/-- **The same where a failure takes the answers away.** -/
theorem executeLines_append (d : Dispatcher) (first second : List String) :
    d.executeLines (first ++ second) = (d.executeLines first).andThen (·.executeLines second) := by
  rw [executeLines_eq_runLines, runLines_append, step_andThen, ← executeLines_eq_runLines]
  simp only [executeLines_eq_runLines]

end Dispatcher

/-! ## Scripts -/

/-- The command lines of a script, written one below the other, are the command lines again. -/
theorem splitScript_unlines (script : String) :
    splitScript ("\n".intercalate (splitScript script)) = splitScript script := by
  by_cases h : splitScript script = []
  · rw [h]
    rfl
  · exact splitScript_intercalate (Or.inr rfl) (chain_splitScript h) fun line hline =>
      not_blank_of_mem_splitScript hline

/-- **Scripts compose.**  Behind a script that leaves no quote and no backslash open, a separator
keeps its command lines and those of the script behind it as they are; so both are run one after the
other, the second one only if the first one ended with neither a failure nor a rejection. -/
theorem scripts_compose {a sep : String} (ha : scriptCutter.after {} a.toList = {})
    (hsep : sep = ";" ∨ sep = "\n") (b : String) :
    splitScript (a ++ sep ++ b) = splitScript a ++ splitScript b
      ∧ (∀ d : Dispatcher, d.executeScript (a ++ sep ++ b)
        = (d.executeScript a).andThen fun d' => d'.executeScript b)
      ∧ ∀ script, splitScript ("\n".intercalate (splitScript script)) = splitScript script := by
  have hsplit : splitScript (a ++ sep ++ b) = splitScript a ++ splitScript b :=
    splitScript_append ha hsep b
  refine ⟨hsplit, fun d => ?_, splitScript_unlines⟩
  rw [Dispatcher.executeScript, hsplit]
  exact d.executeLines_append (splitScript a) (splitScript b)

/-- A first script with a separator between quotes and an escaped one in its last word. -/
theorem scripts_compose_echo :
    let a := "echo -text 'a;b'; echo -text x\\;"
    let b := "echo -text c; nope; echo"
    let d : Dispatcher := { registry := builtinRegistry, settings := { profile := false } }
    scriptCutter.after {} a.toList = {}
      ∧ splitScript (a ++ ";" ++ b)
        = ["echo -text 'a;b'", " echo -text x\\;", "echo -text c", " nope", " echo"]
      ∧ d.executeScript (a ++ ";" ++ b) = (d.executeScript a).andThen (·.executeScript b)
      ∧ (d.executeScript a).result.toOption.map (·.length) = some 2 := by
  intro a b d
  have ha : scriptCutter.after {} a.toList = {} := by decide +kernel
  obtain ⟨hsplit, hrun, -⟩ := scripts_compose ha (Or.inl rfl) b
  refine ⟨ha, hsplit.trans ?_, hrun d, ?_⟩
  · decide +kernel
  · decide +kernel

end Optline
