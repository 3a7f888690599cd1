import Optline.Proofs.CommandLine

/-!
# Where a run stops

A command line either lets a run go on, with an answer or without one, or it stops the run: with a
failure, or with an answer that is a rejection.  `passes_or_stops` says that there is nothing else a
line can do, and `runLines_cons_of_pass` and `runLines_cons_of_stop` say what each of the two makes
of a run.  All further facts about runs follow from these three.

* `Passes` — lines that let a run go on, one after the other, with their answers.
* `Stops` — what the line that stops a run contributes to it.
* `RunsTo` — a run that comes through all its lines, or up to the first one that stops it.
* **`runsTo_iff`** — this is what a run is.
* **`executeLines_eq_nil_iff`** — a run without any answer is a run of silent lines.
* **`runners_agree`** — the two ways to run a script agree, and a failure keeps exactly the answers
  of the lines in front of it.
-/

namespace Optline.Dispatcher

/-! ## One line -/

/-- The answers and the failure that a line adds to the run that it stops. -/
inductive Stops :
    Except DispatchError (Option Dispatch) → List Dispatch → Option DispatchError → Prop
  | failed (e : DispatchError) : Stops (.error e) [] (some e)
  | rejected {answer : Dispatch} (h : answer.isRejected = true) :
      Stops (.ok (some answer)) [answer] none

/-- A line lets a run go on or stops it. -/
lemma passes_or_stops (result : Except DispatchError (Option Dispatch)) :
    (∃ answer, result = .ok answer ∧ ∀ a ∈ answer, a.isRejected = false)
      ∨ ∃ last failure, Stops result last failure := by
  rcases result with e | _ | answer
  · exact Or.inr ⟨[], some e, .failed e⟩
  · exact Or.inl ⟨none, rfl, by simp⟩
  · cases h : answer.isRejected with
    | true => exact Or.inr ⟨[answer], none, .rejected h⟩
    | false => exact Or.inl ⟨some answer, rfl, by simpa using h⟩

/-- A run behind further answers and notices. -/
def ScriptRun.precededBy (run : ScriptRun) (answers : List Dispatch) (notices : List Notice) :
    ScriptRun :=
  { run with answers := answers ++ run.answers, notices := notices ++ run.notices }

variable {d d' : Dispatcher} {line : String} {rest : List String}

lemma runLines_cons_of_pass {answer : Option Dispatch}
    (h : (d.executeLine line).result = .ok answer)
    (hanswer : ∀ a ∈ answer, a.isRejected = false) :
    d.runLines (line :: rest)
      = ((d.executeLine line).dispatcher.runLines rest).precededBy answer.toList
        (d.executeLine line).notices := by
  rw [runLines]
  cases answer with
  | none => simp [h, ScriptRun.precededBy]
  | some answer => simp [h, hanswer answer rfl, ScriptRun.precededBy]

lemma runLines_cons_of_stop {last : List Dispatch} {failure : Option DispatchError}
    (h : Stops (d.executeLine line).result last failure) :
    d.runLines (line :: rest)
      = ⟨last, failure, (d.executeLine line).dispatcher, (d.executeLine line).notices⟩ := by
  rw [runLines]
  generalize (d.executeLine line).result = result at h
  cases h with
  | failed e => rfl
  | rejected hanswer => simp [hanswer]

/-! ## Lines that pass -/

/-- Lines that let a run from one dispatcher to another go on, with the answers and the notices of
all of them. -/
inductive Passes : Dispatcher → List String → List Dispatch → List Notice → Dispatcher → Prop
  | nil (d : Dispatcher) : Passes d [] [] [] d
  | cons {d d' : Dispatcher} {line : String} {rest : List String} {answer : Option Dispatch}
      {answers : List Dispatch} {notices : List Notice}
      (h : (d.executeLine line).result = .ok answer)
      (hanswer : ∀ a ∈ answer, a.isRejected = false)
      (hrest : Passes (d.executeLine line).dispatcher rest answers notices d') :
      Passes d (line :: rest) (answer.toList ++ answers)
        ((d.executeLine line).notices ++ notices) d'

variable {lines before : List String} {answers : List Dispatch} {notices : List Notice}

lemma Passes.not_rejected (h : Passes d lines answers notices d') :
    ∀ a ∈ answers, a.isRejected = false := by
  induction h with
  | nil => simp
  | cons _ hanswer _ ih =>
      intro a ha
      rcases List.mem_append.mp ha with ha | ha
      · exact hanswer a (Option.mem_toList.mp ha)
      · exact ih a ha

lemma Passes.not_mem_of_rejected (h : Passes d lines answers notices d') {a : Dispatch}
    (ha : a.isRejected = true) : a ∉ answers := by
  intro hmem
  rw [h.not_rejected a hmem] at ha
  exact absurd ha (by simp)

/-- Lines that pass put their answers in front of the run of the lines behind them. -/
theorem Passes.runLines_append (h : Passes d before answers notices d') (rest : List String) :
    d.runLines (before ++ rest) = (d'.runLines rest).precededBy answers notices := by
  induction h with
  | nil => rfl
  | cons h hanswer _ ih =>
      rw [List.cons_append, runLines_cons_of_pass h hanswer, ih]
      simp [ScriptRun.precededBy]

/-! ## Whole runs -/

/-- What a run of lines comes to: all of them pass, or the first that does not stops it and leaves
the dispatcher as it is then. -/
inductive RunsTo (d : Dispatcher) (lines : List String) : ScriptRun → Prop
  | complete {d' : Dispatcher} {answers : List Dispatch} {notices : List Notice}
      (h : Passes d lines answers notices d') : RunsTo d lines ⟨answers, none, d', notices⟩
  | stopped {d' : Dispatcher} {before after : List String} {line : String}
      {answers last : List Dispatch} {notices : List Notice} {failure : Option DispatchError}
      (hlines : lines = before ++ line :: after) (hbefore : Passes d before answers notices d')
      (hline : Stops (d'.executeLine line).result last failure) :
      RunsTo d lines ⟨answers ++ last, failure, (d'.executeLine line).dispatcher,
        notices ++ (d'.executeLine line).notices⟩

theorem runsTo_runLines (d : Dispatcher) (lines : List String) :
    RunsTo d lines (d.runLines lines) := by
  induction lines generalizing d with
  | nil => exact .complete (.nil d)
  | cons line rest ih =>
      rcases passes_or_stops (d.executeLine line).result with
        ⟨answer, hresult, hanswer⟩ | ⟨last, failure, hstop⟩
      · rw [runLines_cons_of_pass hresult hanswer]
        have hrest := ih (d.executeLine line).dispatcher
        generalize (d.executeLine line).dispatcher.runLines rest = run at hrest
        cases hrest with
        | complete h => exact .complete (.cons hresult hanswer h)
        | stopped hlines hbefore hline =>
            have hrun := RunsTo.stopped (congrArg (line :: ·) hlines)
              (.cons hresult hanswer hbefore) hline
            simpa [ScriptRun.precededBy] using hrun
      · rw [runLines_cons_of_stop hstop]
        have hlines : line :: rest = [] ++ line :: rest := rfl
        exact .stopped hlines (.nil d) hstop

/-- **What a run is.**  It comes through all its lines or up to the first one that stops it, and
nothing of what stands behind that line has any part in it. -/
theorem runsTo_iff {run : ScriptRun} : RunsTo d lines run ↔ run = d.runLines lines := by
  constructor
  · intro h
    cases h with
    | complete h =>
        have hrun := h.runLines_append []
        rw [List.append_nil] at hrun
        rw [hrun]
        simp [ScriptRun.precededBy, runLines]
    | stopped hlines hbefore hline =>
        rw [hlines, hbefore.runLines_append, runLines_cons_of_stop hline]
        rfl
  · rintro rfl
    exact runsTo_runLines d lines

/-! ## Runs without an answer -/

lemma runLines_silent_iff :
    ((d.runLines lines).failure = none ∧ (d.runLines lines).answers = [])
      ↔ ∀ line ∈ lines, IsSilent line.toList := by
  induction lines generalizing d with
  | nil => simp [runLines]
  | cons line rest ih =>
      rw [List.forall_mem_cons, ← executeLine_eq_none_iff d]
      rcases passes_or_stops (d.executeLine line).result with
        ⟨answer, hresult, hanswer⟩ | ⟨last, failure, hstop⟩
      · rw [runLines_cons_of_pass hresult hanswer, hresult, ← @ih (d.executeLine line).dispatcher]
        cases answer <;> simp [ScriptRun.precededBy]
      · rw [runLines_cons_of_stop hstop]
        generalize (d.executeLine line).result = result at hstop
        cases hstop <;> simp

/-- **A run without any answer is a run of silent lines.**  The first line that is not silent gives
the run an answer or makes it fail, whatever comes after it. -/
theorem executeLines_eq_nil_iff :
    (d.executeLines lines).result = .ok [] ↔ ∀ line ∈ lines, IsSilent line.toList := by
  rw [executeLines_eq_runLines, ← @runLines_silent_iff d, ScriptRun.step]
  cases (d.runLines lines).failure <;> simp

/-! ## Failures -/

/-- A run fails where a line behind lines that pass does, and keeps exactly the answers of these. -/
lemma runLines_failed_iff {e : DispatchError} :
    ((d.runLines lines).answers = answers ∧ (d.runLines lines).failure = some e)
      ↔ ∃ before line after notices d', lines = before ++ line :: after
        ∧ Passes d before answers notices d' ∧ (d'.executeLine line).result = .error e := by
  constructor
  · rintro ⟨rfl, hfailure⟩
    have hrun := runsTo_runLines d lines
    generalize d.runLines lines = run at hrun hfailure
    cases hrun with
    | complete h => exact absurd hfailure (by simp)
    | @stopped d' before after line answers last notices failure hlines hbefore hline =>
        generalize hresult : (d'.executeLine line).result = result at hline
        cases hline with
        | failed e' =>
            obtain rfl : e' = e := Option.some.inj hfailure
            exact ⟨before, line, after, notices, d', hlines, by simpa using hbefore, hresult⟩
        | rejected h => exact absurd hfailure (by simp)
  · rintro ⟨before, line, after, notices, d', rfl, hbefore, hresult⟩
    have hstop : Stops (d'.executeLine line).result [] (some e) := by
      rw [hresult]
      exact .failed e
    rw [hbefore.runLines_append, runLines_cons_of_stop hstop]
    simp [ScriptRun.precededBy]

/-- **The two ways to run a script agree.**  Where nothing fails they have the same answers, where
one of them fails the other one does with the same failure, and both leave the same dispatcher.  The
answers that are kept beside a failure are those of the lines in front of the line that fails. -/
theorem runners_agree (d : Dispatcher) (script : String) :
    (∀ answers, (d.runScript script).answers = answers ∧ (d.runScript script).failure = none
        ↔ (d.executeScript script).result = .ok answers)
      ∧ (∀ e, (d.runScript script).failure = some e ↔ (d.executeScript script).result = .error e)
      ∧ (d.runScript script).dispatcher = (d.executeScript script).dispatcher
      ∧ ∀ answers e, (d.runScript script).answers = answers ∧ (d.runScript script).failure = some e
        ↔ ∃ before line after notices d', splitScript script = before ++ line :: after
          ∧ Passes d before answers notices d' ∧ (d'.executeLine line).result = .error e := by
  have hstep : d.executeScript script = (d.runScript script).step :=
    executeLines_eq_runLines d (splitScript script)
  rw [hstep]
  refine ⟨fun answers => ?_, fun e => ?_, rfl, fun answers e => runLines_failed_iff⟩
  · cases hfailure : (d.runScript script).failure with
    | none => simp [ScriptRun.step, hfailure]
    | some e => simp [ScriptRun.step, hfailure]
  · cases hfailure : (d.runScript script).failure with
    | none => simp [ScriptRun.step, hfailure]
    | some e => simp [ScriptRun.step, hfailure]

end Optline.Dispatcher
