import Optline.Proofs.Execution
import Optline.Proofs.Stopping

/-!
# Two dispatchers side by side

Two dispatchers that differ can be given the same things to do.  Their answers are compared up to what
the comparison is not about, which a function `f` erases, and the dispatchers themselves by a relation
that every invocation has to keep.  Where a run goes on and where it stops depends only on whether
there is an answer and on whether that is a rejection; so what holds of one invocation after the other
holds of lines, of scripts and of any sequence of both.

* `Step.Alike`, `ScriptRun.Alike` — what two dispatchers have done, compared.
* `IsSimulation` — a relation between dispatchers that answer every invocation alike; for that,
  handlers have to be run alike (`isSimulation_of_run`).
* `Input`, `Dispatcher.responses` — lines and scripts in any order, and what is answered to each.
* **`IsSimulation.runLines`**, **`IsSimulation.responses`** — runs and sequences of inputs alike.
-/

namespace Optline

variable {f : Dispatch → Dispatch} {R : Dispatcher → Dispatcher → Prop} {d d' : Dispatcher}

/-! ## Comparisons -/

/-- Two steps with the same answer up to what `f` erases, the same notices, and dispatchers that are
related. -/
structure Step.Alike {α : Type} (f : α → α) (R : Dispatcher → Dispatcher → Prop)
    (s s' : Step α) : Prop where
  result : s.result.map f = s'.result.map f
  notices : s.notices = s'.notices
  dispatcher : R s.dispatcher s'.dispatcher

/-- Two runs with the same answers up to what `f` erases, the same failure and notices, and
dispatchers that are related. -/
structure Dispatcher.ScriptRun.Alike (f : Dispatch → Dispatch) (R : Dispatcher → Dispatcher → Prop)
    (run run' : ScriptRun) : Prop where
  answers : run.answers.map f = run'.answers.map f
  failure : run.failure = run'.failure
  notices : run.notices = run'.notices
  dispatcher : R run.dispatcher run'.dispatcher

/-- Whether related dispatchers answer every invocation alike and are related again, and what `f`
erases does not make a rejection of an answer or undo one. -/
structure IsSimulation (f : Dispatch → Dispatch) (R : Dispatcher → Dispatcher → Prop) : Prop where
  isRejected : ∀ a, (f a).isRejected = a.isRejected
  execute : ∀ {d d'}, R d d' → ∀ tokens, (d.execute tokens).Alike f R (d'.execute tokens)

/-- It is enough that related dispatchers run handlers alike; all else about an invocation is up to
the commands. -/
theorem isSimulation_of_run (hrejected : ∀ a, (f a).isRejected = a.isRejected)
    (hregistry : ∀ {d d'}, R d d' → d.registry = d'.registry)
    (hrun : ∀ {d d' name rest e}, R d d' → d.registry.FirstRegistered name e →
      (d.run e (name :: rest)).Alike f R (d'.run e (name :: rest))) : IsSimulation f R := by
  refine ⟨hrejected, fun {d d'} h tokens => ?_⟩
  rcases Dispatcher.run_or_stay d.registry tokens with
    ⟨name, rest, e, rfl, he, hruns⟩ | ⟨result, notices, -, hstays⟩
  · rw [hruns d rfl, hruns d' (hregistry h).symm]
    exact hrun h he
  · rw [hstays d rfl, hstays d' (hregistry h).symm]
    exact ⟨rfl, rfl, h⟩

/-! ## Requests -/

/-- What a dispatcher can be given. -/
inductive Input where
  /-- A command line. -/
  | line (text : String)
  /-- A script. -/
  | script (text : String)

namespace Dispatcher

/-- What becomes of an input; a line has no answer or one, a script any number of them. -/
def respond (d : Dispatcher) : Input → Step (List Dispatch)
  | .line text =>
    ⟨(d.executeLine text).result.map Option.toList, (d.executeLine text).dispatcher,
      (d.executeLine text).notices⟩
  | .script text => d.executeScript text

/-- What is answered to inputs, each of which is given to the dispatcher whatever became of those
before. -/
def responses (d : Dispatcher) : List Input → List (Except DispatchError (List Dispatch))
  | [] => []
  | input :: rest => (d.respond input).result :: responses (d.respond input).dispatcher rest

/-! ## Lines -/

lemma ScriptRun.Alike.precededBy {run run' : ScriptRun} (h : run.Alike f R run')
    {answers answers' : List Dispatch} (hanswers : answers.map f = answers'.map f)
    (notices : List Notice) :
    (run.precededBy answers notices).Alike f R (run'.precededBy answers' notices) := by
  refine ⟨?_, h.failure, ?_, h.dispatcher⟩
  · simp only [ScriptRun.precededBy, List.map_append, hanswers, h.answers]
  · simp only [ScriptRun.precededBy, h.notices]

/-- Results that are the same up to what is erased let a run go on or stop it alike. -/
lemma pass_or_stop_alike (hf : ∀ a, (f a).isRejected = a.isRejected)
    {result result' : Except DispatchError (Option Dispatch)}
    (h : result.map (Option.map f) = result'.map (Option.map f)) :
    (∃ answer answer', result = .ok answer ∧ result' = .ok answer'
        ∧ (∀ a ∈ answer, a.isRejected = false) ∧ (∀ a ∈ answer', a.isRejected = false)
        ∧ answer.toList.map f = answer'.toList.map f)
      ∨ ∃ last last' failure, Stops result last failure ∧ Stops result' last' failure
        ∧ last.map f = last'.map f := by
  rcases result with e | _ | answer
  · rcases result' with e' | answer'
    · obtain rfl : e = e' := Except.error.inj h
      exact Or.inr ⟨[], [], some e, .failed e, .failed e, rfl⟩
    · simp [Except.map] at h
  · rcases result' with e' | _ | answer'
    · simp [Except.map] at h
    · exact Or.inl ⟨none, none, rfl, rfl, by simp⟩
    · simp [Except.map] at h
  · rcases result' with e' | _ | answer'
    · simp [Except.map] at h
    · simp [Except.map] at h
    · have hsame : f answer = f answer' := by simpa [Except.map] using h
      have hrejected : answer.isRejected = answer'.isRejected := by rw [← hf, hsame, hf]
      cases hanswer : answer'.isRejected with
      | true =>
          exact Or.inr ⟨[answer], [answer'], none, .rejected (hrejected.trans hanswer),
            .rejected hanswer, by simp [hsame]⟩
      | false =>
          exact Or.inl ⟨some answer, some answer', rfl, rfl, by simp [hrejected, hanswer],
            by simp [hanswer], by simp [hsame]⟩

end Dispatcher

namespace IsSimulation

open Dispatcher

lemma executeLine (hR : IsSimulation f R) (h : R d d') (line : String) :
    (d.executeLine line).Alike (Option.map f) R (d'.executeLine line) := by
  by_cases hsilent : Text.trimmed line = "" ∨ (Text.trimmed line).toList.head? = some '#'
  · simp only [Dispatcher.executeLine, if_pos hsilent]
    exact ⟨rfl, rfl, h⟩
  · simp only [Dispatcher.executeLine, if_neg hsilent]
    cases Text.quotedWords? (Text.trimmed line) with
    | none => exact ⟨rfl, rfl, h⟩
    | some tokens =>
        have hsome : ∀ result : Except DispatchError Dispatch,
            (result.map some).map (Option.map f) = (result.map f).map some := by
          intro result
          cases result <;> rfl
        have hexecute := hR.execute h tokens
        exact ⟨by simp only [hsome, hexecute.result], hexecute.notices, hexecute.dispatcher⟩

/-- **Runs side by side** run the same commands with the same answers and stop at the same place.  The
induction is on the lines. -/
theorem runLines (hR : IsSimulation f R) (h : R d d') (lines : List String) :
    (d.runLines lines).Alike f R (d'.runLines lines) := by
  induction lines generalizing d d' with
  | nil =>
      rw [Dispatcher.runLines, Dispatcher.runLines]
      exact ⟨rfl, rfl, rfl, h⟩
  | cons line lines ih =>
      have hline := hR.executeLine h line
      rcases pass_or_stop_alike hR.isRejected hline.result with
        ⟨answer, answer', hr, hr', hanswer, hanswer', hsame⟩
        | ⟨last, last', failure, hstop, hstop', hsame⟩
      · rw [runLines_cons_of_pass hr hanswer, runLines_cons_of_pass hr' hanswer', hline.notices]
        exact (ih hline.dispatcher).precededBy hsame _
      · rw [runLines_cons_of_stop hstop, runLines_cons_of_stop hstop', hline.notices]
        refine ⟨hsame, rfl, rfl, ?_⟩
        dsimp only
        exact hline.dispatcher

lemma executeScript (hR : IsSimulation f R) (h : R d d') (script : String) :
    (d.executeScript script).Alike (List.map f) R (d'.executeScript script) := by
  have hrun : (d.runScript script).Alike f R (d'.runScript script) :=
    hR.runLines h (splitScript script)
  rw [executeScript_eq_runScript, executeScript_eq_runScript]
  refine ⟨?_, hrun.notices, hrun.dispatcher⟩
  simp only [ScriptRun.step, hrun.failure]
  cases (d'.runScript script).failure with
  | none => exact congrArg Except.ok hrun.answers
  | some e => rfl

/-! ## Inputs -/

lemma respond (hR : IsSimulation f R) (h : R d d') (input : Input) :
    (d.respond input).Alike (List.map f) R (d'.respond input) := by
  rw [Dispatcher.respond.eq_def, Dispatcher.respond.eq_def]
  cases input with
  | line text =>
      have hlist : ∀ result : Except DispatchError (Option Dispatch),
          (result.map Option.toList).map (List.map f)
            = (result.map (Option.map f)).map Option.toList := by
        rintro (e | _ | answer) <;> rfl
      have hline := hR.executeLine h text
      dsimp only
      rw [hline.notices]
      refine ⟨by simp only [hlist, hline.result], rfl, ?_⟩
      dsimp only
      exact hline.dispatcher
  | script text => exact hR.executeScript h text

/-- **Inputs side by side** are answered alike, one after the other. -/
theorem responses (hR : IsSimulation f R) (h : R d d') (inputs : List Input) :
    (d.responses inputs).map (Except.map (List.map f))
      = (d'.responses inputs).map (Except.map (List.map f)) := by
  induction inputs generalizing d d' with
  | nil => rfl
  | cons input inputs ih =>
      have hinput := hR.respond h input
      rw [Dispatcher.responses, Dispatcher.responses, List.map_cons, List.map_cons, hinput.result,
        ih hinput.dispatcher]

end IsSimulation

end Optline
