import Optline.Proofs.Composition
import Optline.Proofs.Execution
import Optline.Proofs.SideBySide

/-!
# What readings change

What is read off clocks and memory while commands run comes out in the reports of the answers and
nowhere else: no command is run or left out because of it, and nothing that a command finds or
leaves behind depends on it.

* `unread` — a dispatcher without what it reads and has read.
* `unreported` — an answer without its report, and the same for steps and runs.
* `isSimulation_unread` — dispatchers that differ in their readings do the same with tokens.
* **`runLines_unreported`** — and with any number of lines.
-/

namespace Optline

/-! ## Without reports -/

namespace Dispatch

/-- The report that an answer carries. -/
def report? : Dispatch → Option Report
  | .completed _ _ report => report
  | .help _ _ => none
  | .rejected _ _ _ _ => none

/-- An answer without its report. -/
def unreported : Dispatch → Dispatch
  | .completed command output _ => .completed command output none
  | .help command text => .help command text
  | .rejected command outcome message below => .rejected command outcome message below

@[simp] lemma isRejected_unreported (a : Dispatch) : a.unreported.isRejected = a.isRejected := by
  cases a <;> rfl

lemma unreported_eq_self {a : Dispatch} (h : a.report? = none) : a.unreported = a := by
  cases a with
  | completed command output report =>
      obtain rfl : report = none := h
      rfl
  | help command text => rfl
  | rejected command outcome message below => rfl

lemma map_unreported_eq_self {answers : List Dispatch} (h : ∀ a ∈ answers, a.report? = none) :
    answers.map unreported = answers := by
  rw [List.map_congr_left fun a ha => unreported_eq_self (h a ha), List.map_id']

end Dispatch

/-! ## Without readings -/

namespace Dispatcher

/-- A dispatcher without what it reads and has read. -/
def unread (d : Dispatcher) : Dispatcher :=
  { d with usage := {}, observe := fun _ => {} }

@[simp] lemma settings_unread (d : Dispatcher) : d.unread.settings = d.settings := rfl

/-- A run without readings and reports. -/
def ScriptRun.unreported (run : ScriptRun) : ScriptRun :=
  { run with answers := run.answers.map Dispatch.unreported, dispatcher := run.dispatcher.unread }

end Dispatcher

/-- A step without readings, and its answer as `f` leaves it. -/
def Step.unreported {α : Type} (f : α → α) (step : Step α) : Step α :=
  ⟨step.result.map f, step.dispatcher.unread, step.notices⟩

namespace Dispatcher

variable {d d' : Dispatcher}

/-- The measuring of a command does not touch the rest of what it does. -/
lemma run_unreported (h : d.unread = d'.unread) (e : Entry Handler) (tokens : List String) :
    (d.run e tokens).unreported Dispatch.unreported
      = (d'.run e tokens).unreported Dispatch.unreported := by
  have hregistry : d.registry = d'.registry := congrArg (·.registry) h
  have hsettings : d.settings = d'.settings := congrArg (·.settings) h
  have hruns : d.runs = d'.runs := congrArg (·.runs) h
  have hwaited : d.waited = d'.waited := congrArg (·.waited) h
  simp only [run, Step.unreported, unread, hregistry, hsettings, hruns, hwaited]
  cases (e.handler ⟨tokens, e.spec, d'.registry.specs, d'.settings⟩).result with
  | ok output => simp only [Except.map, Dispatch.unreported]
  | error fault => simp only [Except.map]

/-- Dispatchers that differ in their readings can be run side by side. -/
theorem isSimulation_unread :
    IsSimulation Dispatch.unreported fun d d' => d.unread = d'.unread := by
  refine isSimulation_of_run Dispatch.isRejected_unreported (fun h => congrArg (·.registry) h) ?_
  intro d d' name rest e h _
  have hrun := run_unreported h e (name :: rest)
  rw [Step.unreported, Step.unreported, Step.mk.injEq] at hrun
  exact ⟨hrun.1, hrun.2.2, hrun.2.1⟩

/-! ## Runs -/

lemma isComplete_unreported (run : ScriptRun) : run.unreported.isComplete = run.isComplete := by
  simp [ScriptRun.isComplete, ScriptRun.unreported, Function.comp_def]

/-- **What is read changes nothing but reports.**  Runs from dispatchers that differ in what they
read run the same commands with the same results, stop at the same place, and leave the same
settings. -/
theorem runLines_unreported (h : d.unread = d'.unread) (lines : List String) :
    (d.runLines lines).unreported = (d'.runLines lines).unreported := by
  have hruns := isSimulation_unread.runLines h lines
  simp only [ScriptRun.unreported, hruns.answers, hruns.failure, hruns.notices, hruns.dispatcher]

end Dispatcher

end Optline
