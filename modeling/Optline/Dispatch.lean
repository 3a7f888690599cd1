import Optline.Fault
import Optline.Profile.Report
import Optline.Profile.Usage
import Optline.Registry
import Optline.Script
import Optline.Text.Quoted
import Optline.Validation

/-!
# Dispatch

A command runs only after its invocation has passed validation; otherwise the answer is help or a
rejection.  Commands run one at a time.  A script stops at the first command that is rejected or
fails.

A handler is a function from what it may look at to what it leaves behind.  Everything that comes
from outside while a handler runs (clocks, memory readings, the samples of a background thread) is
an `Observation`; a dispatcher has one for each run of a handler, and where a command is measured
this is all that its report depends on.

* `Settings`, `Call`, `Reply`, `Handler` — the contract of handlers.
* `Dispatch` — the answer to an invocation; `DispatchError` — why there is none.
* `Dispatcher` — the state between invocations.
* `Dispatcher.execute`, `executeLine`, `executeScript` — tokens, a line, a script.
* `Dispatcher.runScript` — a script whose results are kept even if it fails.
-/

namespace Optline

/-! ## Handlers -/

/-- What commands may change for those after them. -/
structure Settings where
  /-- Whether commands are reported. -/
  profile : Bool := true
  /-- In milliseconds; a command that takes no longer is not reported. -/
  noiseFloor : Nat := 10
  deriving DecidableEq, Repr

/-- What a handler may look at. -/
structure Call where
  /-- The invocation. -/
  tokens : List String
  /-- The specification that it has passed. -/
  spec : CommandSpec
  /-- The specifications of all registered commands. -/
  commands : List CommandSpec
  /-- The settings as the command finds them. -/
  settings : Settings

/-- What a handler leaves behind. -/
structure Reply where
  /-- The output, or why there is none. -/
  result : Except Fault String
  /-- The settings as the command leaves them. -/
  settings : Settings
  /-- How long the command waited, in milliseconds. -/
  pause : Nat := 0

/-- The body of a command. -/
abbrev Handler := Call → Reply

/-! ## Answers -/

/-- The answer to an invocation. -/
inductive Dispatch where
  /-- The command ran. -/
  | completed (command output : String) (profile : Option Report)
  /-- Help was asked for. -/
  | help (command text : String)
  /-- The invocation was turned away. -/
  | rejected (command : String) (outcome : Outcome) (message help : String)

/-- Whether an invocation was turned away. -/
def Dispatch.isRejected : Dispatch → Bool
  | .rejected .. => true
  | _ => false

/-- Why an invocation has no answer. -/
inductive DispatchError where
  /-- It has no tokens. -/
  | emptyInvocation
  /-- No command has this name. -/
  | unknownCommand (name : String)
  /-- A quote of the line is left open. -/
  | openQuote (line : String)
  /-- The command ran and failed. -/
  | failed (tokens : List String) (fault : Fault)
  deriving DecidableEq, Repr

/-- The report of a command line that was not understood. -/
def unknownCommandFault (name : String) : Fault :=
  ⟨"invalid command name \"" ++ name ++ "\"", []⟩

/-- A dispatch error as it is reported. -/
def DispatchError.fault : DispatchError → Fault
  | .emptyInvocation => ⟨"empty invocation", []⟩
  | .unknownCommand name => unknownCommandFault name
  | .openQuote line =>
    Fault.within ⟨"missing closing quote", []⟩ ("failed to tokenize command line: " ++ line)
  | .failed tokens fault => fault.within ("command failed: " ++ fullName tokens)

/-! ## The dispatcher -/

/-- What comes from outside while a handler runs.  Samples are memory readings that arrive by
themselves at some moment; readings are in KiB, times in nanoseconds. -/
structure Observation where
  /-- The reading as the command begins. -/
  residentAtBegin : Option Nat := none
  /-- Samples before the memory is read for the first time. -/
  samplesBefore : List Nat := []
  /-- Samples while the handler runs. -/
  samplesDuring : List Nat := []
  /-- Samples between the reading of the two peaks. -/
  samplesBetweenPeaks : List Nat := []
  /-- Samples between the reading of the peaks and of the current value. -/
  samplesBeforeCurrent : List Nat := []
  /-- Samples before the command ends. -/
  samplesAfter : List Nat := []
  /-- The reading as the command ends. -/
  residentAtEnd : Option Nat := none
  /-- Processor time before and after. -/
  cpuBefore : Option Nat := none
  cpuAfter : Option Nat := none
  /-- The time that the command took besides its pause. -/
  overhead : Nat := 1
  deriving Repr

/-- The state between invocations. -/
structure Dispatcher where
  registry : Registry Handler
  settings : Settings
  usage : Usage := {}
  /-- How many handlers have run. -/
  runs : Nat := 0
  /-- How long commands have waited, in milliseconds. -/
  waited : Nat := 0
  /-- What comes from outside, for each run of a handler. -/
  observe : Nat → Observation := fun _ => {}

/-- An answer, the state after it, and the notices on the way to it. -/
structure Step (α : Type) where
  result : Except DispatchError α
  dispatcher : Dispatcher
  notices : List Notice := []

/-- Measures a run of a handler: the counters go through its beginning, the samples around the
readings that a report takes, and its end. -/
def Observation.measure (o : Observation) (usage : Usage) (pause : Nat) : Measurement × Usage :=
  let atStart := (usage.beginCommand o.residentAtBegin).recordAll o.samplesBefore
  let atPeak := atStart.recordAll o.samplesDuring
  let atProcessPeak := atPeak.recordAll o.samplesBetweenPeaks
  let atCurrent := atProcessPeak.recordAll o.samplesBeforeCurrent
  ({ elapsed := pause * 1000000 + o.overhead
     cpuBefore := o.cpuBefore
     cpuAfter := o.cpuAfter
     memoryBefore := atStart.current
     commandPeak := atPeak.commandPeak
     processPeak := atProcessPeak.processPeak
     memoryAfter := atCurrent.current },
    (atCurrent.recordAll o.samplesAfter).endCommand o.residentAtEnd)

namespace Dispatcher

/-- Runs the handler of an entry on an invocation that has passed validation. -/
def run (d : Dispatcher) (e : Entry Handler) (tokens : List String) : Step Dispatch :=
  let name := tokens.headD ""
  let reply := e.handler ⟨tokens, e.spec, d.registry.specs, d.settings⟩
  let (measurement, usage) := (d.observe d.runs).measure d.usage reply.pause
  let report := Profiler.report? ⟨d.settings.profile, d.settings.noiseFloor⟩ name measurement
  { result :=
      match reply.result with
      | .ok output => .ok (.completed name output report)
      | .error fault => .error (.failed tokens fault)
    dispatcher := { d with
      settings := reply.settings
      usage
      runs := d.runs + 1
      waited := d.waited + reply.pause } }

/-- Validates an invocation and runs its command. -/
def execute (d : Dispatcher) (tokens : List String) : Step Dispatch :=
  match tokens with
  | [] => ⟨.error .emptyInvocation, d, []⟩
  | name :: _ =>
    match d.registry.lookup? name with
    | none => ⟨.error (.unknownCommand name), d, []⟩
    | some e =>
      match validate e.spec tokens with
      | .ok => d.run e tokens
      | .helpRequested topic => ⟨.ok (.help name (e.spec.help topic)), d, []⟩
      | outcome =>
        let message := outcome.message?.getD ""
        ⟨.ok (.rejected name outcome message (outcome.helpFor e.spec)), d,
          [.rejected (fullName tokens) message]⟩

/-- Runs one command line; a blank line or a comment has no answer. -/
def executeLine (d : Dispatcher) (line : String) : Step (Option Dispatch) :=
  let trimmed := Text.trimmed line
  if trimmed = "" ∨ trimmed.toList.head? = some '#' then ⟨.ok none, d, []⟩
  else
    match Text.quotedWords? trimmed with
    | none => ⟨.error (.openQuote trimmed), d, []⟩
    | some tokens =>
      let step := d.execute tokens
      ⟨step.result.map some, step.dispatcher, step.notices⟩

/-- Runs command lines up to the first that is rejected; one that fails takes the answers of those
before it away. -/
def executeLines (d : Dispatcher) : List String → Step (List Dispatch)
  | [] => ⟨.ok [], d, []⟩
  | line :: rest =>
    match d.executeLine line with
    | ⟨.error e, d', notices⟩ => ⟨.error e, d', notices⟩
    | ⟨.ok none, d', notices⟩ =>
      let step := d'.executeLines rest
      ⟨step.result, step.dispatcher, notices ++ step.notices⟩
    | ⟨.ok (some answer), d', notices⟩ =>
      if answer.isRejected then ⟨.ok [answer], d', notices⟩
      else
        let step := d'.executeLines rest
        ⟨step.result.map (answer :: ·), step.dispatcher, notices ++ step.notices⟩

/-- Runs a script up to the first command that is rejected or fails. -/
def executeScript (d : Dispatcher) (script : String) : Step (List Dispatch) :=
  d.executeLines (splitScript script)

/-! ## Scripts whose results are kept -/

/-- The answers of a script up to its end, its first rejection or its first failure. -/
structure ScriptRun where
  answers : List Dispatch
  /-- The failure that ended the script. -/
  failure : Option DispatchError
  dispatcher : Dispatcher
  notices : List Notice := []

/-- Runs command lines up to the first that is rejected or fails. -/
def runLines (d : Dispatcher) : List String → ScriptRun
  | [] => ⟨[], none, d, []⟩
  | line :: rest =>
    let step := d.executeLine line
    match step.result with
    | .error e => ⟨[], some e, step.dispatcher, step.notices⟩
    | .ok none =>
      let tail := step.dispatcher.runLines rest
      { tail with notices := step.notices ++ tail.notices }
    | .ok (some answer) =>
      if answer.isRejected then ⟨[answer], none, step.dispatcher, step.notices⟩
      else
        let tail := step.dispatcher.runLines rest
        { tail with answers := answer :: tail.answers, notices := step.notices ++ tail.notices }

/-- Runs a script and keeps the answers that precede a failure. -/
def runScript (d : Dispatcher) (script : String) : ScriptRun :=
  d.runLines (splitScript script)

end Dispatcher

end Optline
