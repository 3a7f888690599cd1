import Optline.Display.Answer
import Optline.Manifest

/-!
# The console

The console reads command lines until its input ends or a line says `exit` or `quit`.  Unlike a
script, it does not stop at a rejection or a failure: it shows what went wrong and reads on.  What
a command changes in the settings stays changed.

* `inputLines` — the lines of an input, as far as they are text.
* `Console`, `ConsoleState` — what a console works with, and what it carries from line to line.
* `Console.turn` — what it does with one line.
* `Console.run` — a whole input.

All that a console does is in `turn`, so one that waits for a person to type its lines and one that
is given an input as a whole differ in nothing but where the next line comes from.
-/

namespace Optline

/-! ## Input -/

/-- A line without the carriage return that belongs to its break. -/
def dropReturn (line : List UInt8) : List UInt8 :=
  if line.getLast? = some 13 then line.dropLast else line

/-- The lines of bytes: the pieces that a newline ends, and what stands after the last newline
unless that is nothing. -/
def byteLines (bs : List UInt8) : List (List UInt8) :=
  let pieces := bs.splitOn 10
  pieces.dropLast.map dropReturn ++ pieces.getLast?.toList.filter (!·.isEmpty)

/-- The lines of an input; nothing for one that is no text. -/
def inputLines (input : ByteArray) : List (Option String) :=
  (byteLines input.toList).map fun bs => String.fromUTF8? ⟨bs.toArray⟩

/-! ## Lines -/

/-- How a console looks. -/
structure Console where
  /-- What is shown before each line; nothing if it is empty. -/
  prompt : String := ""
  style : Display.Style := {}

/-- How much a console has done. -/
structure ConsoleStats where
  /-- Lines that were neither blank nor the last word. -/
  lines : Nat := 0
  /-- Rejections and failures. -/
  failures : Nat := 0
  deriving DecidableEq, Repr

/-- One more line has been run. -/
def ConsoleStats.count (s : ConsoleStats) (failures : Nat) : ConsoleStats :=
  ⟨s.lines + 1, s.failures + failures⟩

/-- What a console carries from line to line. -/
structure ConsoleState where
  dispatcher : Dispatcher
  stats : ConsoleStats := {}

/-- What one line leads to. -/
inductive Turn where
  /-- The line says farewell. -/
  | leave
  /-- The line cannot be read. -/
  | fail (fault : Fault)
  /-- Something is shown, and the next line is read. -/
  | next (shown : String) (state : ConsoleState) (notices : List Notice)

/-- What a console shows, and its state in the end. -/
structure ConsoleRun where
  output : String
  state : ConsoleState
  /-- Why it ended before its input did, unless it was told to. -/
  fault : Option Fault := none
  notices : List Notice := []

namespace Console

/-- The words that end a console. -/
def isFarewell (line : String) : Bool :=
  line == "exit" || line == "quit"

/-- An answer as the console shows it; one without text is not shown. -/
def shownAnswer (style : Display.Style) (answer : Dispatch) : String :=
  let text := Display.answerText answer style
  if text = "" then "" else Text.trimmedEnd text ++ "\n"

/-- Runs a line that is not blank. -/
def runLine (style : Display.Style) (s : ConsoleState) (line : String) : Turn :=
  let step := s.dispatcher.executeScript line
  match step.result with
  | .ok answers =>
    .next (String.join (answers.map (shownAnswer style)))
      ⟨step.dispatcher, s.stats.count (answers.countP (·.isRejected))⟩ step.notices
  | .error e =>
    .next (Display.color .error e.fault.text style ++ "\n") ⟨step.dispatcher, s.stats.count 1⟩
      step.notices

/-- Why a console can end early. -/
def inputFault : Fault :=
  Fault.within ⟨FileError.notText.message, []⟩ "failed to read from stdin"

/-- What a console does with a line, which may be no text. -/
def turn (style : Display.Style) (s : ConsoleState) : Option String → Turn
  | none => .fail inputFault
  | some line =>
    let trimmed := Text.trimmed line
    if isFarewell trimmed then .leave
    else if trimmed = "" then .next "" s []
    else runLine style s trimmed

/-- Runs lines one after the other. -/
def runLines (c : Console) (s : ConsoleState) : List (Option String) → ConsoleRun
  | [] => { output := c.prompt, state := s }
  | line :: rest =>
    match turn c.style s line with
    | .leave => { output := c.prompt, state := s }
    | .fail fault => { output := c.prompt, state := s, fault := some fault }
    | .next shown s' notices =>
      let tail := c.runLines s' rest
      { tail with output := c.prompt ++ shown ++ tail.output, notices := notices ++ tail.notices }

/-- Runs an input. -/
def run (c : Console) (d : Dispatcher) (input : ByteArray) : ConsoleRun :=
  c.runLines { dispatcher := d } (inputLines input)

end Console

end Optline
