import Optline.Cli.Program

/-!
# The executable

Collects what the program sees, lets it run, and passes on what it leaves behind.  A console is run
line by line, so that each line is answered before the next one is typed.
-/

namespace Optline.Cli

/-! ## What the program sees -/

/-- Why the system could not read a file. -/
def fileErrorOf : IO.Error → FileError
  | .noFileOrDirectory .. => .missing
  | .inappropriateType _ 20 _ => .notDirectory
  | .inappropriateType .. => .isDirectory
  | .invalidArgument _ 36 _ => .nameTooLong
  | e => .other (toString e)

/-- A file as the program sees it. -/
def readFile (path : String) : IO (Except FileError ByteArray) := do
  if path.toList.contains '\x00' then pure (.error .zeroInPath)
  else
    try
      let bytes ← IO.FS.readBinFile path
      pure (.ok bytes)
    catch e => pure (.error (fileErrorOf e))

/-- The files that a command line names. -/
def namedFiles (args : List String) (fromEnvironment : Option String) : List String :=
  match CommandLine.parse args with
  | .request globals wish =>
    let manifest := (Session.manifestPath globals.manifest fromEnvironment).toList
    match wish with
    | .run _ (some script) _ => manifest ++ [script]
    | _ => manifest
  | _ => []

/-- The memory in use, in KiB, where the system tells it. -/
def residentKb : IO (Option Nat) := do
  match ← readFile "/proc/self/statm" with
  | .error _ => pure none
  | .ok bytes =>
    let fields := (String.fromUTF8? bytes).map Text.words
    pure ((fields.bind (·[1]?)).bind String.toNat? |>.map (· * 4))

/-- All that the program sees besides its input. -/
def look (args : List String) : IO Surroundings := do
  let manifest ← IO.getEnv "CMDSPEC_MANIFEST"
  let columns ← IO.getEnv "COLUMNS"
  let contents ← (namedFiles args manifest).mapM fun path => do
    let content ← readFile path
    pure (path, content)
  let resident ← residentKb
  pure
    { files := fun path => (contents.lookup path).getD (.error .missing)
      input := ByteArray.empty
      columns
      manifest
      observe := fun _ => { residentAtBegin := resident, residentAtEnd := resident } }

/-! ## What the program leaves behind -/

/-- The milliseconds that one call can wait. -/
def longestWait : Nat := 1000000000

/-- Waits for a number of milliseconds. -/
def wait (ms : Nat) : IO Unit := do
  for _ in [0 : ms / longestWait] do
    IO.sleep (.ofNat longestWait)
  IO.sleep (.ofNat (ms % longestWait))

/-- Passes notices on. -/
def warn (notices : List Notice) : IO Unit :=
  notices.forM fun notice => IO.eprintln ("WARN " ++ notice.line)

/-- Shows a text at once. -/
def put (text : String) : IO Unit := do
  let stdout ← IO.getStdout
  stdout.putStr text
  stdout.flush

/-- Passes on what a run of the program leaves behind. -/
def report (finished : Finished) : IO UInt32 := do
  warn finished.notices
  wait finished.waited
  put finished.output
  IO.eprint finished.diagnostics
  pure (.ofNat finished.exit)

/-! ## Consoles -/

/-- The next line of a stream with its break, behind the bytes read so far; nothing at the end. -/
partial def readLine (stream : IO.FS.Stream) (line : ByteArray) : IO ByteArray := do
  let more ← stream.read 1
  if more.isEmpty then pure line
  else if more.toList = [10] then pure (line ++ more)
  else readLine stream (line ++ more)

/-- Runs a console line by line. -/
partial def converse (console : Console) (verbosity : Verbosity) (stdin : IO.FS.Stream)
    (state : ConsoleState) : IO UInt32 := do
  put console.prompt
  match inputLines (← readLine stdin ByteArray.empty) with
  | [] => pure 0
  | line :: _ =>
    match Console.turn console.style state line with
    | .leave => pure 0
    | .fail fault => report (.of "" (some fault))
    | .next shown next notices =>
      warn (verbosity.shown notices)
      wait (next.dispatcher.waited - state.dispatcher.waited)
      put shown
      converse console verbosity stdin next

end Optline.Cli

open Optline.Cli in
/-- Runs the program. -/
def main (args : List String) : IO UInt32 := do
  let plan := Plan.ofArguments (← look args) args
  match plan.work with
  | .done _ => report (plan.finish ByteArray.empty)
  | .converse console start =>
    warn (plan.verbosity.shown plan.notices)
    converse console plan.verbosity (← IO.getStdin) { dispatcher := start }
