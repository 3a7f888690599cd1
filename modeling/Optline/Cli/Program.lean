import Optline.Cli.Request
import Optline.Cli.Verbosity
import Optline.Cli.Wire
import Optline.Console
import Optline.Display.Layout
import Optline.Session

/-!
# The program

What the program does with a command line, as a function of all that it sees: its arguments, the
files, the input, two variables of the environment, and what comes from outside while commands run.

* `Surroundings`, `Finished` — what a run sees, and what it leaves behind.
* `runRequest`, `checkRequest`, `helpText`, `listRequest`, `shellConsole` — the subcommands.
* `Plan`, `Plan.ofArguments` — what the arguments lead to before any input is read.
* `program` — the whole.
-/

namespace Optline.Cli

/-! ## What a run sees and leaves behind -/

/-- What a run of the program sees. -/
structure Surroundings where
  files : Files
  input : ByteArray
  /-- The width of the terminal, as the environment tells it. -/
  columns : Option String := none
  /-- The path of a manifest, as the environment tells it. -/
  manifest : Option String := none
  /-- What comes from outside, for each run of a handler. -/
  observe : Nat → Observation := fun _ => {}

/-- What a run of the program leaves behind. -/
structure Finished where
  exit : Nat
  output : String := ""
  diagnostics : String := ""
  notices : List Notice := []
  /-- How long its commands have waited, in milliseconds. -/
  waited : Nat := 0
  deriving DecidableEq, Repr

/-- A run that shows something and then succeeds or fails. -/
def Finished.of (output : String) : Option Fault → Finished
  | none => { exit := 0, output }
  | some fault => { exit := 1, output, diagnostics := "Error: " ++ fault.paragraph ++ "\n" }

/-- A run that shows something and ends well, or fails at once. -/
def Finished.ofExcept : Except Fault String → Finished
  | .ok output => .of output none
  | .error fault => .of "" (some fault)

/-! ## Style -/

/-- The number of columns that a text stands for: digits, perhaps behind a plus. -/
def columnCount? (text : String) : Option Nat :=
  let ds :=
    match text.toList with
    | '+' :: ds => ds
    | ds => ds
  if ds ≠ [] ∧ ds.all Char.isDigit then (some (Decimal.digitsValue ds)).filter isWord else none

/-- The style of an output that is no terminal: plain, and as wide as the environment tells within
reason. -/
def plainStyle (columns : Option String) : Display.Style where
  width :=
    match columns.bind columnCount? with
    | some n => max 40 (min n 220)
    | none => 100

/-! ## Running command lines -/

/-- The command lines of a request and then those of its file. -/
def scriptOf (s : Surroundings) (lines : List String) (file : Option String) :
    Except Fault String :=
  let script := "\n".intercalate lines
  match file with
  | none => .ok script
  | some path =>
    match s.files.text path with
    | .ok body => .ok (script ++ "\n" ++ body)
    | .error e => .error (Fault.within ⟨e.message, []⟩ ("failed to read script: " ++ path))

/-- Whether a run of a script ended with a rejection. -/
def wasRejected (run : Dispatcher.ScriptRun) : Bool :=
  run.answers.getLast?.any (·.isRejected)

/-- The answers of a script in JSON. -/
def runJson (run : Dispatcher.ScriptRun) : Json :=
  let status :=
    match run.failure with
    | some _ => "error"
    | none => if wasRejected run then "rejected" else "ok"
  .object (run.failure.toList.map (fun e => ("error", .string e.fault.text))
    ++ [("results", .array (run.answers.map (·.toJson))), ("status", .string status)])

/-- The answers of a script as people see them, with a failure in a box below them. -/
def runText (run : Dispatcher.ScriptRun) (style : Display.Style) : String :=
  let shown := run.answers.map fun answer =>
    let text := Display.answerText answer style
    if text = "" then "" else text ++ "\n"
  let failure :=
    match run.failure with
    | none => ""
    | some e =>
      Display.banner (Display.marked .reject "Command Error" style)
        (some (Display.color .error e.fault.text style)) style ++ "\n"
  String.join shown ++ failure

/-- Why a run of a script does not end well. -/
def runFault (run : Dispatcher.ScriptRun) : Option Fault :=
  match run.failure with
  | some e => some e.fault
  | none => if wasRejected run then some ⟨"command rejected", []⟩ else none

/-- Runs command lines. -/
def runRequest (s : Surroundings) (session : Session) (lines : List String)
    (file : Option String) (json : Bool) : Finished :=
  match scriptOf s lines file with
  | .error fault => .of "" (some fault)
  | .ok script =>
    if Text.isBlankText script then
      .of "" (some ⟨"nothing to run: pass at least one LINE or --file", []⟩)
    else
      let run := (session.dispatcher s.observe).runScript script
      let shown :=
        if json then (runJson run).pretty ++ "\n" else runText run (plainStyle s.columns)
      { Finished.of shown (runFault run) with
        notices := run.notices
        waited := run.dispatcher.waited }

/-! ## Checking an invocation -/

/-- What a check of an invocation finds. -/
structure Check where
  command : String
  outcome : Outcome
  /-- The help that goes with the outcome. -/
  help : Option String
  deriving DecidableEq, Repr

/-- Checks an invocation without running it. -/
def checkInvocation (registry : Registry Handler) (tokens : List String) : Except Fault Check :=
  match tokens with
  | [] => .error ⟨"missing command name", []⟩
  | name :: _ =>
    match registry.lookup? name with
    | none => .error (unknownCommandFault name)
    | some e =>
      let outcome := validate e.spec tokens
      .ok ⟨name, outcome, if outcome.permits then none else some (outcome.helpFor e.spec)⟩

/-- A check in JSON. -/
def Check.toJson (c : Check) : Json :=
  .object [("command", .string c.command), ("help", .ofText c.help),
    ("message", .ofText c.outcome.message?), ("outcome", c.outcome.toJson)]

/-- A check as people see it. -/
def Check.text (c : Check) (style : Display.Style) : String :=
  let verdict :=
    match c.outcome with
    | .ok => Display.color .success (Display.marked .ok (c.command ++ ": ok") style) style ++ "\n"
    | .helpRequested _ => ""
    | outcome => Display.color .error (Display.marked .reject outcome.text style) style ++ "\n"
  verdict ++ (match c.help with
    | some help => help ++ "\n"
    | none => "")

/-- Why a check does not end well. -/
def Check.fault (c : Check) : Option Fault :=
  if c.outcome.isRejection then some ⟨c.outcome.text, []⟩ else none

/-- Checks an invocation. -/
def checkRequest (s : Surroundings) (session : Session) (tokens : List String) (json : Bool) :
    Finished :=
  match checkInvocation session.registry tokens with
  | .error fault => .of "" (some fault)
  | .ok check =>
    .of (if json then check.toJson.pretty ++ "\n" else check.text (plainStyle s.columns))
      check.fault

/-! ## Help -/

/-- The flag that a request for help about an option means. -/
def requestedFlag (option : String) : String :=
  if option.toList.head? = some '-' then option else "-" ++ option

/-- A text that ends with a newline. -/
def withNewline (text : String) : String :=
  if text.toList.getLast? = some '\n' then text else text ++ "\n"

/-- The help of all commands, of one, or of one of its options. -/
def helpText (registry : Registry Handler) (command option : Option String) :
    Except Fault String :=
  match command with
  | none => .ok (withNewline registry.helpIndex)
  | some name =>
    match registry.lookup? name with
    | none => .error (unknownCommandFault name)
    | some e =>
      match option.map requestedFlag with
      | none => .ok (e.spec.help none)
      | some flag =>
        if (e.spec.option? flag).isSome then .ok (e.spec.help (some flag))
        else .error ⟨"command '" ++ name ++ "' has no option " ++ flag, []⟩

/-! ## Listing -/

/-- A text, or a dash in the place of none. -/
def orDash (text : String) : String :=
  if text = "" then "-" else text

/-- The rows of the table of commands. -/
def listRows (specs : List CommandSpec) (all : Bool) : List (List String) :=
  specs.zipIdx.map fun (spec, i) =>
    [toString (i + 1), spec.name, orDash spec.argumentPattern,
      orDash (Text.unwords ((spec.listed all).map (·.flag)))]

/-- The commands in JSON. -/
def listJson (session : Session) (all : Bool) : Json :=
  let commands := session.registry.specs.map (·.toJson all)
  .object [("commands", .array commands), ("count", .ofNat commands.length),
    ("manifest", .ofText session.source), ("status", .string "ok")]

/-- The commands as people see them. -/
def listText (session : Session) (all : Bool) (style : Display.Style) : String :=
  let specs := session.registry.specs
  let title := Display.marked .list ("Commands (" ++ toString specs.length ++ ")") style
  let subtitle :=
    match session.source with
    | some path => "manifest=" ++ path
    | none => "built-ins only"
  Display.banner title (some subtitle) style ++ "\n"
    ++ Display.table ["#", "NAME", "ARGUMENTS", "OPTIONS"] (listRows specs all) style ++ "\n\n"
    ++ Display.Pictogram.help.text style ++ " "
    ++ Display.color .dim "Use `cmdspec help <command>` for the full option listing" style ++ "\n"

/-- Lists the commands. -/
def listRequest (s : Surroundings) (session : Session) (json all : Bool) : Finished :=
  .of (if json then (listJson session all).pretty ++ "\n"
    else listText session all (plainStyle s.columns)) none

/-! ## The console -/

/-- The console that a request asks for. -/
def shellConsole (s : Surroundings) (prompt : String) : Console where
  prompt := prompt
  style := plainStyle s.columns

/-- What a console leaves behind. -/
def Finished.ofConsole (run : ConsoleRun) : Finished :=
  { Finished.of run.output run.fault with
    notices := run.notices
    waited := run.state.dispatcher.waited }

/-! ## Plans -/

/-- What is left to be done once the arguments have been read. -/
inductive Work where
  /-- Nothing. -/
  | done (finished : Finished)
  /-- A console is to be run. -/
  | converse (console : Console) (start : Dispatcher)

/-- What the arguments lead to before any input is read. -/
structure Plan where
  work : Work
  /-- What has arisen so far. -/
  notices : List Notice := []
  verbosity : Verbosity := .info

/-- Does what is asked for within a session, as far as that needs no input. -/
def perform (s : Surroundings) (session : Session) : Request → Work
  | .run lines file json => .done (runRequest s session lines file json)
  | .check tokens json => .done (checkRequest s session tokens json)
  | .help command option => .done (.ofExcept (helpText session.registry command option))
  | .list json all => .done (listRequest s session json all)
  | .shell prompt => .converse (shellConsole s prompt) (session.dispatcher s.observe)

/-- The name of the program, or of one of its subcommands. -/
def programName : Option String → String
  | none => "cmdspec"
  | some subcommand => "cmdspec-" ++ subcommand

/-- The version of the program. -/
def programVersion : String := "0.1.0"

/-- How the program is used. -/
def usage : Option String → String
  | none =>
    "Usage: cmdspec [OPTIONS] <COMMAND>\n\nCommands:\n"
      ++ String.join (subcommandLevels.map fun (name, _) => "  " ++ name ++ "\n")
  | some subcommand => "Usage: cmdspec " ++ subcommand ++ " [OPTIONS]\n"

/-- What the arguments of the program lead to. -/
def Plan.ofArguments (s : Surroundings) (args : List String) : Plan :=
  match CommandLine.parse args with
  | .misuse =>
    { work := .done
        { exit := 2, diagnostics := "error: the arguments make no sense\n\n" ++ usage none } }
  | .help subcommand => { work := .done { exit := 0, output := usage subcommand } }
  | .version subcommand =>
    { work := .done
        { exit := 0, output := programName subcommand ++ " " ++ programVersion ++ "\n" } }
  | .request globals wish =>
    let verbosity := Verbosity.of globals.verbose globals.quiet
    match Session.openAt s.files (Session.manifestPath globals.manifest s.manifest)
        globals.noProfile with
    | .error e => { work := .done (.of "" (some e.fault)), verbosity }
    | .ok session => { work := perform s session wish, notices := session.notices, verbosity }

/-- What a plan leaves behind that is given its input as a whole. -/
def Plan.finish (p : Plan) (input : ByteArray) : Finished :=
  let finished :=
    match p.work with
    | .done finished => finished
    | .converse console start => .ofConsole (console.run start input)
  { finished with notices := p.verbosity.shown (p.notices ++ finished.notices) }

/-! ## The whole -/

/-- What the program does with its arguments. -/
def program (s : Surroundings) (args : List String) : Finished :=
  (Plan.ofArguments s args).finish s.input

end Optline.Cli
