import Optline.Cli.Grammar

/-!
# Requests

What a command line asks the program to do.

* `Request`, `Globals` — a subcommand with its arguments, and what holds for all of them.
* `CommandLine` — what the arguments of the program come to.
* `CommandLine.parse` — the reading of the arguments.

The options that hold for all subcommands may stand before or behind the subcommand; one that
stands behind it goes before one of the same name in front of it.
-/

namespace Optline.Cli

/-! ## Requests -/

/-- What the program is asked to do. -/
inductive Request where
  /-- Run command lines and perhaps a script. -/
  | run (lines : List String) (file : Option String) (json : Bool)
  /-- Validate one invocation without running it. -/
  | check (tokens : List String) (json : Bool)
  /-- Show help. -/
  | help (command option : Option String)
  /-- List the commands. -/
  | list (json all : Bool)
  /-- Read command lines from the input. -/
  | shell (prompt : String)
  deriving DecidableEq, Repr

/-- What holds for all subcommands. -/
structure Globals where
  verbose : Nat := 0
  quiet : Bool := false
  manifest : Option String := none
  noProfile : Bool := false
  deriving DecidableEq, Repr

/-- What the arguments of the program come to. -/
inductive CommandLine where
  | request (globals : Globals) (request : Request)
  /-- Help is asked for, perhaps about a subcommand. -/
  | help (subcommand : Option String)
  /-- The version is asked for, perhaps of a subcommand. -/
  | version (subcommand : Option String)
  /-- The arguments make no sense. -/
  | misuse
  deriving DecidableEq, Repr

/-! ## The levels -/

/-- The options that every level accepts. -/
def globalOptions : List OptionRule :=
  [{ long := "verbose", short := some 'v', effect := .count },
    { long := "quiet", short := some 'q' },
    { long := "manifest", short := some 'm', effect := .value true },
    { long := "no-profile" },
    { long := "help", short := some 'h', effect := .help },
    { long := "version", short := some 'V', effect := .version }]

/-- The option that asks for JSON. -/
def jsonOption : OptionRule :=
  { long := "json" }

/-- What each subcommand accepts. -/
def subcommandLevels : List (String × Level) :=
  [("run",
      { options := { long := "file", short := some 'f', effect := .value false }
          :: jsonOption :: globalOptions
        words := [{ name := "LINE", isRepeated := true }] }),
    ("check",
      { options := jsonOption :: globalOptions
        words := [{ name := "TOKENS", isRequired := true, mayBeginWithMinus := true,
                    isRepeated := true, endsOptions := true }] }),
    ("help",
      { options := globalOptions
        words := [{ name := "COMMAND" }, { name := "OPTION", mayBeginWithMinus := true }] }),
    ("list",
      { options := jsonOption :: { long := "all", short := some 'a' } :: globalOptions }),
    ("shell",
      { options := { long := "prompt", effect := .value true } :: globalOptions })]

/-- What the program accepts before the subcommand. -/
def topLevel : Level where
  options := globalOptions
  subcommands := subcommandLevels.map (·.1)

/-! ## From matches to requests -/

namespace Matches

/-- Whether an option is on. -/
def isOn (m : Matches) (name : String) : Bool :=
  m.switches.contains name

/-- The value of an option. -/
def value? (m : Matches) (name : String) : Option String :=
  m.values.lookup name

end Matches

/-- What is asked for by what was given before and behind the subcommand. -/
def Globals.of (outer inner : Matches) : Globals where
  verbose :=
    if inner.isOn "verbose" then inner.switches.count "verbose" else outer.switches.count "verbose"
  quiet := outer.isOn "quiet" || inner.isOn "quiet"
  manifest := inner.value? "manifest" <|> outer.value? "manifest"
  noProfile := outer.isOn "no-profile" || inner.isOn "no-profile"

/-- What is shown before each line unless something else is asked for. -/
def defaultPrompt : String := "% "

/-- The request that a subcommand makes with what was given behind it. -/
def Request.of? (subcommand : String) (m : Matches) : Option Request :=
  match subcommand with
  | "run" => some (.run m.words (m.value? "file") (m.isOn "json"))
  | "check" => some (.check m.words (m.isOn "json"))
  | "help" => some (.help m.words[0]? m.words[1]?)
  | "list" => some (.list (m.isOn "json") (m.isOn "all"))
  | "shell" => some (.shell ((m.value? "prompt").getD defaultPrompt))
  | _ => none

/-- Reads what stands behind a subcommand.  That it asks for help or the version counts even if what
stands before it makes no sense. -/
def CommandLine.parseSubcommand (outer : Option Matches) (subcommand : String)
    (args : List String) : CommandLine :=
  match subcommandLevels.lookup subcommand with
  | none => .misuse
  | some level =>
    match level.parse args with
    | .done inner =>
      match outer, Request.of? subcommand inner with
      | some outer, some wish => .request (Globals.of outer inner) wish
      | _, _ => .misuse
    | .help => .help (some subcommand)
    | .version => .version (some subcommand)
    | _ => .misuse

/-- Reads the arguments of the program. -/
def CommandLine.parse (args : List String) : CommandLine :=
  match topLevel.parse args with
  | .subcommand name rest outer => CommandLine.parseSubcommand outer name rest
  | .help => .help none
  | .version => .version none
  | _ => .misuse

end Optline.Cli
