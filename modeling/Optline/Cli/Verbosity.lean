import Optline.Notice

/-!
# Verbosity

How much is logged: by default what informs, more with each request to be verbose, and errors alone
where quiet is asked for.

* `Verbosity`, `Verbosity.of` — the levels, and the level of a command line.
* `Verbosity.filter` — the word by which a log filter knows a level.
* `Verbosity.shown` — the notices that are shown.
-/

namespace Optline.Cli

/-- How much is logged. -/
inductive Verbosity where
  | error
  | info
  | debug
  | trace
  deriving DecidableEq, Repr

/-- The level of a command line; quiet goes before everything else. -/
def Verbosity.of (verbose : Nat) (quiet : Bool) : Verbosity :=
  if quiet then .error
  else
    match verbose with
    | 0 => .info
    | 1 => .debug
    | _ => .trace

/-- The name of a level. -/
def Verbosity.name : Verbosity → String
  | .error => "Error"
  | .info => "Info"
  | .debug => "Debug"
  | .trace => "Trace"

/-- The word by which a log filter knows a level. -/
def Verbosity.filter : Verbosity → String
  | .error => "error"
  | .info => "info"
  | .debug => "debug"
  | .trace => "trace"

/-- The notices that are shown: all of them, or none where errors alone are. -/
def Verbosity.shown (v : Verbosity) (notices : List Notice) : List Notice :=
  if v = .error then [] else notices

end Optline.Cli
