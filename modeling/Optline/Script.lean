import Optline.Text.Blank
import Optline.Text.Cut

/-!
# Scripts

A script holds several command lines, separated by semicolons or newlines.  A separator inside
quotes or after a backslash belongs to the command; between single quotes a backslash is a
character like any other.

* `ScriptState`, `scriptCutter` — the scan of a script.
* `splitScript` — the command lines of a script, blank ones left out.
-/

namespace Optline

/-- What a scan of a script carries along. -/
structure ScriptState where
  /-- The quote that is open. -/
  quote : Option Char := none
  /-- Whether the last character was a backslash that escapes. -/
  escaped : Bool := false
  deriving DecidableEq, Repr

/-- The state after a character. -/
def ScriptState.next (s : ScriptState) (c : Char) : ScriptState :=
  if s.escaped then { s with escaped := false }
  else if c = '\\' ∧ s.quote ≠ some '\'' then { s with escaped := true }
  else
    match s.quote with
    | none => if c = '"' ∨ c = '\'' then { s with quote := some c } else s
    | some q => if c = q then { s with quote := none } else s

/-- Cuts at the semicolons and newlines that are neither quoted nor escaped. -/
def scriptCutter : Text.Cutter ScriptState where
  start := {}
  next := ScriptState.next
  cuts s c := !s.escaped && s.quote == none && (c == ';' || c == '\n')

/-- The command lines of a script that are not blank. -/
def splitScript (script : String) : List String :=
  ((scriptCutter.pieces {} script.toList).filter (!·.all Text.isBlank)).map String.ofList

end Optline
