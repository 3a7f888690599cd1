/-!
# Faults

A fault is what a user is told when something fails: what was being done, and then why it failed,
from the outermost reason to the innermost.

* `Fault` — a message and its causes.
* `Fault.within` — the same fault seen from further out.
* `Fault.text` — everything on one line.
* `Fault.paragraph` — the message, and the causes listed below it.
-/

namespace Optline

/-- A failure as it is reported. -/
structure Fault where
  /-- What failed. -/
  message : String
  /-- Why, outermost first. -/
  causes : List String := []
  deriving DecidableEq, Repr

namespace Fault

/-- The fault of a larger undertaking that failed because of this one. -/
def within (f : Fault) (context : String) : Fault :=
  ⟨context, f.message :: f.causes⟩

/-- The message and the causes on one line. -/
def text (f : Fault) : String :=
  ": ".intercalate (f.message :: f.causes)

/-- A cause behind a label, its further lines indented to stand under its first one. -/
def labelled (label : String) (cause : String) : String :=
  let indent := String.ofList (List.replicate label.length ' ')
  label ++ ("\n" ++ indent).intercalate ((cause.toList.splitOn '\n').map String.ofList)

/-- The causes, numbered from `index`. -/
def numbered (index : Nat) : List String → List String
  | [] => []
  | cause :: rest =>
    let number := toString index
    let label := String.ofList (List.replicate (5 - number.length) ' ') ++ number ++ ": "
    labelled label cause :: numbered (index + 1) rest

/-- The message, and the causes in lines below it; numbered if there are several. -/
def paragraph (f : Fault) : String :=
  match f.causes with
  | [] => f.message
  | [cause] => f.message ++ "\n\nCaused by:\n" ++ labelled "    " cause
  | causes => f.message ++ "\n\nCaused by:\n" ++ "\n".intercalate (numbered 0 causes)

end Fault

end Optline
