/-!
# Notices

What a user ought to hear about although nothing has failed: a specification that is read in a
weaker way than it was written, a command that cannot be reached, an invocation that is turned
away.  Notices are values; whoever reads a specification or runs a line gets them beside the result.

* `Notice` — the kinds of notice.
* `Notice.message` — the wording.
* `Notice.fields` — what a notice is about.
* `Notice.line` — both on one line.
-/

namespace Optline

/-- Something a user ought to hear about. -/
inductive Notice where
  /-- A brace group of the specification `spec` is never closed. -/
  | openSpec (spec : String)
  /-- The last token of the specification `spec` is a lone minus with nothing to promote. -/
  | danglingMinus (spec : String)
  /-- The constraint begins with a brace that it does not end with. -/
  | openConstraint (constraint : String)
  /-- The constraint names a type that does not exist. -/
  | unknownType (placeholder constraint : String)
  /-- A command of the same name is already registered. -/
  | duplicateCommand (command kept shadowed : String)
  /-- An invocation was turned away. -/
  | rejected (command diagnostic : String)
  deriving DecidableEq, Repr

/-- The wording of a notice. -/
def Notice.message : Notice → String
  | .openSpec _ => "unterminated brace group in spec"
  | .danglingMinus _ => "dangling '-' at end of spec ignored"
  | .openConstraint _ => "unterminated brace group in constraint"
  | .unknownType .. => "unsupported data type; slot accepts any value"
  | .duplicateCommand .. =>
    "duplicate command registration; the later entry is unreachable by name"
  | .rejected _ diagnostic => diagnostic

/-- What a notice is about, each thing with its name. -/
def Notice.fields : Notice → List (String × String)
  | .openSpec spec => [("spec", spec)]
  | .danglingMinus spec => [("spec", spec)]
  | .openConstraint constraint => [("constraint", constraint)]
  | .unknownType placeholder constraint =>
    [("placeholder", placeholder), ("constraint", constraint)]
  | .duplicateCommand command kept shadowed =>
    [("command", command), ("kept", kept), ("shadowed", shadowed)]
  | .rejected command _ => [("command", command)]

/-- A notice on one line: its wording, and then what it is about. -/
def Notice.line (n : Notice) : String :=
  n.message ++ String.join (n.fields.map fun (name, value) => " " ++ name ++ "=" ++ value)

end Optline
