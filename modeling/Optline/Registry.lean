import Optline.Help

/-!
# The registry

Commands are kept in the order in which they are registered, each with what is bound to it.  Entries
are never removed or replaced: a second command of a name stays in the list, but looking the name up
finds the first.

* `Entry`, `Registry` — the store, for any type of handlers.
* `Registry.lookup?` — the first entry of a name.
* `Registry.register` — appends a command, with the notices that arise on the way.
-/

namespace Optline

/-- A registered command. -/
structure Entry (η : Type) where
  /-- Its specification. -/
  spec : CommandSpec
  /-- What is bound to it. -/
  handler : η

/-- The registered commands, in the order of registration. -/
structure Registry (η : Type) where
  /-- The entries. -/
  entries : List (Entry η) := []

/-- Why a command cannot be registered. -/
inductive RegistrationError where
  /-- Its name is blank. -/
  | unnamed
  deriving DecidableEq, Repr

/-- The wording of a registration error. -/
def RegistrationError.message : RegistrationError → String
  | .unnamed => "command registered without a name"

namespace Registry

variable {η : Type}

/-- The specifications of the registered commands. -/
def specs (r : Registry η) : List CommandSpec :=
  r.entries.map (·.spec)

/-- The first entry of a name. -/
def lookup? (r : Registry η) (name : String) : Option (Entry η) :=
  r.entries.find? (·.spec.name == name)

/-- The notice about a name that is already taken. -/
def duplicateNotices (r : Registry η) (name raw : String) : List Notice :=
  match r.lookup? name with
  | some first => [.duplicateCommand name first.spec.raw raw]
  | none => []

/-- The registry with one more entry at its end. -/
def append (r : Registry η) (e : Entry η) : Registry η :=
  ⟨r.entries ++ [e]⟩

/-- Reads a specification and appends the command.  A taken name is reported before anything that
the specification itself gives rise to. -/
def register (r : Registry η) (name raw : String) (handler : η) :
    Except RegistrationError (Registry η × List Notice) :=
  if Text.isBlankText name then .error .unnamed
  else
    let (spec, notices) := CommandSpec.read name raw
    .ok (r.append ⟨spec, handler⟩, r.duplicateNotices name raw ++ notices)

/-- The help of all registered commands that are not internal. -/
def helpIndex (r : Registry η) : String :=
  Optline.helpIndex r.specs

end Registry

end Optline
