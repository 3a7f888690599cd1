/-!
# JSON values

A JSON value as it was written: the members of an object keep their order and may repeat a key, and
a number keeps its text, because `1` and `1.0` are told apart by those who read it.

* `Json` — the values.
* `Json.ofNat`, `Json.ofInt`, `Json.ofOption` — values from data.
* `Json.member?` — the first member of a key.
-/

namespace Optline

/-- A JSON value. -/
inductive Json where
  | null
  | bool (value : Bool)
  /-- A number, by its text. -/
  | number (text : String)
  | string (value : String)
  | array (items : List Json)
  | object (members : List (String × Json))
  deriving Repr, Inhabited

namespace Json

/-- A natural number. -/
def ofNat (n : Nat) : Json :=
  .number (toString n)

/-- An integer. -/
def ofInt (n : Int) : Json :=
  .number (toString n)

/-- A value that may be missing. -/
def ofOption {α : Type} (toJson : α → Json) : Option α → Json
  | some a => toJson a
  | none => .null

/-- The first member of a key in an object. -/
def member? (key : String) : Json → Option Json
  | .object members => members.lookup key
  | _ => none

end Json

end Optline
