import Optline.Document.Json

/-!
# Printing JSON

Two layouts of one value: everything on one line, and one item to a line with two spaces for each
level.  In strings only the quote, the backslash and the control characters below U+0020 are
escaped; an empty array or object has nothing between its brackets in either layout.

* `Json.escape` — the characters of a string literal.
* `Json.compact` — the layout on one line.
* `Json.pretty` — the layout in lines.
-/

namespace Optline.Json

/-! ## Strings -/

/-- A hexadecimal digit in lower case. -/
def hexDigit (n : Nat) : Char :=
  if n < 10 then Char.ofNat (n + '0'.toNat) else Char.ofNat (n - 10 + 'a'.toNat)

/-- A character of a string as it is written. -/
def escapeChar (c : Char) : List Char :=
  if c = '"' then ['\\', '"']
  else if c = '\\' then ['\\', '\\']
  else if c = '\n' then ['\\', 'n']
  else if c = '\r' then ['\\', 'r']
  else if c = '\t' then ['\\', 't']
  else if c = '\x08' then ['\\', 'b']
  else if c = '\x0c' then ['\\', 'f']
  else if c.toNat < 0x20 then
    ['\\', 'u', '0', '0', hexDigit (c.toNat / 16), hexDigit (c.toNat % 16)]
  else [c]

/-- A string literal. -/
def escape (s : String) : String :=
  "\"" ++ String.ofList (s.toList.flatMap escapeChar) ++ "\""

/-! ## On one line -/

mutual

/-- A value on one line. -/
def compact : Json → String
  | .null => "null"
  | .bool value => if value then "true" else "false"
  | .number text => text
  | .string value => escape value
  | .array items => "[" ++ ",".intercalate (compactItems items) ++ "]"
  | .object members => "\x7b" ++ ",".intercalate (compactMembers members) ++ "\x7d"

/-- The items of an array, each on one line. -/
def compactItems : List Json → List String
  | [] => []
  | item :: rest => compact item :: compactItems rest

/-- The members of an object, each on one line. -/
def compactMembers : List (String × Json) → List String
  | [] => []
  | (key, value) :: rest => (escape key ++ ":" ++ compact value) :: compactMembers rest

end

/-! ## In lines -/

/-- The blanks before a line of a level. -/
def indent (level : Nat) : String :=
  String.ofList (List.replicate (2 * level) ' ')

/-- Items between brackets, one to a line; brackets without items stay together. -/
def bracketed (level : Nat) (opening closing : String) (items : List String) : String :=
  if items.isEmpty then opening ++ closing
  else
    opening ++ "\n" ++ ",\n".intercalate (items.map (indent (level + 1) ++ ·)) ++ "\n"
      ++ indent level ++ closing

mutual

/-- A value in lines, as part of a text of the given level. -/
def layout (level : Nat) : Json → String
  | .null => "null"
  | .bool value => if value then "true" else "false"
  | .number text => text
  | .string value => escape value
  | .array items => bracketed level "[" "]" (layoutItems (level + 1) items)
  | .object members => bracketed level "\x7b" "\x7d" (layoutMembers (level + 1) members)

/-- The items of an array, each in lines. -/
def layoutItems (level : Nat) : List Json → List String
  | [] => []
  | item :: rest => layout level item :: layoutItems level rest

/-- The members of an object, each in lines. -/
def layoutMembers (level : Nat) : List (String × Json) → List String
  | [] => []
  | (key, value) :: rest =>
    (escape key ++ ": " ++ layout level value) :: layoutMembers level rest

end

/-- A value in lines. -/
def pretty (j : Json) : String :=
  layout 0 j

end Optline.Json
