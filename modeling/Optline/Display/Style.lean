/-!
# Style

How text is shown to people: whether with color, whether with pictograms, and how wide.  Color is
written as escape sequences around a text, and everything that measures a text leaves them out.

* `Style`, `Role`, `Pictogram` — what can be chosen.
* `color`, `Pictogram.text` — a text in the color of its role, a pictogram.
* `stripEscapes`, `displayWidth` — a text without its escape sequences, and its length.
-/

namespace Optline.Display

/-- How text is shown. -/
structure Style where
  useColor : Bool := false
  useEmoji : Bool := false
  /-- The width of the terminal. -/
  width : Nat := 100
  deriving DecidableEq, Repr

/-- What a text is shown as. -/
inductive Role where
  | primary
  | secondary
  | accent
  | success
  | error
  | dim
  deriving DecidableEq, Repr

/-- The parameter of the escape sequence that switches to the color of a role. -/
def Role.code : Role → String
  | .primary => "38;5;45"
  | .secondary => "38;5;250"
  | .accent => "38;5;213"
  | .success => "38;5;82"
  | .error => "38;5;196"
  | .dim => "2"

/-- A text in the color of its role. -/
def color (role : Role) (text : String) (style : Style) : String :=
  if style.useColor then "\x1b[" ++ role.code ++ "m" ++ text ++ "\x1b[0m" else text

/-- A pictogram that can stand before a text. -/
inductive Pictogram where
  | ok
  | reject
  | help
  | clock
  | list
  deriving DecidableEq, Repr

/-- A pictogram, or nothing where there are none. -/
def Pictogram.text (p : Pictogram) (style : Style) : String :=
  if style.useEmoji then
    match p with
    | .ok => "✔"
    | .reject => "✖"
    | .help => "ℹ"
    | .clock => "⏱"
    | .list => "📜"
  else ""

/-! ## Escape sequences -/

/-- The characters of a text outside its escape sequences.  A sequence begins with an escape and a
bracket and ends with the next letter; the flag says whether the text begins inside one. -/
def stripFrom : Bool → List Char → List Char
  | _, [] => []
  | true, c :: cs => stripFrom (!c.isAlpha) cs
  | false, '\x1b' :: '[' :: cs => stripFrom true cs
  | false, c :: cs => c :: stripFrom false cs

/-- A text without its escape sequences. -/
def stripEscapes (s : String) : String :=
  String.ofList (stripFrom false s.toList)

/-- The number of characters of a text that are shown. -/
def displayWidth (s : String) : Nat :=
  (stripFrom false s.toList).length

/-- A character `n` times. -/
def repeated (c : Char) (n : Nat) : String :=
  String.ofList (List.replicate n c)

end Optline.Display
