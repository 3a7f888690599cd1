/-!
# Places in a YAML text

The structure of a YAML text hangs on lines and columns, so whatever reads it carries them along
with the characters that are left.

* `isBlank`, `isBreak`, `startsBlank`, `isBorder` — the characters that structure a text.
* `isAllowed`, `unifyBreaks` — the characters that a text may hold, and a text with one kind of
  line break in the place of three.
* `Mark`, `Place` — a line and a column; with the characters from there on.
-/

namespace Optline.Yaml

/-! ## Characters -/

/-- A space or a tab. -/
def isBlank (c : Char) : Bool :=
  c == ' ' || c == '\t'

/-- A line break.  The separators of lines and paragraphs are breaks of their own; the other kinds
of break are written as newlines before a text is read. -/
def isBreak (c : Char) : Bool :=
  c == '\n' || c == '\u2028' || c == '\u2029'

/-- Whether a text goes on with a blank, a line break or its end. -/
def startsBlank : List Char → Bool
  | [] => true
  | c :: _ => isBlank c || isBreak c

/-- Whether a line that goes on like this is the border of a document. -/
def isBorder : List Char → Bool
  | '-' :: '-' :: '-' :: cs => startsBlank cs
  | '.' :: '.' :: '.' :: cs => startsBlank cs
  | _ => false

/-- The characters of names. -/
def isNameChar (c : Char) : Bool :=
  c.isAlphanum || c == '-' || c == '_'

/-- The characters that a text may hold. -/
def isAllowed (c : Char) : Bool :=
  let n := c.toNat
  n == 0x09 || n == 0x0A || n == 0x0D || (0x20 ≤ n && n ≤ 0x7E) || n == 0x85
    || (0xA0 ≤ n && n ≤ 0xFFFD) || 0x10000 ≤ n

/-- A text with a newline for every line break that is no separator. -/
def unifyBreaks : List Char → List Char
  | [] => []
  | '\r' :: '\n' :: cs => '\n' :: unifyBreaks cs
  | c :: cs => (if c = '\r' ∨ c = '\u0085' then '\n' else c) :: unifyBreaks cs

/-! ## Places -/

/-- A line and a column, counted from 0. -/
structure Mark where
  line : Nat := 0
  column : Nat := 0
  deriving DecidableEq, Repr

/-- The mark after a character. -/
def Mark.next (m : Mark) (c : Char) : Mark :=
  if isBreak c then ⟨m.line + 1, 0⟩ else ⟨m.line, m.column + 1⟩

/-- A place in a text. -/
structure Place where
  mark : Mark := {}
  /-- The characters from here on. -/
  rest : List Char
  deriving DecidableEq, Repr

namespace Place

/-- The place `n` characters further on. -/
def skip (p : Place) : Nat → Place
  | 0 => p
  | n + 1 =>
    match p.rest with
    | [] => p
    | c :: cs => skip ⟨p.mark.next c, cs⟩ n

/-- The characters of a class that stand here. -/
def run (p : Place) (q : Char → Bool) : List Char :=
  p.rest.takeWhile q

/-- The place after the characters of a class. -/
def skipRun (p : Place) (q : Char → Bool) : Place :=
  p.skip (p.run q).length

/-- Whether a character stands here. -/
def startsWith (p : Place) (c : Char) : Bool :=
  p.rest.head? == some c

/-- The place after the rest of a line that holds nothing but blanks and a comment. -/
def skipLine? (p : Place) : Option Place :=
  let p := p.skipRun isBlank
  let p := if p.startsWith '#' then p.skipRun (!isBreak ·) else p
  match p.rest with
  | [] => some p
  | c :: _ => if isBreak c then some (p.skip 1) else none

end Place

end Optline.Yaml
