import Optline.Document.Json.Reader
import Optline.Document.Yaml
import Optline.Document.Yaml.Place

/-!
# YAML scalars

The ways to write a text: plainly, between single or double quotes, or as a block of lines.  In the
first three, a newline inside the text counts as a space and each further break as itself; the
blanks around a break are dropped.  A separator of lines or paragraphs is always kept.

* `Gap` — blanks and breaks that have been read and not yet written.
* `singleQuoted`, `doubleQuoted` — a quoted scalar from behind its opening quote.
* `plainText` — a plain scalar.
* `blockScalar` — a literal or folded block from behind its indicator.
-/

namespace Optline.Yaml

/-! ## Gaps -/

/-- Blanks and line breaks whose meaning is settled by what follows them. -/
structure Gap where
  /-- The blanks on the first line, the last one first. -/
  blanks : List Char := []
  /-- Whether a break has been met, if only one that is not written. -/
  isBroken : Bool := false
  /-- The first break. -/
  first : Option Char := none
  /-- The further breaks, the last one first. -/
  further : List Char := []

namespace Gap

/-- Whether nothing has been read. -/
def isEmpty (g : Gap) : Bool :=
  g.blanks.isEmpty && !g.isBroken

/-- Takes a blank in; behind a break it is dropped. -/
def blank (g : Gap) (c : Char) : Gap :=
  if g.isBroken then g else { g with blanks := c :: g.blanks }

/-- Takes a line break in. -/
def newline (g : Gap) (c : Char) : Gap :=
  if g.isBroken then { g with further := c :: g.further }
  else { blanks := [], isBroken := true, first := some c, further := [] }

/-- The gap behind a line break that is not written. -/
def joined : Gap :=
  { isBroken := true }

/-- What is written for a gap. -/
def text (g : Gap) : List Char :=
  if g.isBroken then
    match g.first with
    | none => g.further.reverse
    | some c =>
      if c ≠ '\n' then c :: g.further.reverse
      else if g.further.isEmpty then [' ']
      else g.further.reverse
  else g.blanks.reverse

end Gap

/-- Puts characters in front of a text that is being read. -/
def prepend {α : Type} (cs : List Char) (r : Option (List Char × α)) : Option (List Char × α) :=
  r.map fun (text, rest) => (cs ++ text, rest)

/-! ## Quoted scalars -/

/-- The text between single quotes, and the place after them.  A quote is written twice. -/
def singleQuoted (g : Gap) (m : Mark) : List Char → Option (List Char × Place)
  | [] => none
  | '\'' :: '\'' :: cs =>
    prepend (g.text ++ ['\'']) (singleQuoted {} ((m.next '\'').next '\'') cs)
  | '\'' :: cs => some (g.text, ⟨m.next '\'', cs⟩)
  | c :: cs =>
    if isBreak c then
      if isBorder cs then none else singleQuoted (g.newline c) (m.next c) cs
    else if isBlank c then singleQuoted (g.blank c) (m.next c) cs
    else prepend (g.text ++ [c]) (singleQuoted {} (m.next c) cs)

/-- The character that a letter after a backslash stands for. -/
def namedEscape? (c : Char) : Option Char :=
  [('0', '\x00'), ('a', '\x07'), ('b', '\x08'), ('t', '\t'), ('\t', '\t'), ('n', '\n'),
    ('v', '\x0b'), ('f', '\x0c'), ('r', '\r'), ('e', '\x1b'), (' ', ' '), ('"', '"'), ('/', '/'),
    ('\\', '\\'), ('N', '\u0085'), ('_', '\u00a0'), ('L', '\u2028'), ('P', '\u2029')].lookup c

/-- The value of a run of hexadecimal digits. -/
def hexNumber? (ds : List Char) : Option Nat :=
  ds.foldlM (fun n d => (Json.hexValue? d).map (16 * n + ·)) 0

/-- The character of a run of hexadecimal digits. -/
def hexChar? (ds : List Char) : Option Char :=
  (hexNumber? ds).bind fun n => if n.isValidChar then some (Char.ofNat n) else none

/-- The mark `n` characters further on, on the same line. -/
def Mark.advance (m : Mark) (n : Nat) : Mark :=
  ⟨m.line, m.column + n⟩

/-- The text between double quotes, and the place after them. -/
def doubleQuoted (g : Gap) (m : Mark) : List Char → Option (List Char × Place)
  | [] => none
  | '"' :: cs => some (g.text, ⟨m.next '"', cs⟩)
  | '\\' :: 'x' :: a :: b :: cs =>
    match hexChar? [a, b] with
    | none => none
    | some d => prepend (g.text ++ [d]) (doubleQuoted {} (m.advance 4) cs)
  | '\\' :: 'u' :: a :: b :: c :: d :: cs =>
    match hexChar? [a, b, c, d] with
    | none => none
    | some d => prepend (g.text ++ [d]) (doubleQuoted {} (m.advance 6) cs)
  | '\\' :: 'U' :: a :: b :: c :: d :: e :: f :: h :: i :: cs =>
    match hexChar? [a, b, c, d, e, f, h, i] with
    | none => none
    | some d => prepend (g.text ++ [d]) (doubleQuoted {} (m.advance 10) cs)
  | '\\' :: e :: cs =>
    if isBreak e then
      if isBorder cs then none
      else prepend g.text (doubleQuoted .joined ((m.next '\\').next e) cs)
    else
      match namedEscape? e with
      | none => none
      | some d => prepend (g.text ++ [d]) (doubleQuoted {} (m.advance 2) cs)
  | c :: cs =>
    if isBreak c then
      if isBorder cs then none else doubleQuoted (g.newline c) (m.next c) cs
    else if isBlank c then doubleQuoted (g.blank c) (m.next c) cs
    else if c = '\\' then none
    else prepend (g.text ++ [c]) (doubleQuoted {} (m.next c) cs)

/-! ## Plain scalars -/

/-- The characters that structure the flow style. -/
def isFlowIndicator (c : Char) : Bool :=
  c == ',' || c == '[' || c == ']' || c == '\x7b' || c == '\x7d'

/-- The characters that no plain scalar begins with. -/
def isIndicator (c : Char) : Bool :=
  "-?:,[]\x7b\x7d#&*!|>'\"%@\x60".toList.contains c

/-- Whether a text begins a plain scalar. -/
def startsPlain (isFlow : Bool) : List Char → Bool
  | [] => false
  | c :: cs =>
    if c = '-' then !startsBlank cs
    else if c = '?' ∨ c = ':' then !isFlow && !startsBlank cs
    else !isIndicator c && !startsBlank [c]

/-- Where a plain scalar stands. -/
structure PlainRule where
  isFlow : Bool
  /-- The least column in which it can go on. -/
  indent : Int

/-- Whether a plain scalar ends here, right after a character of its own. -/
def PlainRule.endsBefore (r : PlainRule) (c : Char) (cs : List Char) : Bool :=
  (c == ':' && startsBlank cs) || (r.isFlow && isFlowIndicator c)

/-- Whether a colon stands where the flow style has none. -/
def PlainRule.isStray (r : PlainRule) (c : Char) (cs : List Char) : Bool :=
  r.isFlow && c == ':' && cs.head?.any fun d => d == '?' || isFlowIndicator d

/-- Whether a plain scalar ends behind a gap. -/
def PlainRule.endsBehind (r : PlainRule) (m : Mark) (c : Char) (cs : List Char) : Bool :=
  (!r.isFlow && decide ((m.column : Int) < r.indent)) || (m.column == 0 && isBorder (c :: cs))
    || c == '#'

/-- The text of a plain scalar from a given place on; then whether a line break has been met behind
it, and the place after it and the gap that follows. -/
def plainText (r : PlainRule) (g : Gap) (m : Mark) :
    List Char → Option (List Char × Bool × Place)
  | [] => some ([], g.isBroken, ⟨m, []⟩)
  | c :: cs =>
    if isBreak c then plainText r (g.newline c) (m.next c) cs
    else if isBlank c then
      if c = '\t' ∧ g.isBroken = true ∧ (m.column : Int) < r.indent then none
      else plainText r (g.blank c) (m.next c) cs
    else if !g.isEmpty && r.endsBehind m c cs then some ([], g.isBroken, ⟨m, c :: cs⟩)
    else if r.isStray c cs then none
    else if r.endsBefore c cs then some ([], g.isBroken, ⟨m, c :: cs⟩)
    else prepend (g.text ++ [c]) (plainText r {} (m.next c) cs)

/-! ## Blocks -/

/-- What becomes of the line breaks at the end of a block. -/
inductive Chomping where
  /-- All are dropped. -/
  | strip
  /-- One is kept. -/
  | clip
  /-- All are kept. -/
  | keep
  deriving DecidableEq, Repr

/-- What a sign in the head of a block says about the last breaks. -/
def Chomping.ofSign? (c : Char) : Option Chomping :=
  if c = '+' then some .keep else if c = '-' then some .strip else none

/-- How deep a digit in the head of a block says that its lines are indented. -/
def indentDigit? (c : Char) : Option Nat :=
  if c.isDigit ∧ c ≠ '0' then some (c.toNat - '0'.toNat) else none

/-- The head of a block: what becomes of the last breaks, how deep the lines are indented if it
says so, and the place behind both. -/
def blockHead (p : Place) : Chomping × Option Nat × Place :=
  match p.rest with
  | c :: d :: _ =>
    match Chomping.ofSign? c, indentDigit? c, Chomping.ofSign? d, indentDigit? d with
    | some chomping, _, _, some n => (chomping, some n, p.skip 2)
    | some chomping, _, _, none => (chomping, none, p.skip 1)
    | none, some n, some chomping, _ => (chomping, some n, p.skip 2)
    | none, some n, none, _ => (.clip, some n, p.skip 1)
    | none, none, _, _ => (.clip, none, p)
  | [c] =>
    match Chomping.ofSign? c, indentDigit? c with
    | some chomping, _ => (chomping, none, p.skip 1)
    | none, some n => (.clip, some n, p.skip 1)
    | none, none => (.clip, none, p)
  | [] => (.clip, none, p)

/-- The column of the deepest of the lines of spaces that a text begins with, the first other line
counted with its spaces; a tab may not stand among them. -/
def detectIndent (deepest column : Nat) : List Char → Option Nat
  | [] => some deepest
  | c :: cs =>
    if c = ' ' then detectIndent (max deepest (column + 1)) (column + 1) cs
    else if c = '\t' then none
    else if isBreak c then detectIndent deepest 0 cs
    else some deepest

/-- The state of the reading of a block. -/
structure BlockState where
  /-- Whether a line has begun. -/
  inLine : Bool := false
  /-- Whether the last line began with a blank. -/
  isIndented : Bool := false
  /-- The break at the end of the last line. -/
  first : Option Char := none
  /-- The breaks of the empty lines after it, the last one first. -/
  further : List Char := []

/-- What is written between the last line and one that begins with a character.  In the folded
style the newline between two lines that begin with no blank is a space, or nothing where empty
lines follow. -/
def BlockState.joint (s : BlockState) (isFolded : Bool) (c : Char) : List Char :=
  let isJoined := isFolded && s.first == some '\n' && !s.isIndented && !isBlank c
  (if isJoined then if s.further.isEmpty then [' '] else [] else s.first.toList)
    ++ s.further.reverse

/-- What is written after the last line. -/
def BlockState.ending (s : BlockState) : Chomping → List Char
  | .strip => []
  | .clip => s.first.toList
  | .keep => s.first.toList ++ s.further.reverse

/-- The text of a block whose lines are indented to a column, and the place after it. -/
def blockText (isFolded : Bool) (chomping : Chomping) (indent : Nat) (s : BlockState) (m : Mark) :
    List Char → Option (List Char × Place)
  | [] => some (s.ending chomping, ⟨m, []⟩)
  | c :: cs =>
    if s.inLine then
      if isBreak c then
        blockText isFolded chomping indent { s with inLine := false, first := some c } (m.next c) cs
      else prepend [c] (blockText isFolded chomping indent s (m.next c) cs)
    else if isBreak c then
      blockText isFolded chomping indent { s with further := c :: s.further } (m.next c) cs
    else if m.column < indent then
      if c = ' ' then blockText isFolded chomping indent s (m.next c) cs
      else if c = '\t' then none
      else some (s.ending chomping, ⟨m, c :: cs⟩)
    else
      prepend (s.joint isFolded c ++ [c])
        (blockText isFolded chomping indent { inLine := true, isIndented := isBlank c }
          (m.next c) cs)

/-- A block from behind its indicator, inside a structure that is indented to the column `parent`,
or to none if that is negative. -/
def blockScalar (isFolded : Bool) (parent : Int) (p : Place) : Option (List Char × Place) := do
  let (chomping, given, p) := blockHead p
  let body ← p.skipLine?
  let indent ←
    match given with
    | some n => some ((max parent 0).toNat + n)
    | none => (detectIndent 0 0 body.rest).map (max (max (parent + 1) 1).toNat)
  blockText isFolded chomping indent {} body.mark body.rest

end Optline.Yaml
