import Optline.Document.Yaml.Token

/-!
# Cutting a YAML text into tokens

A block structure has the column of its first token; it ends where a later token stands further to
the left.  Between brackets columns mean nothing.

What stands before a colon is a key, even though no sign announces it.  So where a key may begin,
the next token is remembered as a *candidate*.  If a colon follows in time, a token for the key, and
one for the mapping if this is its first key, are put in front of the candidate.  A candidate must
be followed by its colon on the same line and within 1024 characters.

* `Candidate`, `Lexer` — how far the reading has come.
* `skipGap` — the place of the next token.
* `Lexer.next?` — the reading of one token.
* `Token.list?` — the tokens of a text.

Every token but those for the ends of block structures has a character of its own, so the length of
the text bounds the number of steps.
-/

namespace Optline.Yaml

/-! ## The state -/

/-- A token that is a key if a colon follows in time. -/
structure Candidate where
  /-- How many tokens stand before it. -/
  index : Nat
  mark : Mark
  /-- Whether it stands where nothing but a key can. -/
  isRequired : Bool

/-- Whether it is too late for a colon. -/
def Candidate.isStale (c : Candidate) (m : Mark) : Bool :=
  c.mark.line < m.line || c.mark.column + 1024 < m.column

/-- How far a text has been read. -/
structure Lexer where
  place : Place
  tokens : Array Token := #[]
  /-- The columns of the open block structures, the innermost one first. -/
  indents : List Nat := []
  /-- Whether a key may begin here. -/
  mayStartKey : Bool := true
  /-- The candidate between the innermost brackets, or outside of any. -/
  candidate : Option Candidate := none
  /-- For each open bracket the candidate before it, that of the innermost one first. -/
  outer : List (Option Candidate) := []

namespace Lexer

/-- Whether a bracket is open. -/
def isFlow (s : Lexer) : Bool :=
  !s.outer.isEmpty

/-- The column of the innermost block structure, and −1 outside of any. -/
def indent (s : Lexer) : Int :=
  match s.indents with
  | [] => -1
  | n :: _ => n

/-- Adds a token, and goes on after it. -/
def emit (s : Lexer) (t : Token) (next : Place) : Lexer :=
  { s with tokens := s.tokens.push t, place := next }

/-- Gives the candidate up. -/
def settle (s : Lexer) : Option Lexer :=
  if s.candidate.any (·.isRequired) then none else some { s with candidate := none }

/-- Makes the next token the candidate if a key may begin here. -/
def nominate (s : Lexer) : Option Lexer :=
  if s.mayStartKey then
    s.settle.map fun s =>
      let isRequired := !s.isFlow && s.indent == s.place.mark.column
      { s with candidate := some ⟨s.tokens.size, s.place.mark, isRequired⟩ }
  else some s

/-- A candidate for which it is not too late. -/
def refresh (m : Mark) : Option Candidate → Option (Option Candidate)
  | none => some none
  | some c => if !c.isStale m then some (some c) else if c.isRequired then none else some none

/-- Gives up the candidates for which it is too late. -/
def expire (s : Lexer) : Option Lexer := do
  let candidate ← refresh s.place.mark s.candidate
  let outer ← s.outer.mapM (refresh s.place.mark)
  pure { s with candidate, outer }

/-- Begins a block structure at a column, in front of the token at an index, unless one that is open
goes as deep. -/
def deepen (s : Lexer) (column index : Nat) (start : Token) : Lexer :=
  if s.isFlow || decide ((column : Int) ≤ s.indent) then s
  else
    { s with indents := column :: s.indents, tokens := s.tokens.insertIdxIfInBounds index start }

/-- Ends the block structures that go deeper than a column. -/
def outdent (s : Lexer) (column : Int) : Lexer :=
  if s.isFlow then s
  else
    let n := (s.indents.takeWhile fun n : Nat => column < (n : Int)).length
    { s with
      indents := s.indents.drop n
      tokens := s.tokens ++ Array.replicate n Token.blockEnd }

end Lexer

/-! ## Gaps between tokens -/

/-- Skips what stands between two tokens, and gives whether a key may begin behind it.  Where a key
may begin, tabs are no blanks. -/
def skipGap (isFlow inComment mayStartKey : Bool) (m : Mark) : List Char → Bool × Place
  | [] => (mayStartKey, ⟨m, []⟩)
  | c :: cs =>
    if isBreak c then skipGap isFlow false (mayStartKey || !isFlow) (m.next c) cs
    else if inComment || c == '#' then skipGap isFlow true mayStartKey (m.next c) cs
    else if c == ' ' || (c == '\t' && (isFlow || !mayStartKey)) || (c == '\ufeff' && m.column == 0)
    then skipGap isFlow false mayStartKey (m.next c) cs
    else (mayStartKey, ⟨m, c :: cs⟩)

namespace Lexer

/-- Goes on to the next token. -/
def approach (s : Lexer) : Option Lexer :=
  let (mayStartKey, place) := skipGap s.isFlow false s.mayStartKey s.place.mark s.place.rest
  (expire { s with mayStartKey, place }).map fun s => s.outdent s.place.mark.column

/-! ## Tokens -/

/-- Reads what stands between documents. -/
def border (s : Lexer) (t : Token) (next : Place) : Option Lexer :=
  ((s.outdent (-1)).settle).map fun s => { s with mayStartKey := false }.emit t next

/-- Reads an opening bracket. -/
def opening (s : Lexer) (t : Token) : Option Lexer :=
  s.nominate.map fun s =>
    { s with candidate := none, outer := s.candidate :: s.outer, mayStartKey := true }.emit t
      (s.place.skip 1)

/-- Reads a closing bracket. -/
def closing (s : Lexer) (t : Token) : Option Lexer :=
  s.settle.map fun s =>
    { s with candidate := s.outer.head?.join, outer := s.outer.tail, mayStartKey := false }.emit t
      (s.place.skip 1)

/-- Reads a comma. -/
def comma (s : Lexer) : Option Lexer :=
  s.settle.map fun s => { s with mayStartKey := true }.emit .flowEntry (s.place.skip 1)

/-- Begins a block structure here, unless one is open. -/
def begin (s : Lexer) (start : Token) : Option Lexer :=
  if s.isFlow then some s
  else if s.mayStartKey then some (s.deepen s.place.mark.column s.tokens.size start)
  else none

/-- Reads the hyphen before an item. -/
def hyphen (s : Lexer) : Option Lexer := do
  let s ← s.begin .blockSequenceStart
  let s ← s.settle
  pure ({ s with mayStartKey := true }.emit .blockEntry (s.place.skip 1))

/-- Reads the question mark before a key. -/
def question (s : Lexer) : Option Lexer := do
  let s ← s.begin .blockMappingStart
  let s ← s.settle
  pure ({ s with mayStartKey := !s.isFlow }.emit .key (s.place.skip 1))

/-- Reads a colon. -/
def colon (s : Lexer) : Option Lexer :=
  match s.candidate with
  | some c =>
    let s := { s with tokens := s.tokens.insertIdxIfInBounds c.index .key }
    let s := s.deepen c.mark.column c.index .blockMappingStart
    some ({ s with candidate := none, mayStartKey := false }.emit .value (s.place.skip 1))
  | none =>
    (s.begin .blockMappingStart).map fun s =>
      { s with mayStartKey := !s.isFlow }.emit .value (s.place.skip 1)

/-- Adds a token that a key can begin with. -/
def content (s : Lexer) (t : Token) (next : Place) : Option Lexer :=
  s.nominate.map fun s => { s with mayStartKey := false }.emit t next

/-- Reads a block. -/
def block (s : Lexer) (style : YamlStyle) : Option Lexer := do
  let s ← s.settle
  let (text, next) ← blockScalar (style == .folded) s.indent (s.place.skip 1)
  pure ({ s with mayStartKey := true }.emit (.scalar (String.ofList text) style) next)

/-- Adds a quoted scalar. -/
def quoted (s : Lexer) (read : Option (List Char × Place)) : Option Lexer :=
  read.bind fun (text, next) => s.content (.scalar (String.ofList text) .quoted) next

/-- Reads a plain scalar.  A key may begin behind it if it is followed by a line break. -/
def plain (s : Lexer) : Option Lexer := do
  let (text, isBroken, next) ←
    plainText ⟨s.isFlow, s.indent + 1⟩ {} s.place.mark s.place.rest
  let s ← s.content (.scalar (String.ofList text) .plain) next
  pure { s with mayStartKey := isBroken }

/-- Reads a token that begins with a character, `cs` following. -/
def next? (s : Lexer) (c : Char) (cs : List Char) : Option Lexer :=
  let second := s.place.skip 1
  let isSign := s.isFlow || startsBlank cs
  if s.place.mark.column = 0 ∧ c = '%' then
    (readDirective second).bind fun (d, next) => s.border (.directive d) next
  else if s.place.mark.column = 0 ∧ isBorder (c :: cs) = true then
    s.border (if c = '-' then .documentStart else .documentEnd) (s.place.skip 3)
  else if c = '[' then s.opening .flowSequenceStart
  else if c = '\x7b' then s.opening .flowMappingStart
  else if c = ']' then s.closing .flowSequenceEnd
  else if c = '\x7d' then s.closing .flowMappingEnd
  else if c = ',' then s.comma
  else if c = '-' ∧ startsBlank cs = true then s.hyphen
  else if c = '?' ∧ isSign = true then s.question
  else if c = ':' ∧ isSign = true then s.colon
  else if c = '*' then (readName second).bind fun (name, next) => s.content (.reference name) next
  else if c = '&' then (readName second).bind fun (name, next) => s.content (.name name) next
  else if c = '!' then
    (readTag s.isFlow s.place).bind fun ((handle, suffix), next) =>
      s.content (.tag handle suffix) next
  else if c = '|' ∧ s.isFlow = false then s.block .literal
  else if c = '>' ∧ s.isFlow = false then s.block .folded
  else if c = '\'' then s.quoted (singleQuoted {} second.mark cs)
  else if c = '"' then s.quoted (doubleQuoted {} second.mark cs)
  else if startsPlain s.isFlow (c :: cs) then s.plain
  else none

/-- The tokens of a text that has been read to its end. -/
def finish (s : Lexer) : Option (List Token) :=
  (s.outdent (-1)).settle.map (·.tokens.toList)

/-- Reads up to a number of tokens, and gives them all if they are the last ones. -/
def run : Nat → Lexer → Option (List Token)
  | 0, _ => none
  | fuel + 1, s =>
    match s.approach with
    | none => none
    | some s =>
      match s.place.rest with
      | [] => s.finish
      | c :: cs =>
        match s.next? c cs with
        | none => none
        | some s => run fuel s

end Lexer

/-- The tokens of a text. -/
def Token.list? (cs : List Char) : Option (List Token) :=
  Lexer.run (cs.length + 1) { place := { rest := cs } }

end Optline.Yaml
