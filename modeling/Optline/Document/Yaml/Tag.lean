import Optline.Decimal.Literal
import Optline.Document.Yaml.Place
import Optline.Document.Yaml.Scalar

/-!
# Tags and directives

What a node can be marked with and what can stand before a document.

* `readName` — the name after an ampersand or asterisk.
* `readTag` — a tag, as a handle and a suffix.
* `Directive`, `readDirective` — what a document is told to be, or what a handle stands for.

A tag and the stem of a handle are written in the characters of URIs.  A percent sign and two
digits stand for an octet; what the octets stand for is not looked at, but each has to have its
place in a character.
-/

namespace Optline.Yaml

/-! ## Names -/

/-- Whether a name ends before this text. -/
def endsName : List Char → Bool
  | [] => true
  | c :: _ => startsBlank [c] || "?:,]\x7d%@\x60".toList.contains c

/-- A name, from behind the sign that announces it. -/
def readName (p : Place) : Option (String × Place) :=
  let name := p.run isNameChar
  let next := p.skip name.length
  if name.isEmpty || !endsName next.rest then none else some (String.ofList name, next)

/-! ## Octets -/

/-- The characters that stand for themselves in a URI; brackets and commas only in a wide one. -/
def isUriChar (isWide : Bool) (c : Char) : Bool :=
  isNameChar c || ";/?:@&=+$.!~*'()".toList.contains c || (isWide && ",[]".toList.contains c)

/-- How many octets a character has that begins with this one. -/
def octetCount? (octet : Nat) : Option Nat :=
  if octet < 0x80 then some 1
  else if octet < 0xC0 then none
  else if octet < 0xE0 then some 2
  else if octet < 0xF0 then some 3
  else if octet < 0xF8 then some 4
  else none

/-- The characters of a URI, each octet as a character of its own, and the place after them; `due`
octets of a character are still to come. -/
def readUri (isWide : Bool) (due : Nat) (m : Mark) : List Char → Option (List Char × Place)
  | [] => if due = 0 then some ([], ⟨m, []⟩) else none
  | '%' :: a :: b :: cs =>
    match hexNumber? [a, b] with
    | none => none
    | some octet =>
      if due = 0 then
        match octetCount? octet with
        | none => none
        | some n => prepend [Char.ofNat octet] (readUri isWide (n - 1) (m.advance 3) cs)
      else if octet / 64 = 2 then
        prepend [Char.ofNat octet] (readUri isWide (due - 1) (m.advance 3) cs)
      else none
  | c :: cs =>
    if due ≠ 0 ∨ c = '%' then none
    else if isUriChar isWide c then prepend [c] (readUri isWide 0 (m.next c) cs)
    else some ([], ⟨m, c :: cs⟩)

/-- A URI that has a character at least. -/
def readUri? (isWide : Bool) (p : Place) : Option (List Char × Place) :=
  (readUri isWide 0 p.mark p.rest).filter fun (uri, _) => !uri.isEmpty

/-- The text of a URI, which ends at a zero octet. -/
def uriText (uri : List Char) : String :=
  String.ofList (uri.takeWhile (· ≠ '\x00'))

/-! ## Tags -/

/-- An exclamation mark with the name that follows it, and with the mark that may end the name. -/
def readHandle (p : Place) : Option (List Char × Place) :=
  if p.startsWith '!' then
    let name := (p.skip 1).run isNameChar
    let next := p.skip (name.length + 1)
    if next.startsWith '!' then some ('!' :: (name ++ ['!']), next.skip 1)
    else some ('!' :: name, next)
  else none

/-- Whether a handle ends with a mark of its own. -/
def isClosedHandle (handle : List Char) : Bool :=
  2 ≤ handle.length && handle.getLast? == some '!'

/-- A tag between angle brackets, which has no handle, from behind the first of them. -/
def readVerbatimTag (p : Place) : Option ((String × String) × Place) := do
  let (uri, next) ← readUri? true p
  if next.startsWith '>' then some (("", uriText uri), next.skip 1) else none

/-- A tag that begins with a handle.  A name that no mark ends belongs to the suffix, and a lone
exclamation mark is a tag of its own. -/
def readShortTag (p : Place) : Option ((String × String) × Place) := do
  let (handle, next) ← readHandle p
  if isClosedHandle handle then
    let (uri, next) ← readUri? false next
    some ((String.ofList handle, uriText uri), next)
  else
    let (uri, next) ← readUri false 0 next.mark next.rest
    let suffix := uriText (handle.tail ++ uri)
    some (if suffix = "" then ("", "!") else ("!", suffix), next)

/-- The handle and the suffix of a tag, and the place after it. -/
def readTag (isFlow : Bool) (p : Place) : Option ((String × String) × Place) := do
  let (tag, next) ← if (p.skip 1).startsWith '<' then readVerbatimTag (p.skip 2) else readShortTag p
  if startsBlank next.rest || (isFlow && next.startsWith ',') then some (tag, next) else none

/-! ## Directives -/

/-- A line before a document. -/
inductive Directive where
  | version (major minor : Nat)
  /-- What a handle stands for in front of the suffix of a tag. -/
  | handle (name stem : String)
  deriving DecidableEq, Repr

/-- A number of a version. -/
def readVersionNumber (p : Place) : Option (Nat × Place) :=
  let digits := p.run Char.isDigit
  if digits.isEmpty || 9 < digits.length then none
  else some (Decimal.digitsValue digits, p.skip digits.length)

/-- The directive that gives the version. -/
def readVersion (p : Place) : Option (Directive × Place) := do
  let (major, next) ← readVersionNumber p
  if next.startsWith '.' then
    let (minor, next) ← readVersionNumber (next.skip 1)
    some (.version major minor, next)
  else none

/-- The directive that gives a handle its meaning. -/
def readHandleMeaning (p : Place) : Option (Directive × Place) := do
  let (handle, next) ← readHandle p
  if handle = ['!'] ∨ isClosedHandle handle = true then
    let (stem, next') ← readUri? true (next.skipRun isBlank)
    if next.run isBlank ≠ [] ∧ startsBlank next'.rest = true then
      some (.handle (String.ofList handle) (uriText stem), next')
    else none
  else none

/-- A directive from behind its percent sign, and the place after its line. -/
def readDirective (p : Place) : Option (Directive × Place) := do
  let name := p.run isNameChar
  let next := p.skip name.length
  let value := next.skipRun isBlank
  if startsBlank next.rest then
    let (directive, next) ←
      if name = "YAML".toList then readVersion value
      else if name = "TAG".toList then readHandleMeaning value
      else none
    let next ← next.skipLine?
    some (directive, next)
  else none

end Optline.Yaml
