import Optline.Text.Blank
import Optline.Text.Cut

/-!
# Tokens

A specification and an invocation are lists of tokens, and both are read by the same few rules:
what looks like a flag, what looks like a number, and how a text falls into tokens.

* `isFlagLike` — `-x` is a flag, `-1` and `-` are data.
* `isIntegerText`, `isDecimalText`, `bool?` — the lexical classes of values.
* `stripBraces` — a text without its outer braces.
* `braceCutter`, `splitSpec` — a text cut at the blanks outside braces.
* `fullName` — an invocation written on one line.
-/

namespace Optline

/-! ## Lexical classes -/

/-- A minus followed by a character that is no digit. -/
def isFlagLike (token : String) : Bool :=
  match token.toList with
  | '-' :: c :: _ => !c.isDigit
  | _ => false

/-- The characters of a text after an optional minus. -/
def unsigned (token : String) : List Char :=
  match token.toList with
  | '-' :: cs => cs
  | cs => cs

/-- An optional minus and one or more digits. -/
def isIntegerText (token : String) : Bool :=
  let ds := unsigned token
  !ds.isEmpty && ds.all Char.isDigit

/-- An optional minus, then one or more digits with at most one point among them. -/
def isDecimalText (token : String) : Bool :=
  let ds := unsigned token
  ds.all (fun c => c == '.' || c.isDigit) && ds.count '.' ≤ 1 && ds.any Char.isDigit

/-- The truth value that a word names, whatever its case. -/
def bool? (token : String) : Option Bool :=
  let name := token.toList.map Char.toLower
  if name = "true".toList then some true
  else if name = "false".toList then some false
  else none

/-! ## Braces -/

/-- The characters of a text without blanks, any opening braces and any closing braces around it. -/
def stripBraceChars (cs : List Char) : List Char :=
  Text.trim (Text.dropTrailing (· == '}') (Text.dropLeading (· == '{') (Text.trim cs)))

/-- A text without its outer braces, and without the blanks outside and inside them. -/
def stripBraces (text : String) : String :=
  String.ofList (stripBraceChars text.toList)

/-- The number of open braces after a character.  A closing brace with none open is a character
like any other. -/
def braceDepth (depth : Nat) (c : Char) : Nat :=
  if c = '{' then depth + 1 else if c = '}' then depth - 1 else depth

/-- Cuts at the blanks that are outside all braces. -/
def braceCutter : Text.Cutter Nat where
  start := 0
  next := braceDepth
  cuts depth c := depth == 0 && Text.isBlank c

/-- The number of braces that are open at the end of a text. -/
def openBraces (text : String) : Nat :=
  braceCutter.after 0 text.toList

/-- The tokens of a specification text: its pieces between the blanks outside braces, so that a
group `{...}` is one token however many words it holds. -/
def splitSpec (text : String) : List String :=
  ((braceCutter.pieces 0 text.toList).filter (!·.isEmpty)).map String.ofList

/-! ## Writing an invocation -/

/-- A token as it is shown: in braces if it holds a space. -/
def shownToken (token : String) : String :=
  if token.toList.contains ' ' then "\x7b" ++ token ++ "\x7d" else token

/-- An invocation on one line. -/
def fullName (tokens : List String) : String :=
  Text.unwords (tokens.map shownToken)

end Optline
