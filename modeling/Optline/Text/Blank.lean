/-!
# Blanks, trimming and words

A blank is a character with the Unicode property `White_Space`.  Everything in this library that
trims a text or cuts it into words uses this one class, so a no-break space separates words just
as an ordinary space does, and a zero-width space does not.

* `isBlank` — the class, as a table of the property.
* `trimmed`, `trimmedStart`, `trimmedEnd` — a text without its outer blanks.
* `words` — the maximal runs of characters that are not blank.
* `unwords` — words joined by single spaces.
-/

namespace Optline.Text

/-! ## The class -/

/-- The characters with the property `White_Space`. -/
def isBlank (c : Char) : Bool :=
  let n := c.toNat
  (0x09 ≤ n && n ≤ 0x0D) || n == 0x20 || n == 0x85 || n == 0xA0 || n == 0x1680
    || (0x2000 ≤ n && n ≤ 0x200A) || n == 0x2028 || n == 0x2029 || n == 0x202F || n == 0x205F
    || n == 0x3000

/-! ## Trimming -/

/-- The characters of a text after its leading run of characters in the class `p`. -/
def dropLeading (p : Char → Bool) (cs : List Char) : List Char :=
  cs.dropWhile p

/-- The characters of a text before its trailing run of characters in the class `p`. -/
def dropTrailing (p : Char → Bool) (cs : List Char) : List Char :=
  (cs.reverse.dropWhile p).reverse

/-- The characters of a text without its outer blanks. -/
def trim (cs : List Char) : List Char :=
  dropTrailing isBlank (dropLeading isBlank cs)

/-- A text without its leading blanks. -/
def trimmedStart (s : String) : String :=
  String.ofList (dropLeading isBlank s.toList)

/-- A text without its trailing blanks. -/
def trimmedEnd (s : String) : String :=
  String.ofList (dropTrailing isBlank s.toList)

/-- A text without its outer blanks. -/
def trimmed (s : String) : String :=
  String.ofList (trim s.toList)

/-- Whether a text holds nothing but blanks. -/
def isBlankText (s : String) : Bool :=
  s.toList.all isBlank

/-! ## Words -/

/-- The non-empty pieces of a text between the characters of the class `p`. -/
def fields (p : Char → Bool) (s : String) : List String :=
  ((s.toList.splitOnP p).filter (!·.isEmpty)).map String.ofList

/-- The words of a text: its maximal runs of characters that are not blank. -/
def words (s : String) : List String :=
  fields isBlank s

/-- Words joined by single spaces. -/
def unwords (ws : List String) : String :=
  " ".intercalate ws

end Optline.Text
