/-!
# Quoted words

The words of a command line, read as a shell reads them.  Words are separated by spaces, tabs and
newlines only.  A single quote makes everything up to the next one literal.  Inside double quotes a
backslash escapes the four characters that mean something there and disappears together with a
newline; before any other character it is kept.  Outside quotes a backslash escapes whatever
follows it, disappears together with a newline, and is kept at the end of the text.  A `#` where a
word would begin starts a comment that runs to the end of its line.  After a closing quote the word
goes on, so two quotes with nothing between them are an empty word.

* `Place` — where a scan stands.
* `split?` — the words of a text, nothing if a quote is left open.
* `quotedWords?` — the same on `String`.

A scan inside a word gives the rest of that word as the head of its result; the recursion is on the
text, and nothing has to be carried along but the place.
-/

namespace Optline.Text

namespace Quoted

/-- Where a scan of a command line stands. -/
inductive Place where
  /-- Between words. -/
  | gap
  /-- After a backslash that stands where a word would begin. -/
  | gapEscape
  /-- Inside a comment. -/
  | comment
  /-- Inside a word and outside quotes. -/
  | word
  /-- After a backslash inside a word and outside quotes. -/
  | wordEscape
  /-- Between single quotes. -/
  | single
  /-- Between double quotes. -/
  | double
  /-- After a backslash between double quotes. -/
  | doubleEscape
  deriving DecidableEq, Repr

/-- The characters that separate words. -/
def isSeparator (c : Char) : Bool :=
  c == ' ' || c == '\t' || c == '\n'

/-- The characters that a backslash escapes between double quotes. -/
def isEscapable (c : Char) : Bool :=
  c == '$' || c == '\x60' || c == '"' || c == '\\'

/-- Puts a character in front of the first word. -/
def extend (c : Char) (ws : Option (List (List Char))) : Option (List (List Char)) :=
  ws.map (·.modifyHead (c :: ·))

/-- The words of the rest of a text from a given place. -/
def scan : Place → List Char → Option (List (List Char))
  | .gap, [] => some []
  | .gap, c :: cs =>
    if c = '\'' then scan .single cs
    else if c = '"' then scan .double cs
    else if c = '\\' then scan .gapEscape cs
    else if isSeparator c then scan .gap cs
    else if c = '#' then scan .comment cs
    else extend c (scan .word cs)
  | .gapEscape, [] => some [['\\']]
  | .gapEscape, c :: cs => if c = '\n' then scan .gap cs else extend c (scan .word cs)
  | .comment, [] => some []
  | .comment, c :: cs => if c = '\n' then scan .gap cs else scan .comment cs
  | .word, [] => some [[]]
  | .word, c :: cs =>
    if c = '\'' then scan .single cs
    else if c = '"' then scan .double cs
    else if c = '\\' then scan .wordEscape cs
    else if isSeparator c then (scan .gap cs).map ([] :: ·)
    else extend c (scan .word cs)
  | .wordEscape, [] => some [['\\']]
  | .wordEscape, c :: cs => if c = '\n' then scan .word cs else extend c (scan .word cs)
  | .single, [] => none
  | .single, c :: cs => if c = '\'' then scan .word cs else extend c (scan .single cs)
  | .double, [] => none
  | .double, c :: cs =>
    if c = '"' then scan .word cs
    else if c = '\\' then scan .doubleEscape cs
    else extend c (scan .double cs)
  | .doubleEscape, [] => none
  | .doubleEscape, c :: cs =>
    if c = '\n' then scan .double cs
    else if isEscapable c then extend c (scan .double cs)
    else extend '\\' (extend c (scan .double cs))

/-- The words of a text; nothing if a quote is left open at its end. -/
def split? (cs : List Char) : Option (List (List Char)) :=
  scan .gap cs

end Quoted

/-- The words of a command line; nothing if a quote is left open at its end. -/
def quotedWords? (line : String) : Option (List String) :=
  (Quoted.split? line.toList).map (·.map String.ofList)

end Optline.Text
