import Optline.Notice
import Optline.Token

/-!
# Constraints

The words after a flag in a specification say which values the option takes.  They are read once,
into a small form, and matching looks at that form alone.

| text | meaning |
|---|---|
| nothing | no value |
| `{...}` | exactly this text, however it is cut into words |
| `<string>` alone | any words that are not all blank |
| `a\|b\|c` alone | every word is one of these; no word at all passes |
| anything else | as many words as the text has, each checked against its own slot |

* `ValueType`, `Slot`, `Constraint` — the form.
* `Constraint.read` — from text to form, with the notices that arise on the way.
* `Constraint.compile` — the form alone.
* `Constraint.accepts` — whether a run of words satisfies a constraint.
-/

namespace Optline

/-! ## The form -/

/-- The type named by a placeholder `<...>`. -/
inductive ValueType where
  | int
  | double
  /-- The same words as `double`, read back with less precision. -/
  | float
  | string
  /-- A name that is no type; it accepts anything. -/
  | unknown (name : String)
  deriving DecidableEq, Repr

/-- One position of a constraint of several words. -/
inductive Slot where
  /-- A value of a type. -/
  | typed (type : ValueType)
  /-- One of the spellings. -/
  | literal (spellings : List String)
  deriving DecidableEq, Repr

/-- What a run of words after a flag has to satisfy. -/
inductive Constraint where
  /-- No words. -/
  | empty
  /-- Words that make up this text once outer braces are taken off. -/
  | literal (text : String)
  /-- Words that are not all blank. -/
  | anyString
  /-- Only words from this list. -/
  | enumeration (spellings : List String)
  /-- One word for each slot. -/
  | sequence (slots : List Slot)
  /-- Nothing satisfies it. -/
  | malformed
  deriving DecidableEq, Repr

/-! ## Reading -/

/-- The name inside a placeholder `<...>`. -/
def placeholderName? (word : String) : Option String :=
  match word.toList with
  | '<' :: cs => if cs.getLast? = some '>' then some (String.ofList cs.dropLast) else none
  | _ => none

/-- The type that a name stands for. -/
def ValueType.ofName (name : String) : ValueType :=
  if name = "int" then .int
  else if name = "double" then .double
  else if name = "float" then .float
  else if name = "string" then .string
  else .unknown name

/-- The spellings that a word allows: its non-empty parts between bars. -/
def spellings (word : String) : List String :=
  Text.fields (· == '|') word

/-- The slot that a word stands for. -/
def Slot.ofWord (word : String) : Slot :=
  match placeholderName? word with
  | some name => .typed (.ofName name)
  | none => .literal (spellings word)

/-- The notice that a slot of a constraint gives rise to. -/
def Slot.notice? (constraint : String) : Slot → Option Notice
  | .typed (.unknown name) => some (.unknownType name constraint)
  | _ => none

/-- Reads the words of a constraint `text`, which is trimmed, not empty and starts with no brace.
A word that stands alone is a list of spellings unless it is a placeholder with a name in it. -/
def Constraint.ofWords (text : String) : List String → Constraint × List Notice
  | [word] =>
    if word = "<string>" then (.anyString, [])
    else if (placeholderName? word).any (· ≠ "") then
      (.sequence [.ofWord word], (Slot.ofWord word).notice? text |>.toList)
    else (.enumeration (spellings word), [])
  | words =>
    let slots := words.map Slot.ofWord
    (.sequence slots, slots.filterMap (Slot.notice? text))

/-- Reads the text of a constraint. -/
def Constraint.read (raw : String) : Constraint × List Notice :=
  let text := Text.trimmed raw
  match text.toList with
  | [] => (.empty, [])
  | '{' :: cs =>
    if cs.getLast? = some '}' then (.literal (stripBraces text), [])
    else (.malformed, [.openConstraint text])
  | _ => Constraint.ofWords text (Text.words text)

/-- The constraint that a text stands for. -/
def Constraint.compile (raw : String) : Constraint :=
  (Constraint.read raw).1

/-! ## Matching -/

/-- Whether a word is a value of a type. -/
def ValueType.accepts (word : String) : ValueType → Bool
  | .int => isIntegerText word
  | .double | .float => isDecimalText word
  | .string => word ≠ ""
  | .unknown _ => true

/-- Whether a word fits a slot. -/
def Slot.accepts (word : String) : Slot → Bool
  | .typed type => type.accepts word
  | .literal spellings => spellings.contains word

/-- Whether a run of words satisfies a constraint. -/
def Constraint.accepts (words : List String) : Constraint → Bool
  | .empty => words.isEmpty
  | .literal text => stripBraces (Text.unwords words) = text
  | .anyString => !Text.isBlankText (Text.unwords words)
  | .enumeration spellings => words.all spellings.contains
  | .sequence slots =>
    words.length = slots.length && (words.zip slots).all fun (word, slot) => slot.accepts word
  | .malformed => false

end Optline
