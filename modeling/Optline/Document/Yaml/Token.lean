import Optline.Document.Yaml
import Optline.Document.Yaml.Tag

/-!
# YAML tokens

A text is first cut into tokens.  The start and the end of a block structure, which are not written
but follow from the columns of what is, get tokens like those for brackets, so that the tokens alone
determine the nodes.

* `Token` — the tokens.
-/

namespace Optline.Yaml

/-- A token. -/
inductive Token where
  | directive (directive : Directive)
  /-- Three hyphens before a document. -/
  | documentStart
  /-- Three points after a document. -/
  | documentEnd
  | blockSequenceStart
  | blockMappingStart
  | blockEnd
  | flowSequenceStart
  | flowSequenceEnd
  | flowMappingStart
  | flowMappingEnd
  /-- The hyphen before an item. -/
  | blockEntry
  /-- The comma between two items or entries. -/
  | flowEntry
  /-- What stands before a key, whether it is written or not. -/
  | key
  /-- The colon before a value. -/
  | value
  | reference (name : String)
  /-- The name that is given to the node that follows. -/
  | name (name : String)
  | tag (handle suffix : String)
  | scalar (text : String) (style : YamlStyle)
  deriving DecidableEq, Repr

end Optline.Yaml
