import Optline.Builtin
import Optline.Document.Json.Reader
import Optline.Document.Yaml.Reader

/-!
# Manifests

A manifest declares further commands and sets what commands are measured by.  It is a JSON or YAML
document with a few fixed fields, read strictly: a field that does not exist, a field that is given
twice and a value of the wrong kind are errors.

* `Manifest`, `ManifestCommand` — the content.
* `Format` — how the values of a document are read, for JSON and for YAML.
* `Manifest.decode` — the manifest that a document holds.
* `Manifest.load` — the manifest that a file holds.
* `Manifest.registry` — the built-in commands and those of the manifest.
-/

namespace Optline

/-! ## Content -/

/-- A command that a manifest declares. -/
structure ManifestCommand where
  name : String
  spec : String := ""
  /-- The name of the handler that it is bound to. -/
  handler : Option String := none
  deriving DecidableEq, Repr

/-- What a manifest says. -/
structure Manifest where
  /-- Whether commands are reported. -/
  profile : Option Bool := none
  /-- The noise floor, in milliseconds. -/
  noiseFloor : Option Nat := none
  /-- The time between two memory samples, in milliseconds. -/
  sampleInterval : Option Nat := none
  commands : List ManifestCommand := []
  deriving DecidableEq, Repr

/-! ## Decoding -/

/-- How the values of a document format are read.  Each reader gives nothing for a value of another
kind; the optional ones give `some none` for a null. -/
structure Format (δ : Type) where
  optionalBool : δ → Option (Option Bool)
  optionalNat : δ → Option (Option Nat)
  text : δ → Option String
  optionalText : δ → Option (Option String)
  items : δ → Option (List δ)
  /-- The fields of a record whose fields have these names in this order. -/
  fields : List String → δ → Option (List (String × δ))

/-- The natural numbers that a field can hold. -/
def isWord (n : Nat) : Bool :=
  n < Decimal.wordCount

/-- The value of a field, or a default where the field is not given. -/
def fieldOr {α δ : Type} (value : α) (read : δ → Option α) (fields : List (String × δ))
    (name : String) : Option α :=
  match fields.lookup name with
  | some v => read v
  | none => some value

/-- Whether fields have one of the given names each and no name twice. -/
def areFields {δ : Type} (names : List String) (fields : List (String × δ)) : Bool :=
  fields.all (fun f => names.contains f.1) && decide (fields.map (·.1)).Nodup

namespace Format

/-- The fields of a record, if they have the right names. -/
def record {δ : Type} (f : Format δ) (names : List String) (v : δ) :
    Option (List (String × δ)) :=
  (f.fields names v).filter (areFields names)

/-- Reads a command. -/
def command {δ : Type} (f : Format δ) (v : δ) : Option ManifestCommand := do
  let fields ← f.record ["name", "spec", "handler"] v
  let name ← (fields.lookup "name").bind f.text
  let spec ← fieldOr "" f.text fields "spec"
  let handler ← fieldOr none f.optionalText fields "handler"
  pure { name, spec, handler }

/-- Reads a manifest. -/
def manifest {δ : Type} (f : Format δ) (v : δ) : Option Manifest := do
  let fields ← f.record ["profile", "noise_floor_ms", "sample_interval_ms", "commands"] v
  let profile ← fieldOr none f.optionalBool fields "profile"
  let noiseFloor ← fieldOr none f.optionalNat fields "noise_floor_ms"
  let sampleInterval ← fieldOr none f.optionalNat fields "sample_interval_ms"
  let commands ← fieldOr [] (fun v => (f.items v).bind (·.mapM f.command)) fields "commands"
  pure { profile, noiseFloor, sampleInterval, commands }

end Format

/-! ### JSON -/

/-- The natural number that the text of a JSON number stands for, if it is written without sign,
point and exponent. -/
def Json.word? (text : String) : Option Nat :=
  let ds := text.toList
  if ds.all Char.isDigit then (some (Decimal.digitsValue ds)).filter isWord else none

/-- Reads the values of a JSON document.  A record may also be an array of its first fields in their
order. -/
def Format.json : Format Json where
  optionalBool
    | .null => some none
    | .bool b => some (some b)
    | _ => none
  optionalNat
    | .null => some none
    | .number text => (Json.word? text).map some
    | _ => none
  text
    | .string s => some s
    | _ => none
  optionalText
    | .null => some none
    | .string s => some (some s)
    | _ => none
  items
    | .array items => some items
    | _ => none
  fields names
    | .object members => some members
    | .array items => if items.length ≤ names.length then some (names.zip items) else none
    | _ => none

/-! ### YAML -/

namespace Yaml

/-- The truth value that a plain scalar stands for. -/
def bool? (text : String) : Option Bool :=
  if ["true", "True", "TRUE"].contains text then some true
  else if ["false", "False", "FALSE"].contains text then some false
  else none

/-- Whether a plain scalar is a word for nothing. -/
def isNullText (text : String) : Bool :=
  ["~", "null", "Null", "NULL"].contains text

/-- The value of digits in a base, if there are any. -/
def digitsIn? (base : Nat) (ds : List Char) : Option Nat :=
  if ds.isEmpty then none
  else
    ds.foldlM (fun n d =>
      (Json.hexValue? d).bind fun v => if v < base then some (base * n + v) else none) 0

/-- The natural number that a plain scalar stands for: decimal digits, or digits behind `0x`, `0o`
or `0b`, perhaps behind a plus.  Decimal digits behind a zero are a text. -/
def word? (text : String) : Option Nat :=
  let cs :=
    match text.toList with
    | '+' :: cs => cs
    | cs => cs
  let value :=
    match cs with
    | '0' :: 'x' :: ds => digitsIn? 16 ds
    | '0' :: 'o' :: ds => digitsIn? 8 ds
    | '0' :: 'b' :: ds => digitsIn? 2 ds
    | '0' :: d :: ds => if (d :: ds).all Char.isDigit then none else digitsIn? 10 (d :: ds)
    | ds => digitsIn? 10 ds
  value.filter isWord

/-- The tag of a kind of value. -/
def kindTag (kind : String) : String :=
  "tag:yaml.org,2002:" ++ kind

/-- Reads a value of a kind that is no text: a plain scalar, or a literal block with the tag of the
kind. -/
def ofKind? {α : Type} (kind : String) (read : String → Option α) : Yaml Nat → Option α
  | .scalar text .plain _ => read text
  | .scalar text .literal (some tag) => if tag = kindTag kind then read text else none
  | _ => none

/-- The text of a scalar. -/
def text? : Yaml Nat → Option String
  | .scalar text _ _ => some text
  | _ => none

/-- Whether a node is left out. -/
def isLeftOut : Yaml Nat → Bool
  | .scalar text style _ => text == "" && style == .plain
  | _ => false

/-- Reads a value in whose place a plain scalar can stand that means none.  A scalar with the tag of
those has to be one of them, and under another tag it means none no longer. -/
def optional {α : Type} (read : Yaml Nat → Option α) (node : Yaml Nat) : Option (Option α) :=
  match node with
  | .scalar text .plain none =>
    if text = "" ∨ isNullText text = true then some none else (read node).map some
  | .scalar text .plain (some tag) =>
    if tag = kindTag "null" then if isNullText text then some none else none
    else (read node).map some
  | _ => (read node).map some

end Yaml

/-- Reads the values of a YAML document.  A value that is left out counts as an empty sequence or
record, and every scalar is a text. -/
def Format.yaml (d : YamlDocument) : Format (Yaml Nat) where
  optionalBool v := Yaml.optional (Yaml.ofKind? "bool" Yaml.bool?) (d.target v)
  optionalNat v := Yaml.optional (Yaml.ofKind? "int" Yaml.word?) (d.target v)
  text v := (d.target v).text?
  optionalText v := Yaml.optional Yaml.text? (d.target v)
  items v :=
    match d.target v with
    | .sequence items => some items
    | node => if node.isLeftOut then some [] else none
  fields _ v :=
    match d.target v with
    | .mapping entries =>
      entries.mapM fun (key, value) => (d.target key).text?.map fun name => (name, value)
    | node => if node.isLeftOut then some [] else none

/-! ## Files -/

/-- Why a file cannot be read as text. -/
inductive FileError where
  | missing
  | isDirectory
  | notDirectory
  /-- A name on the way is longer than any file's can be. -/
  | nameTooLong
  /-- The path has a zero in it, where the system takes it to end. -/
  | zeroInPath
  /-- Its bytes are no UTF-8. -/
  | notText
  /-- Any other reason, in the words of the system. -/
  | other (reason : String)
  deriving DecidableEq, Repr

/-- The wording of a file error. -/
def FileError.message : FileError → String
  | .missing => "No such file or directory (os error 2)"
  | .isDirectory => "Is a directory (os error 21)"
  | .notDirectory => "Not a directory (os error 20)"
  | .nameTooLong => "File name too long (os error 36)"
  | .zeroInPath => "file name contained an unexpected NUL byte"
  | .notText => "stream did not contain valid UTF-8"
  | .other reason => reason

/-- What a program sees of the files around it. -/
abbrev Files := String → Except FileError ByteArray

/-- The text of a file. -/
def Files.text (files : Files) (path : String) : Except FileError String :=
  match files path with
  | .error e => .error e
  | .ok bytes =>
    match String.fromUTF8? bytes with
    | some text => .ok text
    | none => .error .notText

/-- The part of a file's name after its last point, unless that point is its first character. -/
def extension? (path : String) : Option String :=
  let parts := (path.toList.splitOn '/').filter fun p => p ≠ [] && p ≠ ['.']
  match parts.getLast? with
  | none => none
  | some name =>
    let tail := name.reverse.takeWhile (· ≠ '.')
    if name = ['.', '.'] ∨ name.length ≤ tail.length + 1 then none
    else some (String.ofList tail.reverse)

/-- Whether a file is read as YAML. -/
def isYamlPath (path : String) : Bool :=
  match extension? path with
  | some e => ["yaml".toList, "yml".toList].contains (e.toList.map Char.toLower)
  | none => false

/-- Why there is no manifest to work with. -/
inductive ManifestError where
  /-- The file cannot be read. -/
  | unreadable (path : String) (reason : FileError)
  /-- The file holds no manifest in JSON. -/
  | notJson
  /-- The file holds no manifest in YAML. -/
  | notYaml
  /-- A command has no name. -/
  | emptyName (index : Nat)
  /-- A command names a handler that does not exist. -/
  | unknownHandler (command handler : String)
  /-- A command cannot be registered. -/
  | unregistrable (reason : RegistrationError)
  deriving DecidableEq, Repr

/-- A manifest error as it is reported. -/
def ManifestError.fault : ManifestError → Fault
  | .unreadable path reason =>
    Fault.within ⟨reason.message, []⟩ ("failed to read manifest: " ++ path)
  | .notJson => ⟨"failed to parse JSON manifest", []⟩
  | .notYaml => ⟨"failed to parse YAML manifest", []⟩
  | .emptyName index => ⟨"manifest entry #" ++ toString index ++ " has an empty command name", []⟩
  | .unknownHandler command handler =>
    ⟨"command '" ++ command ++ "' names unknown handler '" ++ handler ++ "' (known: "
      ++ ", ".intercalate handlerNames ++ ")", []⟩
  | .unregistrable reason => ⟨reason.message, []⟩

/-- The manifest that a text holds. -/
def Manifest.parse (isYaml : Bool) (text : String) : Except ManifestError Manifest :=
  if isYaml then
    match (Yaml.read? text).bind fun d => (Format.yaml d).manifest d.root with
    | some m => .ok m
    | none => .error .notYaml
  else
    match (Json.read? text).bind Format.json.manifest with
    | some m => .ok m
    | none => .error .notJson

/-- The manifest that a file holds. -/
def Manifest.load (files : Files) (path : String) : Except ManifestError Manifest :=
  match files.text path with
  | .error reason => .error (.unreadable path reason)
  | .ok text => Manifest.parse (isYamlPath path) text

/-! ## Registration -/

/-- The handler of commands that name none. -/
def defaultHandler : String := "describe"

/-- Registers the command that a manifest declares as number `index`. -/
def ManifestCommand.register (c : ManifestCommand) (index : Nat) (r : Registry Handler) :
    Except ManifestError (Registry Handler × List Notice) :=
  let name := Text.trimmed c.name
  if name = "" then .error (.emptyName index)
  else
    let handlerName := c.handler.getD defaultHandler
    match handler? handlerName with
    | none => .error (.unknownHandler name handlerName)
    | some handler =>
      match r.register name c.spec handler with
      | .ok result => .ok result
      | .error reason => .error (.unregistrable reason)

/-- Registers commands, the first of which a manifest declares as number `index`. -/
def registerAll (index : Nat) (r : Registry Handler) :
    List ManifestCommand → Except ManifestError (Registry Handler × List Notice)
  | [] => .ok (r, [])
  | c :: rest =>
    match c.register index r with
    | .error e => .error e
    | .ok (r', notices) =>
      (registerAll (index + 1) r' rest).map fun (last, more) => (last, notices ++ more)

/-- The built-in commands and then those of the manifest in their order, with the notices that
arise on the way. -/
def Manifest.registry (m : Manifest) : Except ManifestError (Registry Handler × List Notice) :=
  registerAll 0 builtinRegistry m.commands

end Optline
