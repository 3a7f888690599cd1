import Optline.Document.Yaml.Token.Lexer

/-!
# Reading YAML

The tokens of a text determine its nodes.  A node can be left out wherever the next token cannot
begin one.

* `TagTable` — what the handles of tags stand for.
* `Site` — where a node stands.
* `readNode` — the node at the front of the tokens.
* `rootOfTokens?` — the node that all the tokens of a text stand for.
* `read?` — the document of a text.

Nodes are read with fuel.  Each call takes one unit, and a chain of calls that takes no token has
at most three of them: one for the items, one for a place that can be empty, and one for a node.
-/

namespace Optline.Yaml

/-! ## Properties -/

/-- What the handles of tags stand for. -/
abbrev TagTable := List (String × String)

/-- The handles that need no directive. -/
def standardTags : TagTable :=
  [("!", "!"), ("!!", "tag:yaml.org,2002:")]

/-- The whole of a tag; a tag without a handle is whole. -/
def TagTable.resolve? (table : TagTable) (handle suffix : String) : Option String :=
  if handle = "" then some suffix else (table.lookup handle).map (· ++ suffix)

/-- What stands in front of a node. -/
structure Properties where
  name : Option String := none
  tag : Option String := none
  deriving DecidableEq, Repr

/-- Whether nothing stands there. -/
def Properties.isEmpty (p : Properties) : Bool :=
  p.name.isNone && p.tag.isNone

/-- The properties at the front of the tokens, each at most once, in either order. -/
def readProperties (table : TagTable) : List Token → Option (Properties × List Token)
  | .name name :: .tag handle suffix :: ts =>
    (table.resolve? handle suffix).map fun tag => (⟨some name, some tag⟩, ts)
  | .tag handle suffix :: .name name :: ts =>
    (table.resolve? handle suffix).map fun tag => (⟨some name, some tag⟩, ts)
  | .name name :: ts => some (⟨some name, none⟩, ts)
  | .tag handle suffix :: ts =>
    (table.resolve? handle suffix).map fun tag => (⟨none, some tag⟩, ts)
  | ts => some ({}, ts)

/-- A node with the name that stands in front of it. -/
def Properties.bind (p : Properties) (node : Yaml String) : Yaml String :=
  match p.name with
  | none => node
  | some name => .named name node

/-! ## Nodes -/

/-- Where a node stands. -/
inductive Site where
  /-- Between brackets. -/
  | flow
  /-- In a block sequence, or at the top of a document. -/
  | item
  /-- In a block mapping, where the items of a sequence may stand in the column of the keys. -/
  | entry
  deriving DecidableEq, Repr

/-- The tokens that follow where the parts of a flow structure are separated: all of them before
the first part, and those behind a comma before any other. -/
def separated? (isFirst : Bool) (ts : List Token) : Option (List Token) :=
  if isFirst then some ts
  else
    match ts with
    | .flowEntry :: ts => some ts
    | _ => none

mutual

/-- The node at the front of the tokens, and the tokens after it. -/
def readNode (table : TagTable) (fuel : Nat) (site : Site) (ts : List Token) :
    Option (Yaml String × List Token) :=
  match fuel with
  | 0 => none
  | fuel + 1 =>
    match ts with
    | .reference name :: ts => some (.reference name, ts)
    | ts =>
      match readProperties table ts with
      | none => none
      | some (p, ts) =>
        let node? : Option (Yaml String × List Token) :=
          match site, ts with
          | .entry, .blockEntry :: _ =>
            (readSharedItems table fuel ts).map fun (items, ts) => (.sequence items, ts)
          | _, .scalar text style :: ts => some (.scalar text style p.tag, ts)
          | _, .flowSequenceStart :: ts =>
            (readFlowItems table fuel true ts).map fun (items, ts) => (.sequence items, ts)
          | _, .flowMappingStart :: ts =>
            (readFlowEntries table fuel true ts).map fun (entries, ts) => (.mapping entries, ts)
          | .item, .blockSequenceStart :: ts | .entry, .blockSequenceStart :: ts =>
            (readItems table fuel ts).map fun (items, ts) => (.sequence items, ts)
          | .item, .blockMappingStart :: ts | .entry, .blockMappingStart :: ts =>
            (readEntries table fuel ts).map fun (entries, ts) => (.mapping entries, ts)
          | _, ts => if p.isEmpty then none else some (.scalar "" .plain p.tag, ts)
        node?.map fun (node, ts) => (p.bind node, ts)
  termination_by structural fuel

/-- The node at the front of the tokens, or a blank one before certain tokens and the last one. -/
def readNodeBefore (table : TagTable) (fuel : Nat) (ends : List Token) (site : Site)
    (ts : List Token) : Option (Yaml String × List Token) :=
  match fuel with
  | 0 => none
  | fuel + 1 =>
    if ts.head?.any ends.contains then some (blank, ts) else readNode table fuel site ts
  termination_by structural fuel

/-- The items of a block sequence up to its end. -/
def readItems (table : TagTable) (fuel : Nat) (ts : List Token) :
    Option (List (Yaml String) × List Token) :=
  match fuel with
  | 0 => none
  | fuel + 1 =>
    match ts with
    | .blockEntry :: ts => do
      let (item, ts) ← readNodeBefore table fuel [.blockEntry, .blockEnd] .item ts
      let (items, ts) ← readItems table fuel ts
      pure (item :: items, ts)
    | .blockEnd :: ts => some ([], ts)
    | _ => none
  termination_by structural fuel

/-- The items of a sequence in the column of the keys around it, which has no end of its own. -/
def readSharedItems (table : TagTable) (fuel : Nat) (ts : List Token) :
    Option (List (Yaml String) × List Token) :=
  match fuel with
  | 0 => none
  | fuel + 1 =>
    match ts with
    | .blockEntry :: ts => do
      let (item, ts) ← readNodeBefore table fuel [.blockEntry, .key, .value, .blockEnd] .item ts
      let (items, ts) ← readSharedItems table fuel ts
      pure (item :: items, ts)
    | ts => some ([], ts)
  termination_by structural fuel

/-- The entries of a block mapping up to its end. -/
def readEntries (table : TagTable) (fuel : Nat) (ts : List Token) :
    Option (List (Yaml String × Yaml String) × List Token) :=
  match fuel with
  | 0 => none
  | fuel + 1 =>
    match ts with
    | .key :: ts => do
      let ends := [.key, .value, .blockEnd]
      let (key, ts) ← readNodeBefore table fuel ends .entry ts
      let (value, ts) ← readValue table fuel ends .entry ts
      let (entries, ts) ← readEntries table fuel ts
      pure ((key, value) :: entries, ts)
    | .blockEnd :: ts => some ([], ts)
    | _ => none
  termination_by structural fuel

/-- The value behind a key, which is blank where there is no colon. -/
def readValue (table : TagTable) (fuel : Nat) (ends : List Token) (site : Site)
    (ts : List Token) : Option (Yaml String × List Token) :=
  match fuel with
  | 0 => none
  | fuel + 1 =>
    match ts with
    | .value :: ts => readNodeBefore table fuel ends site ts
    | ts => some (blank, ts)
  termination_by structural fuel

/-- The items of a flow sequence up to its closing bracket.  An item can be a mapping of one entry
without brackets; where its key is left out, the token behind the question mark is lost. -/
def readFlowItems (table : TagTable) (fuel : Nat) (isFirst : Bool) (ts : List Token) :
    Option (List (Yaml String) × List Token) :=
  match fuel with
  | 0 => none
  | fuel + 1 =>
    match ts with
    | .flowSequenceEnd :: ts => some ([], ts)
    | ts => do
      match ← separated? isFirst ts with
      | .flowSequenceEnd :: ts => some ([], ts)
      | .key :: ts =>
        let ends := [.flowEntry, .flowSequenceEnd]
        let isLeftOut := ts.head?.any (Token.value :: ends).contains
        let (key, ts) ← if isLeftOut then some (blank, ts.tail) else readNode table fuel .flow ts
        let (value, ts) ← readValue table fuel ends .flow ts
        let (items, ts) ← readFlowItems table fuel false ts
        pure (.mapping [(key, value)] :: items, ts)
      | ts =>
        let (item, ts) ← readNode table fuel .flow ts
        let (items, ts) ← readFlowItems table fuel false ts
        pure (item :: items, ts)
  termination_by structural fuel

/-- The entries of a flow mapping up to its closing bracket.  A node that is no key has no value. -/
def readFlowEntries (table : TagTable) (fuel : Nat) (isFirst : Bool) (ts : List Token) :
    Option (List (Yaml String × Yaml String) × List Token) :=
  match fuel with
  | 0 => none
  | fuel + 1 =>
    match ts with
    | .flowMappingEnd :: ts => some ([], ts)
    | ts => do
      match ← separated? isFirst ts with
      | .flowMappingEnd :: ts => some ([], ts)
      | .key :: ts =>
        let ends := [.flowEntry, .flowMappingEnd]
        let (key, ts) ← readNodeBefore table fuel (.value :: ends) .flow ts
        let (value, ts) ← readValue table fuel ends .flow ts
        let (entries, ts) ← readFlowEntries table fuel false ts
        pure ((key, value) :: entries, ts)
      | ts =>
        let (key, ts) ← readNode table fuel .flow ts
        let (entries, ts) ← readFlowEntries table fuel false ts
        pure ((key, blank) :: entries, ts)
  termination_by structural fuel

end

/-! ## Documents -/

/-- A directive, if the token is one. -/
def Token.directive? : Token → Option Directive
  | .directive d => some d
  | _ => none

/-- The version of a directive. -/
def Directive.version? : Directive → Option (Nat × Nat)
  | .version major minor => some (major, minor)
  | .handle .. => none

/-- What a directive says a handle stands for. -/
def Directive.handle? : Directive → Option (String × String)
  | .version .. => none
  | .handle name stem => some (name, stem)

/-- What handles stand for under directives.  The version can be given once, and so can the meaning
of each handle. -/
def TagTable.ofDirectives? (ds : List Directive) : Option TagTable :=
  let versions := ds.filterMap Directive.version?
  let handles := ds.filterMap Directive.handle?
  if versions.length ≤ 1 ∧ (∀ v ∈ versions, v = (1, 1) ∨ v = (1, 2)) ∧ (handles.map (·.1)).Nodup
  then some (handles ++ standardTags)
  else none

/-- The node of a document that is announced by directives and hyphens. -/
def readAnnounced (fuel : Nat) (ts : List Token) : Option (Yaml String × List Token) := do
  let ds := ts.takeWhile (·.directive?.isSome)
  let table ← TagTable.ofDirectives? (ds.filterMap Token.directive?)
  match ts.drop ds.length with
  | .documentStart :: ts =>
    match ts with
    | [] | .directive _ :: _ | .documentStart :: _ | .documentEnd :: _ => some (blank, ts)
    | ts => readNode table fuel .item ts
  | _ => none

/-- The node that the tokens of a text stand for.  The text holds one document, and nothing but
points may stand behind it. -/
def rootOfTokens? (ts : List Token) : Option (Yaml String) := do
  let fuel := 3 * ts.length + 3
  let (root, rest) ←
    match ts with
    | [] => some (blank, [])
    | .directive _ :: _ | .documentStart :: _ => readAnnounced fuel ts
    | ts => readNode standardTags fuel .item ts
  if rest.all (· == .documentEnd) then some root else none

/-- The document that a text holds. -/
def read? (text : String) : Option YamlDocument := do
  let cs := text.toList
  if cs.all isAllowed then
    let tokens ← Token.list? (unifyBreaks cs)
    let root ← rootOfTokens? tokens
    YamlDocument.ofTree? root
  else none

end Optline.Yaml
