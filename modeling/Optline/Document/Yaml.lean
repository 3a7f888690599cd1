/-!
# YAML nodes

A document is a tree of nodes.  A scalar keeps its text, how it was written and its tag: what a
plain `true` or `~` means is for its reader to say.  A node may be given a name, and a reference
stands for the node of a name.

* `Yaml` — the nodes, over any type of names.
* `Yaml.blank` — the node that stands where nothing is written.
* `Yaml.number?` — the same tree with names replaced by numbers.
* `YamlDocument`, `YamlDocument.target` — a tree whose references can be followed.

**Names and numbers.**  When a node is given a name, the name gets as its number the count of the
names known by then, and from there on stands for that number.  A name that is given again is
counted among the known ones, so two nodes can come to have one number.  A number stands for the
last node that has it, wherever in the document the reference is.
-/

namespace Optline

/-! ## Nodes -/

/-- How a scalar was written. -/
inductive YamlStyle where
  | plain
  /-- Between single or double quotes. -/
  | quoted
  /-- As a block whose line breaks are kept. -/
  | literal
  /-- As a block whose lines are joined. -/
  | folded
  deriving DecidableEq, Repr

/-- A node of a YAML document. -/
inductive Yaml (ν : Type) where
  /-- A text. -/
  | scalar (text : String) (style : YamlStyle) (tag : Option String)
  | sequence (items : List (Yaml ν))
  | mapping (entries : List (Yaml ν × Yaml ν))
  /-- A node that is given a name. -/
  | named (name : ν) (node : Yaml ν)
  /-- The node of a name. -/
  | reference (name : ν)
  deriving Repr, Inhabited

namespace Yaml

/-- What stands where a node is left out. -/
def blank {ν : Type} : Yaml ν :=
  .scalar "" .plain none

/-! ## Numbers for names -/

/-- The names known so far, with what they stand for. -/
abbrev Names := List (String × Nat)

/-- The number that a name gets, and the names known from there on. -/
def Names.give (names : Names) (name : String) : Nat × Names :=
  let n := names.length
  (n, (name, n) :: names.filter (·.1 ≠ name))

mutual

/-- A node with numbers for its names; nothing if a reference is to a name that is not known. -/
def number? (names : Names) : Yaml String → Option (Yaml Nat × Names)
  | .scalar text style tag => some (.scalar text style tag, names)
  | .sequence items => (numberItems? names items).map fun (items, names) => (.sequence items, names)
  | .mapping entries =>
    (numberEntries? names entries).map fun (entries, names) => (.mapping entries, names)
  | .named name node =>
    let (n, names) := names.give name
    (number? names node).map fun (node, names) => (.named n node, names)
  | .reference name => (names.lookup name).map fun n => (.reference n, names)

/-- The items of a sequence with numbers for their names. -/
def numberItems? (names : Names) : List (Yaml String) → Option (List (Yaml Nat) × Names)
  | [] => some ([], names)
  | item :: rest =>
    match number? names item with
    | none => none
    | some (item, names) =>
      (numberItems? names rest).map fun (rest, names) => (item :: rest, names)

/-- The entries of a mapping with numbers for their names. -/
def numberEntries? (names : Names) :
    List (Yaml String × Yaml String) → Option (List (Yaml Nat × Yaml Nat) × Names)
  | [] => some ([], names)
  | (key, value) :: rest =>
    match number? names key with
    | none => none
    | some (key, names) =>
      match number? names value with
      | none => none
      | some (value, names) =>
        (numberEntries? names rest).map fun (rest, names) => ((key, value) :: rest, names)

end

mutual

/-- The nodes that are given names, in the order in which they begin. -/
def bindings : Yaml Nat → List (Nat × Yaml Nat)
  | .scalar .. => []
  | .sequence items => itemBindings items
  | .mapping entries => entryBindings entries
  | .named n node => (n, node) :: bindings node
  | .reference _ => []

/-- The named nodes of the items of a sequence. -/
def itemBindings : List (Yaml Nat) → List (Nat × Yaml Nat)
  | [] => []
  | item :: rest => bindings item ++ itemBindings rest

/-- The named nodes of the entries of a mapping. -/
def entryBindings : List (Yaml Nat × Yaml Nat) → List (Nat × Yaml Nat)
  | [] => []
  | (key, value) :: rest => bindings key ++ bindings value ++ entryBindings rest

end

end Yaml

/-! ## Documents -/

/-- A document whose references can be followed. -/
structure YamlDocument where
  root : Yaml Nat
  /-- The named nodes, the last one first. -/
  bindings : List (Nat × Yaml Nat)

/-- The document of a tree, unless a reference is to a name that is not known. -/
def YamlDocument.ofTree? (tree : Yaml String) : Option YamlDocument :=
  (Yaml.number? [] tree).map fun (root, _) => ⟨root, root.bindings.reverse⟩

/-- The node that is meant by a node: what a reference stands for, and otherwise the node itself,
whether it has a name or not. -/
def YamlDocument.target (d : YamlDocument) : Yaml Nat → Yaml Nat
  | .named _ node => node
  | .reference n => (d.bindings.lookup n).getD (.reference n)
  | node => node

end Optline
