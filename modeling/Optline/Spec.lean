import Optline.Constraint

/-!
# Specifications

A command declares what it takes in one line of text:

    <width> <height> -color <string> -id <int> -mode fast|slow -!debug

The words before the first flag are its positional arguments; every flag opens an option, and the
words after it, up to the next flag, are the option's constraint.  A lone minus makes the token
after it a flag whatever it looks like, so that `- 3d` declares `-3d`.  A flag whose second
character is `!` is left out of the ordinary help.

* `OptionSpec` — an option: its flag and the text of its constraint.
* `CommandSpec` — a command: name, text, positional arguments and options.
* `Mark`, `marks` — what each token of a specification is: a word, a flag, or a minus to no purpose.
* `groupMarks` — the leading words, and each flag with the words after it.
* `CommandSpec.read` — from text to specification, with the notices that arise on the way.

A minus takes the token after it away from the ordinary rules, so what a token is depends on what
stands before it; once `marks` has settled that from left to right, grouping is a recursion that
builds the groups from the right.
-/

namespace Optline

/-! ## Options and commands -/

/-- One option of a command. -/
structure OptionSpec where
  /-- The flag, minus included. -/
  flag : String
  /-- The text of the constraint, its words joined by single spaces. -/
  constraint : String
  deriving DecidableEq, Repr

/-- The constraint in the form that matching looks at. -/
def OptionSpec.compiled (o : OptionSpec) : Constraint :=
  Constraint.compile o.constraint

/-- Whether the option is left out of the ordinary help. -/
def OptionSpec.isHidden (o : OptionSpec) : Bool :=
  o.flag.toList[1]? == some '!'

/-- The interface of one command. -/
structure CommandSpec where
  /-- The name by which it is invoked. -/
  name : String
  /-- The text it was read from. -/
  raw : String
  /-- The positional arguments, joined by single spaces. -/
  argumentPattern : String
  /-- The options in the order of their declaration. -/
  options : List OptionSpec
  deriving DecidableEq, Repr

/-- The words of the positional arguments. -/
def CommandSpec.arguments (spec : CommandSpec) : List String :=
  Text.words spec.argumentPattern

/-- How many positional arguments an invocation has to supply. -/
def CommandSpec.required (spec : CommandSpec) : Nat :=
  spec.arguments.length

/-- The first option declared with a flag. -/
def CommandSpec.option? (spec : CommandSpec) (flag : String) : Option OptionSpec :=
  spec.options.find? (·.flag == flag)

/-! ## Reading -/

/-- What a token of a specification is. -/
inductive Mark where
  /-- A word of the positional arguments or of a constraint. -/
  | word (text : String)
  /-- A flag that opens an option. -/
  | flag (name : String)
  /-- A minus at the end, with nothing to promote. -/
  | danglingMinus
  deriving DecidableEq, Repr

/-- The flag that a token becomes after a lone minus. -/
def promoted (token : String) : String :=
  match token.toList with
  | '-' :: _ :: _ => token
  | _ => "-" ++ token

/-- What each token of a specification is; a lone minus and the token after it are one flag. -/
def marks : List String → List Mark
  | [] => []
  | token :: rest =>
    if token = "-" then
      match rest with
      | [] => [.danglingMinus]
      | next :: rest => .flag (promoted next) :: marks rest
    else (if isFlagLike token then .flag token else .word token) :: marks rest

/-- The words before the first flag, and each flag with the words after it. -/
def groupMarks : List Mark → List String × List (String × List String)
  | [] => ([], [])
  | .word text :: rest =>
    let (lead, groups) := groupMarks rest
    (text :: lead, groups)
  | .flag name :: rest =>
    let (words, groups) := groupMarks rest
    ([], (name, words) :: groups)
  | .danglingMinus :: rest => groupMarks rest

/-- The positional arguments and the options of a specification text. -/
def readParts (raw : String) : String × List OptionSpec :=
  let (lead, groups) := groupMarks (marks (splitSpec raw))
  (Text.unwords lead, groups.map fun (flag, words) => ⟨flag, Text.unwords words⟩)

/-- The notices that a specification text gives rise to besides those of its constraints. -/
def openNotices (raw : String) : List Notice :=
  if 0 < openBraces raw then [.openSpec raw] else []

/-- The notice about a minus at the end of a specification text. -/
def danglingNotices (raw : String) : List Notice :=
  if (marks (splitSpec raw)).contains .danglingMinus then [.danglingMinus raw] else []

/-- Reads the specification of a command.  Notices come in the order in which a reader of the text
meets their causes, except that an open group is known first. -/
def CommandSpec.read (name raw : String) : CommandSpec × List Notice :=
  let (pattern, options) := readParts raw
  (⟨name, raw, pattern, options⟩,
    openNotices raw ++ options.flatMap (fun o => (Constraint.read o.constraint).2)
      ++ danglingNotices raw)

/-- The specification of a command. -/
def CommandSpec.compile (name raw : String) : CommandSpec :=
  (CommandSpec.read name raw).1

end Optline
