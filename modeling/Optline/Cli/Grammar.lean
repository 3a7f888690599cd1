/-!
# The grammar of a command line

The arguments of a program at one level: options in any order, words by position, and perhaps a
subcommand that takes everything after it.  Options of one letter may share a minus, an option with
a value may have it attached, and `--` makes everything after it a word.

* `OptionRule`, `WordRule`, `Level` — what a level accepts.
* `Matches` — what was given.
* `Level.parse` — the reading of the arguments.

A word position may accept words that begin with a minus.  An argument in such a position is an
option if it is one that the level knows, and a word otherwise; several letters behind one minus are
options only if the level knows them all.

**Values that stand alone.**  A value in an argument of its own is taken in with the option or word
that follows, or else at the end.  If a subcommand follows, that end comes only after the arguments
of the subcommand; so what a level is given in front of its subcommand may turn out to make no sense
while those behind it do.
-/

namespace Optline.Cli

/-! ## Rules -/

/-- What an option does when it is met. -/
inductive Effect where
  /-- It is on; at most once. -/
  | switch
  /-- It counts how often it is given. -/
  | count
  /-- It takes a value; at most once. -/
  | value (mayBeEmpty : Bool)
  /-- It ends the reading and asks for help. -/
  | help
  /-- It ends the reading and asks for the version. -/
  | version
  deriving DecidableEq, Repr

/-- An option that a level accepts. -/
structure OptionRule where
  long : String
  short : Option Char := none
  effect : Effect := .switch
  deriving DecidableEq, Repr

/-- A word that a level accepts in its position. -/
structure WordRule where
  name : String
  isRequired : Bool := false
  /-- Whether the word may begin with a minus. -/
  mayBeginWithMinus : Bool := false
  /-- Whether further words belong to the same position. -/
  isRepeated : Bool := false
  /-- Whether everything after the word is a word, whatever it looks like. -/
  endsOptions : Bool := false
  deriving DecidableEq, Repr

/-- What a program accepts at one level. -/
structure Level where
  options : List OptionRule
  words : List WordRule := []
  subcommands : List String := []
  deriving DecidableEq, Repr

/-- What was given at one level. -/
structure Matches where
  /-- The options without a value, by their long names, the last first. -/
  switches : List String := []
  /-- The options with their values. -/
  values : List (String × String) := []
  /-- The words. -/
  words : List String := []
  deriving DecidableEq, Repr

/-- What the arguments of a level come to. -/
inductive Parsed where
  | done (found : Matches)
  /-- A subcommand with its arguments, and what was given before it if that makes sense. -/
  | subcommand (name : String) (rest : List String) (found : Option Matches)
  | help
  | version
  | misuse
  deriving DecidableEq, Repr

/-! ## Reading -/

/-- The state of the reading between two arguments. -/
structure Progress where
  found : Matches := {}
  /-- An option that takes its value from the next argument, and the value once it is there. -/
  pending : Option (OptionRule × Option String) := none
  /-- Whether everything from here on is a word. -/
  isLiteral : Bool := false
  deriving DecidableEq, Repr

/-- What one argument leads to: on to the next, or to the end. -/
abbrev Advance := Except Parsed Progress

/-- The rule for the next word, if a further word is accepted. -/
def Level.nextWord? (l : Level) (p : Progress) : Option WordRule :=
  match l.words[p.found.words.length]? with
  | some rule => some rule
  | none => l.words.getLast?.filter (·.isRepeated)

/-- The option of a long name. -/
def Level.long? (l : Level) (name : String) : Option OptionRule :=
  l.options.find? (·.long == name)

/-- The option of a letter. -/
def Level.short? (l : Level) (c : Char) : Option OptionRule :=
  l.options.find? (·.short == some c)

/-- Whether the next argument is the value of an option. -/
def Progress.isWaiting (p : Progress) : Bool :=
  p.pending.any (·.2.isNone)

/-- Takes the pending value in.  An option that waits for its value does so in vain. -/
def Progress.settle (p : Progress) : Advance :=
  match p.pending with
  | none => .ok p
  | some (_, none) => .error .misuse
  | some (o, some value) =>
    if p.found.values.any (·.1 == o.long) ∨ (o.effect = .value false ∧ value = "") then
      .error .misuse
    else
      .ok { p with
        pending := none
        found := { p.found with values := (o.long, value) :: p.found.values } }

/-- Takes an option in that has its value attached. -/
def Progress.give (p : Progress) (o : OptionRule) (value : String) : Advance :=
  match p.settle with
  | .error e => .error e
  | .ok p => { p with pending := some (o, some value) : Progress }.settle

/-- Takes an option in that has no value attached. -/
def Progress.meet (p : Progress) (o : OptionRule) : Advance :=
  match p.settle with
  | .error e => .error e
  | .ok p =>
    let on : Progress := { p with
      found := { p.found with switches := o.long :: p.found.switches } }
    match o.effect with
    | .help => .error .help
    | .version => .error .version
    | .count => .ok on
    | .switch => if p.found.switches.contains o.long then .error .misuse else .ok on
    | .value _ => .ok { p with pending := some (o, none) }

/-- Takes an argument in that is no option. -/
def Level.word (l : Level) (p : Progress) (arg : String) : Advance :=
  match p.pending with
  | some (o, none) => .ok { p with pending := some (o, some arg) }
  | _ =>
    match l.nextWord? p, p.settle with
    | none, _ => .error .misuse
    | some _, .error e => .error e
    | some rule, .ok p =>
      .ok { p with
        found := { p.found with words := p.found.words ++ [arg] }
        isLiteral := p.isLiteral || rule.endsOptions }

/-- Whether an argument that begins with a minus may be a word here. -/
def Level.acceptsMinus (l : Level) (p : Progress) : Bool :=
  (l.nextWord? p).any (·.mayBeginWithMinus)

/-- Takes an argument in that begins with two minuses; `body` is what stands behind them. -/
def Level.longArgument (l : Level) (p : Progress) (arg : String) (body : List Char) : Advance :=
  let name := String.ofList (body.takeWhile (· ≠ '='))
  match l.long? name, body.dropWhile (· ≠ '=') with
  | none, _ => if l.acceptsMinus p then l.word p arg else .error .misuse
  | some o, [] => p.meet o
  | some o, _ :: value =>
    match o.effect with
    | .value _ => p.give o (String.ofList value)
    | _ => .error .misuse

/-- Takes the letters behind one minus in.  The rest of the letters is the value of the first option
that takes one, perhaps behind an equals sign. -/
def Level.letters (l : Level) (p : Progress) : List Char → Advance
  | [] => .ok p
  | c :: cs =>
    match l.short? c with
    | none => .error .misuse
    | some o =>
      match o.effect, cs with
      | .value _, '=' :: value => p.give o (String.ofList value)
      | .value _, v :: value => p.give o (String.ofList (v :: value))
      | _, _ =>
        match p.meet o with
        | .ok p => l.letters p cs
        | .error e => .error e

/-- Takes one argument in that is no subcommand. -/
def Level.argument (l : Level) (p : Progress) (arg : String) : Advance :=
  if p.isLiteral then l.word p arg
  else
    match arg.toList with
    | ['-', '-'] => if p.isWaiting then .error .misuse else .ok { p with isLiteral := true }
    | '-' :: '-' :: body => l.longArgument p arg body
    | '-' :: c :: cs =>
      if l.acceptsMinus p && (c :: cs).any (fun d => (l.short? d).isNone) then l.word p arg
      else l.letters p (c :: cs)
    | _ => l.word p arg

/-- What a level comes to that has no further arguments: no word that it requires may be missing,
and no subcommand. -/
def Level.finish (l : Level) (p : Progress) : Parsed :=
  match p.settle with
  | .error e => e
  | .ok p =>
    if (l.words.drop p.found.words.length).all (!·.isRequired) ∧ l.subcommands = [] then
      .done p.found
    else .misuse

/-- Whether an argument is a subcommand. -/
def Level.isSubcommand (l : Level) (p : Progress) (arg : String) : Bool :=
  !p.isLiteral && !p.isWaiting && l.subcommands.contains arg

/-- Reads arguments on from a state. -/
def Level.parseFrom (l : Level) (p : Progress) : List String → Parsed
  | [] => l.finish p
  | arg :: rest =>
    if l.isSubcommand p arg then .subcommand arg rest (p.settle.map (·.found)).toOption
    else
      match l.argument p arg with
      | .ok p => l.parseFrom p rest
      | .error e => e

/-- Reads the arguments of a level. -/
def Level.parse (l : Level) (args : List String) : Parsed :=
  l.parseFrom {} args

end Optline.Cli
