import Optline.Decimal.Literal
import Optline.Spec

/-!
# Invocations

An invocation is a list of tokens, the first of which names the command.  The tokens after it are
read in two ways.  Validation sees them as a leading run of data and then segments, each a flag with
the data after it.  A handler asks for one option at a time, by its flag, and gets the value in the
type that it asks for; each question looks at the tokens anew, so the answers depend neither on
validation nor on the order of the questions.

* `arguments`, `segments` — the tokens after the name, and their segments.
* `locate?`, `after?` — where a flag first occurs, and what stands after it.
* `AccessError` — why an option has no value.
* `getBool`, `getInt`, `getDouble`, `getFloat`, `getString` — the value of an option.
* `positional?` — the token bound to a positional argument.
-/

namespace Optline

namespace Invocation

/-! ## Segments -/

/-- The tokens after the name of the command. -/
def arguments (tokens : List String) : List String :=
  tokens.drop 1

/-- The data before the first flag, and each flag with the data after it. -/
def segments : List String → List String × List (String × List String)
  | [] => ([], [])
  | token :: rest =>
    let (lead, segs) := segments rest
    if isFlagLike token then ([], (token, lead) :: segs) else (token :: lead, segs)

/-- The tokens that are data. -/
def data (args : List String) : List String :=
  args.filter (!isFlagLike ·)

/-! ## Looking for a flag -/

/-- The index of the first occurrence of a flag after the name of the command. -/
def locate? (tokens : List String) (flag : String) : Option Nat :=
  ((arguments tokens).findIdx? (· == flag)).map (· + 1)

/-- The tokens after the first occurrence of a flag. -/
def after? (tokens : List String) (flag : String) : Option (List String) :=
  (locate? tokens flag).map fun i => tokens.drop (i + 1)

/-- Whether an option is given. -/
def isUsed (tokens : List String) (flag : String) : Bool :=
  (locate? tokens flag).isSome

end Invocation

/-! ## Values -/

/-- The types in which the value of an option is asked for. -/
inductive Wanted where
  | bool
  | int
  | double
  | float
  | string
  deriving DecidableEq, Repr

/-- A type with its article. -/
def Wanted.phrase : Wanted → String
  | .bool => "A boolean"
  | .int => "An integer"
  | .double => "A double"
  | .float => "A float"
  | .string => "A string"

/-- Why an option has no value of the type that was asked for. -/
inductive AccessError where
  /-- The option is not given. -/
  | absent (flag : String)
  /-- Nothing stands after the flag. -/
  | missingValue (flag : String) (wanted : Wanted)
  /-- What stands after the flag is no value of the type. -/
  | invalid (flag : String) (wanted : Wanted) (found : String)
  deriving DecidableEq, Repr

/-- The wording of an access error. -/
def AccessError.message : AccessError → String
  | .absent flag => "option " ++ flag ++ " not supplied"
  | .missingValue flag wanted => wanted.phrase ++ " value is expected for option " ++ flag
  | .invalid flag wanted found =>
    wanted.phrase ++ " value is expected for option " ++ flag ++ ", got '" ++ found ++ "'"

namespace Invocation

/-- The value of an option that `read?` makes of the token after the flag. -/
def getValue {α : Type} (wanted : Wanted) (read? : String → Option α) (tokens : List String)
    (flag : String) : Except AccessError α :=
  match after? tokens flag with
  | none => .error (.absent flag)
  | some [] => .error (.missingValue flag wanted)
  | some (token :: _) =>
    match read? token with
    | some value => .ok value
    | none => .error (.invalid flag wanted token)

/-- The truth value of an option. -/
def getBool : List String → String → Except AccessError Bool :=
  getValue .bool bool?

/-- The integers that an option can have: those of 64 bits with a sign. -/
def int64? (token : String) : Option Int :=
  (Decimal.integer? token).filter fun n =>
    -(Decimal.wordCount / 2 : Nat) ≤ n && n < (Decimal.wordCount / 2 : Nat)

/-- The integer value of an option. -/
def getInt : List String → String → Except AccessError Int :=
  getValue .int int64?

/-- The value of an option as a number of 64 bits. -/
def getDouble : List String → String → Except AccessError Float :=
  getValue .double fun token => if isDecimalText token then Decimal.read64? token else none

/-- The value of an option as a number of 32 bits. -/
def getFloat : List String → String → Except AccessError Float32 :=
  getValue .float fun token => if isDecimalText token then Decimal.read32? token else none

/-- Whether a token ends the text of an option: a flag, or a variable that was not replaced. -/
def endsText (token : String) : Bool :=
  isFlagLike token || token.toList.head? == some '$'

/-- The text of an option: the words after the flag, joined by single spaces, up to the next flag or
variable.  Only a flag that is the last token has no text at all. -/
def getString (tokens : List String) (flag : String) : Except AccessError String :=
  match after? tokens flag with
  | none => .error (.absent flag)
  | some [] => .error (.missingValue flag .string)
  | some rest => .ok (Text.unwords (rest.takeWhile (!endsText ·)))

/-! ## Positional arguments -/

/-- The token bound to a positional argument.  Positions are counted over all tokens, so the answer
means something only where the positional arguments come before the options. -/
def positional? (spec : CommandSpec) (tokens : List String) (placeholder : String) :
    Option String :=
  (spec.arguments.findIdx? (· == placeholder)).bind fun i => tokens[i + 1]?

end Invocation

end Optline
