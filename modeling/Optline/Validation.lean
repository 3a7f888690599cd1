import Optline.Help
import Optline.Invocation

/-!
# Validation

An invocation is checked against the specification of its command before anything runs.  A request
for help settles the matter at once; then the data is counted, where more than required is fine; and
then every flag with the data after it is checked in turn.

* `Outcome` — what the check can find.
* `Outcome.message?` — the wording of what is wrong.
* `validate` — the check.
* `Outcome.helpFor` — the help that goes with an outcome.
-/

namespace Optline

/-- What the check of an invocation finds. -/
inductive Outcome where
  /-- Nothing is wrong. -/
  | ok
  /-- Help is asked for, perhaps about one option. -/
  | helpRequested (topic : Option String)
  /-- There is less data than positional arguments. -/
  | argumentCount (required supplied : Nat)
  /-- A flag is not declared. -/
  | unknownOption (flag : String)
  /-- The data after a flag does not satisfy the option's constraint. -/
  | optionConstraint (flag : String) (params : List String) (constraint : String)
  deriving DecidableEq, Repr

namespace Outcome

/-- Whether the command may run. -/
def permits (o : Outcome) : Bool :=
  o == .ok

/-- The wording of what is wrong with an invocation, if something is. -/
def message? : Outcome → Option String
  | .ok => none
  | .helpRequested _ => none
  | .argumentCount required supplied =>
    some ("Invalid option arguments: expected at least " ++ toString required
      ++ " positional argument(s), got " ++ toString supplied)
  | .unknownOption flag => some ("Invalid option name: " ++ flag)
  | .optionConstraint flag params constraint =>
    some ("Invalid option arguments: " ++ flag ++ " " ++ Text.unwords params ++ " (expected "
      ++ (if constraint = "" then "no value" else constraint) ++ ")")

/-- An outcome in words. -/
def text : Outcome → String
  | .ok => "ok"
  | .helpRequested _ => "help requested"
  | o => o.message?.getD ""

/-- Whether an outcome turns the invocation away. -/
def isRejection : Outcome → Bool
  | .ok | .helpRequested _ => false
  | _ => true

end Outcome

/-! ## The check -/

/-- The flags that ask for help. -/
def helpFlags : List String := ["-help", "-h"]

/-- The request for help among the arguments of an invocation, if there is one: the option it is
about is the declared flag right after the first help flag. -/
def helpRequest? (spec : CommandSpec) (args : List String) : Option (Option String) :=
  match args.dropWhile (!helpFlags.contains ·) with
  | [] => none
  | [_] => some none
  | _ :: next :: _ =>
    some (if isFlagLike next && (spec.option? next).isSome then some next else none)

/-- What is wrong with a flag and the data after it, if something is. -/
def checkSegment (spec : CommandSpec) (flag : String) (params : List String) : Option Outcome :=
  match spec.option? flag with
  | none => some (.unknownOption flag)
  | some o =>
    if o.compiled.accepts params then none
    else some (.optionConstraint flag params o.constraint)

/-- Checks an invocation against the specification of its command. -/
def validate (spec : CommandSpec) (tokens : List String) : Outcome :=
  let args := Invocation.arguments tokens
  match helpRequest? spec args with
  | some topic => .helpRequested topic
  | none =>
    let supplied := (Invocation.data args).length
    if supplied < spec.required then .argumentCount spec.required supplied
    else
      ((Invocation.segments args).2.findSome? fun (flag, params) =>
        checkSegment spec flag params).getD .ok

/-- The help that goes with an outcome: about the option that is asked for or that is at fault,
otherwise about the whole command. -/
def Outcome.helpFor (spec : CommandSpec) : Outcome → String
  | .helpRequested topic => spec.help topic
  | .optionConstraint flag _ _ => spec.help (some flag)
  | _ => spec.help none

end Optline
