import Optline.Dispatch
import Optline.Text.Upper

/-!
# Built-in commands

The commands that every session starts with, and the handlers that a manifest can bind its own
commands to.

* `echo`, `sum`, `sleep`, `profile`, `listing` — the handlers of the built-in commands.
* `describe`, `noop` — further handlers for manifests.
* `builtins` — the built-in commands in their order.
* `handlerNames`, `handler?` — the handlers that a manifest can name.
* `builtinRegistry` — the registry of the built-in commands alone.
-/

namespace Optline

namespace Builtin

/-! ## Help for handlers -/

/-- An access error as a fault. -/
def accessFault (e : AccessError) : Fault :=
  ⟨e.message, []⟩

/-- The value of an option, or a default where the option is not given. -/
def orDefault {α : Type} (value : α) : Except AccessError α → Except Fault α
  | .ok x => .ok x
  | .error (.absent _) => .ok value
  | .error e => .error (accessFault e)

/-- The reply of a command that leaves the settings alone. -/
def replyWith (call : Call) (result : Except Fault String) : Reply :=
  { result, settings := call.settings }

/-! ## Handlers of the built-in commands -/

/-- Gives its text back, in upper case on demand. -/
def echo : Handler := fun call =>
  replyWith call do
    let text ← orDefault "" (Invocation.getString call.tokens "-text")
    pure (if Invocation.isUsed call.tokens "-upper" then Text.uppercase text else text)

/-- Why a text is no number. -/
def notANumber (text : String) : String :=
  if text = "" then "cannot parse float from empty string" else "invalid float literal"

/-- The number bound to a positional argument. -/
def number (call : Call) (placeholder : String) : Except Fault Float :=
  let raw := (Invocation.positional? call.spec call.tokens placeholder).getD ""
  match Decimal.read64? raw with
  | some x => .ok x
  | none =>
    .error (Fault.within ⟨notANumber raw, []⟩
      (placeholder ++ " must be a number, got '" ++ raw ++ "'"))

/-- Adds two numbers and scales their sum. -/
def sum : Handler := fun call =>
  replyWith call do
    let a ← number call "<a>"
    let b ← number call "<b>"
    let scale ← orDefault 1 (Invocation.getDouble call.tokens "-scale")
    pure (Decimal.text64 ((0 + a + b) * scale))

/-- Waits; a negative time is no time. -/
def sleep : Handler := fun call =>
  match orDefault 0 (Invocation.getInt call.tokens "-ms") with
  | .error fault => replyWith call (.error fault)
  | .ok ms =>
    { result := .ok ("slept " ++ toString ms.toNat ++ " ms")
      settings := call.settings
      pause := ms.toNat }

/-- Switches reporting on or off, and tells which it is. -/
def profile : Handler := fun call =>
  let settings :=
    match Invocation.getBool call.tokens "-enable" with
    | .ok enable => { call.settings with profile := enable }
    | .error _ => call.settings
  { result := .ok ("profiling " ++ (if settings.profile then "on" else "off")), settings }

/-- Lists the help of all commands. -/
def listing : Handler := fun call =>
  replyWith call (.ok (helpIndex call.commands))

/-! ## Handlers for manifests -/

/-- Does nothing. -/
def noop : Handler := fun call =>
  replyWith call (.ok "")

/-- The value of an option that is given, read with the accessor that fits its constraint. -/
def describedValue (tokens : List String) (o : OptionSpec) : Except AccessError String :=
  match o.compiled with
  | .empty => .ok "set"
  | .sequence [.typed .int] => (Invocation.getInt tokens o.flag).map toString
  | .sequence [.typed .double] => (Invocation.getDouble tokens o.flag).map Decimal.text64
  | .sequence [.typed .float] => (Invocation.getFloat tokens o.flag).map Decimal.text32
  | .enumeration _ =>
    match Invocation.getString tokens o.flag with
    | .ok text => .ok text
    | .error _ => .ok ""
  | _ => Invocation.getString tokens o.flag

/-- The positional arguments that are bound, with their tokens. -/
def describedArguments (call : Call) : List String :=
  call.spec.arguments.filterMap fun placeholder =>
    (Invocation.positional? call.spec call.tokens placeholder).map fun token =>
      placeholder ++ "=" ++ token

/-- The options that are given, with their values. -/
def describedOptions (call : Call) : Except AccessError (List String) :=
  (call.spec.options.filter fun o => Invocation.isUsed call.tokens o.flag).mapM fun o =>
    (describedValue call.tokens o).map fun value => o.flag ++ "=" ++ value

/-- Tells what it was given. -/
def describe : Handler := fun call =>
  replyWith call <|
    match describedOptions call with
    | .error e => .error (accessFault e)
    | .ok options =>
      .ok (Text.trimmedEnd
        (call.spec.name ++ ": " ++ Text.unwords (describedArguments call ++ options)))

end Builtin

/-! ## Tables -/

/-- The built-in commands: name, specification and handler. -/
def builtins : List (String × String × Handler) :=
  [("echo", "-text <string> -upper", Builtin.echo),
    ("sum", "<a> <b> -scale <double>", Builtin.sum),
    ("sleep", "-ms <int>", Builtin.sleep),
    ("profile", "-enable true|false", Builtin.profile),
    ("commands", "", Builtin.listing)]

/-- The names of the handlers that a manifest can bind commands to. -/
def handlerNames : List String :=
  ["describe", "echo", "noop"]

/-- The handler of a name. -/
def handler? (name : String) : Option Handler :=
  if name = "describe" then some Builtin.describe
  else if name = "echo" then some Builtin.echo
  else if name = "noop" then some Builtin.noop
  else none

/-- The registry of the built-in commands. -/
def builtinRegistry : Registry Handler :=
  ⟨builtins.map fun (name, raw, handler) => ⟨CommandSpec.compile name raw, handler⟩⟩

end Optline
