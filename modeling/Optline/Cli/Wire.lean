import Optline.Dispatch
import Optline.Document.Json.Printer

/-!
# Answers in JSON

The JSON form of outcomes, answers and specifications.  The members of an object stand in the order
of their keys.

* `Outcome.toJson`, `Report.toJson`, `Dispatch.toJson` — what a check or a command line gives.
* `CommandSpec.toJson` — a command with some of its options.
-/

namespace Optline

/-- A text, or null. -/
def Json.ofText (s : Option String) : Json :=
  Json.ofOption .string s

/-- A number of seconds; it has a fraction even where that is zero. -/
def Json.ofSeconds (x : Float) : Json :=
  let text := Decimal.text64 x
  .number (if text.toList.contains '.' then text else text ++ ".0")

/-- An outcome as an object. -/
def Outcome.toJson : Outcome → Json
  | .ok => .object [("outcome", .string "ok")]
  | .helpRequested topic =>
    .object [("outcome", .string "help_requested"), ("topic", .ofText topic)]
  | .argumentCount required supplied =>
    .object [("outcome", .string "argument_count_error"), ("required", .ofNat required),
      ("supplied", .ofNat supplied)]
  | .unknownOption flag =>
    .object [("flag", .string flag), ("outcome", .string "unknown_option")]
  | .optionConstraint flag params constraint =>
    .object [("constraint", .string constraint), ("flag", .string flag),
      ("outcome", .string "option_constraint_error"), ("params", .array (params.map .string))]

/-- A profile report as an object. -/
def Report.toJson (r : Report) : Json :=
  .object [("command", .string r.command), ("cpu_secs", .ofOption .ofSeconds r.cpuSecs),
    ("current_mb", .ofNat r.currentMb), ("elapsed_secs", .ofSeconds r.elapsedSecs),
    ("peak_mb", .ofNat r.peakMb), ("used_mb", .ofInt r.usedMb)]

/-- An answer as an object; a report is a member only where there is one. -/
def Dispatch.toJson : Dispatch → Json
  | .completed command output report =>
    .object ([("command", .string command), ("output", .string output)]
      ++ report.toList.map (fun r => ("profile", r.toJson)) ++ [("status", .string "completed")])
  | .help command text =>
    .object [("command", .string command), ("status", .string "help"), ("text", .string text)]
  | .rejected command outcome message advice =>
    .object [("command", .string command), ("help", .string advice), ("message", .string message),
      ("outcome", outcome.toJson), ("status", .string "rejected")]

/-- An option as an object. -/
def OptionSpec.toJson (o : OptionSpec) : Json :=
  .object [("constraint", .string o.constraint), ("flag", .string o.flag),
    ("hidden", .bool o.isHidden)]

/-- The options of a command that a list shows. -/
def CommandSpec.listed (spec : CommandSpec) (all : Bool) : List OptionSpec :=
  spec.options.filter fun o => all || !o.isHidden

/-- A command as an object, with its hidden options if all are asked for. -/
def CommandSpec.toJson (spec : CommandSpec) (all : Bool) : Json :=
  .object [("arguments", .string spec.argumentPattern), ("name", .string spec.name),
    ("options", .array ((spec.listed all).map (·.toJson)))]

end Optline
