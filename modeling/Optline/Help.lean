import Optline.Spec

/-!
# Help

The help of a command has three parts: its name, its positional arguments, and its options with
their constraints.

    Command: resize
    Arguments: <width> <height>
    Options: -color <string> -id <int> -mode fast|slow -keep -scale <double>
             -anchor n|s -help -h

Options are listed in rows; a shown option that is declared as number 5, 10, 15, … (counted from
0, hidden ones included) starts a new row.  The two help flags close the list.  Asked for one
option, the help shows that option alone, hidden or not.

* `optionRows` — the rows of the options that are shown.
* `CommandSpec.help` — the help of one command, or of one of its options.
* `helpIndex` — the help of all commands that are not internal.
-/

namespace Optline

/-- How many declared options share a row. -/
def optionsPerRow : Nat := 5

/-- What stands before the first row of options; further rows are indented by its length. -/
def optionsLabel : String := "Options: "

/-- The entry that closes every list of options. -/
def helpEntry : String := "-help -h"

/-- An option with its constraint. -/
def OptionSpec.shown (o : OptionSpec) : String :=
  if o.constraint = "" then o.flag else o.flag ++ " " ++ o.constraint

/-- Options with their numbers in rows; a number that is a multiple of five starts a row. -/
def rowsOf : List (OptionSpec × Nat) → List (List OptionSpec)
  | [] => []
  | [(o, _)] => [[o]]
  | (o, _) :: (p, j) :: rest =>
    let rows := rowsOf ((p, j) :: rest)
    if j % optionsPerRow = 0 then [o] :: rows else rows.modifyHead (o :: ·)

/-- The rows of the options that are shown, numbered as they are declared. -/
def optionRows (options : List OptionSpec) : List (List OptionSpec) :=
  rowsOf (options.zipIdx.filter fun (o, _) => !o.isHidden)

/-- The rows of options under their label, the last one closed by the help flags. -/
def optionLines : List (List OptionSpec) → List String
  | [] => [helpEntry]
  | [row] => [Text.unwords (row.map OptionSpec.shown ++ [helpEntry])]
  | row :: rows => Text.unwords (row.map OptionSpec.shown) :: optionLines rows

/-- The blanks under the label. -/
def optionsIndent : String :=
  String.ofList (List.replicate optionsLabel.length ' ')

/-- The lines of a help text. -/
def helpLines (spec : CommandSpec) (rows : List (List OptionSpec)) : List String :=
  match optionLines rows with
  | [] => []
  | first :: rest =>
    ["Command: " ++ spec.name, Text.trimmedEnd ("Arguments: " ++ spec.argumentPattern),
      optionsLabel ++ first] ++ rest.map (optionsIndent ++ ·)

/-- The rows that a help text shows: of all options that are not hidden, or of the first one with
the flag that is asked for. -/
def CommandSpec.shownRows (spec : CommandSpec) : Option String → List (List OptionSpec)
  | none => optionRows spec.options
  | some flag => (spec.option? flag).toList.map ([·])

/-- The help of a command, or of the option that is asked for. -/
def CommandSpec.help (spec : CommandSpec) (topic : Option String) : String :=
  String.join ((helpLines spec (spec.shownRows topic)).map (· ++ "\n"))

/-- Whether a command is internal: its help is left out of the index. -/
def CommandSpec.isInternal (spec : CommandSpec) : Bool :=
  spec.name.startsWith "test"

/-- The help of all commands that are not internal, in their order. -/
def helpIndex (specs : List CommandSpec) : String :=
  "\n".intercalate ((specs.filter (!·.isInternal)).map (·.help none))

end Optline
