import Optline.Display.Style
import Optline.Dispatch

/-!
# Showing answers

* `answerText` — the answer to an invocation as people see it: the output of a command with the
  report below it, a help text, or the diagnostic of a rejection with the help below it.
* `marked` — a text behind a pictogram.
-/

namespace Optline.Display

/-- A text behind a pictogram, or the text alone where there are no pictograms. -/
def marked (p : Pictogram) (text : String) (style : Style) : String :=
  Text.trimmedStart (p.text style ++ " " ++ text)

/-- The answer to an invocation as people see it. -/
def answerText (answer : Dispatch) (style : Style) : String :=
  match answer with
  | .completed _ output none => output
  | .completed _ output (some report) =>
    output ++ (if output = "" then "" else "\n")
      ++ color .dim (marked .clock report.text style) style
  | .help _ text => text
  | .rejected _ _ message help =>
    color .error (marked .reject message style) style ++ "\n" ++ help

end Optline.Display
