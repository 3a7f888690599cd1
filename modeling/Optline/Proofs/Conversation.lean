import Optline.Proofs.InputLines
import Optline.Proofs.Readings

/-!
# Lines at a console

A console makes a script of each line and goes on behind it from the state that it leaves.  So lines
that are complete, each for itself, come to the one script of all of them, as long as nothing stops
that script.  What a console shows is another matter: where a command of a line fails, it shows the
failure and none of the answers in front of it, though the commands that gave them have run.

* `shown` — what a console shows of a run; `record` — all that there is to show of it.
* `turn_of_line` — what a console does with a line.
* **`shows_record_iff`** — when it shows all that there is.
* `steps` — the scripts that a console runs.
* `runLines_of_complete` — lines that nothing stops.
* **`agrees_with_script`** — a console against a script of the same lines.
-/

namespace Optline

open Text

namespace Console

variable {c : Console} {style : Display.Style} {s : ConsoleState} {line : String}

/-! ## What is shown -/

/-- Answers as a console shows them, one below the other. -/
def shownAnswers (style : Display.Style) (answers : List Dispatch) : String :=
  String.join (answers.map (shownAnswer style))

/-- A failure as a console shows it. -/
def shownFailure (style : Display.Style) (e : DispatchError) : String :=
  Display.color .error e.fault.text style ++ "\n"

/-- What a console shows of a run: its answers, or else its failure. -/
def shown (style : Display.Style) (run : Dispatcher.ScriptRun) : String :=
  match run.failure with
  | none => shownAnswers style run.answers
  | some e => shownFailure style e

/-- All that there is to show of a run: its answers, and below them its failure. -/
def record (style : Display.Style) (run : Dispatcher.ScriptRun) : String :=
  match run.failure with
  | none => shownAnswers style run.answers
  | some e => shownAnswers style run.answers ++ shownFailure style e

/-- How many rejections and failures a console counts for a run. -/
def failureCount (run : Dispatcher.ScriptRun) : Nat :=
  match run.failure with
  | none => run.answers.countP (·.isRejected)
  | some _ => 1

/-- The state of a console behind a run. -/
def stateAfter (s : ConsoleState) (run : Dispatcher.ScriptRun) : ConsoleState :=
  ⟨run.dispatcher, s.stats.count (failureCount run)⟩

lemma shownAnswers_cons (a : Dispatch) (as : List Dispatch) :
    shownAnswers style (a :: as) = shownAnswer style a ++ shownAnswers style as := by
  rw [shownAnswers, List.map_cons, String.join_cons]
  rfl

lemma shownAnswers_append (as bs : List Dispatch) :
    shownAnswers style (as ++ bs) = shownAnswers style as ++ shownAnswers style bs := by
  rw [shownAnswers, List.map_append, String.join_append]
  rfl

/-- The answers that have a text, each with a line break behind it. -/
lemma shownAnswers_eq (style : Display.Style) (answers : List Dispatch) :
    shownAnswers style answers
      = String.join (((answers.map (Display.answerText · style)).filter (· ≠ "")).map
        (trimmedEnd · ++ "\n")) := by
  induction answers with
  | nil => rfl
  | cons a as ih =>
      rw [shownAnswers_cons, ih, shownAnswer]
      by_cases ha : Display.answerText a style = ""
      · simp [ha]
      · simp [ha]

lemma shownAnswers_eq_empty_iff {answers : List Dispatch} :
    shownAnswers style answers = "" ↔ ∀ a ∈ answers, Display.answerText a style = "" := by
  induction answers with
  | nil => simp [shownAnswers]
  | cons a as ih =>
      rw [shownAnswers_cons, String.append_eq_empty_iff, ih, List.forall_mem_cons, shownAnswer]
      by_cases ha : Display.answerText a style = ""
      · simp [ha]
      · simp [ha]

theorem shown_eq_record_iff {run : Dispatcher.ScriptRun} :
    shown style run = record style run
      ↔ run.failure = none ∨ ∀ a ∈ run.answers, Display.answerText a style = "" := by
  rw [← shownAnswers_eq_empty_iff, shown, record, eq_comm]
  cases run.failure with
  | none => simp
  | some e => simp

/-! ## One line -/

lemma runScript_congr {a b : String} (h : trimmed a = trimmed b) (d : Dispatcher) :
    d.runScript a = d.runScript b :=
  Dispatcher.runLines_congr (splitScript_congr h) d

lemma runLine_eq (style : Display.Style) (s : ConsoleState) (script : String) :
    runLine style s script
      = .next (shown style (s.dispatcher.runScript script))
        (stateAfter s (s.dispatcher.runScript script)) (s.dispatcher.runScript script).notices := by
  rw [runLine, Dispatcher.executeScript_eq_runScript, Dispatcher.ScriptRun.step, shown, stateAfter,
    failureCount]
  cases (s.dispatcher.runScript script).failure with
  | none => rfl
  | some e => rfl

lemma turn_of_blank (h : trimmed line = "") : turn style s (some line) = .next "" s [] := by
  simp [turn, h, isFarewell]

/-- A console runs a line as a script. -/
theorem turn_of_line (hblank : trimmed line ≠ "") (hstays : isFarewell (trimmed line) = false) :
    turn style s (some line)
      = .next (shown style (s.dispatcher.runScript line))
        (stateAfter s (s.dispatcher.runScript line)) (s.dispatcher.runScript line).notices := by
  rw [← runScript_congr (trimmed_trimmed line), ← runLine_eq]
  simp [turn, hstays, hblank]

/-- **When a console shows all that there is to show of a line.**  The commands of the line are run
and counted as those of a script, and the console goes on from the state that they leave.  It shows
their answers and the failure among them, except that a failure hides the answers in front of it;
so nothing is lost if and only if no command fails or there is nothing to see of those before. -/
theorem shows_record_iff (c : Console) (s : ConsoleState) {line : String}
    (hblank : trimmed line ≠ "") (hstays : isFarewell (trimmed line) = false) :
    let run := s.dispatcher.runScript line
    (∀ rest, c.runLines s (some line :: rest)
        = let tail := c.runLines (stateAfter s run) rest
          { tail with
            output := c.prompt ++ shown c.style run ++ tail.output
            notices := run.notices ++ tail.notices })
      ∧ (shown c.style run = record c.style run
        ↔ run.failure = none ∨ ∀ a ∈ run.answers, Display.answerText a c.style = "") := by
  intro run
  refine ⟨fun rest => ?_, shown_eq_record_iff⟩
  rw [runLines, turn_of_line hblank hstays]

/-- An answer in front of a rejection is shown. -/
theorem shows_record_iff_rejected :
    let d : Dispatcher := { registry := builtinRegistry, settings := { profile := false } }
    let line := " echo -text a; sum 1; nope"
    let run := d.runScript line
    (trimmed line ≠ "" ∧ isFarewell (trimmed line) = false)
      ∧ (run.failure = none ∧ run.answers.map (·.isRejected) = [false, true])
      ∧ shown {} run = record {} run := by
  intro d line run
  have hline : trimmed line ≠ "" ∧ isFarewell (trimmed line) = false := by decide +kernel
  have hrun : run.failure = none ∧ run.answers.map (·.isRejected) = [false, true] := by
    decide +kernel
  obtain ⟨-, hshown⟩ := shows_record_iff {} { dispatcher := d } hline.1 hline.2
  exact ⟨hline, hrun, hshown.mpr (Or.inl hrun.1)⟩

/-- An answer in front of a failure is not, though the command that gave it has run. -/
theorem failure_hides_answer :
    let d : Dispatcher := { registry := builtinRegistry, settings := { profile := false } }
    let run := d.runScript "echo -text a; nope"
    (Console.runLines {} { dispatcher := d } [some "echo -text a; nope"]).output
        = "invalid command name \"nope\"\n"
      ∧ record {} run = "a\ninvalid command name \"nope\"\n"
      ∧ run.dispatcher.runs = 1 := by
  decide +kernel

/-! ## Several lines -/

/-- The script that a console makes of a line; nothing of a blank one. -/
def script? (line : String) : Option String :=
  if trimmed line = "" then none else some (trimmed line)

/-- What a console runs for lines, script by script. -/
def steps (style : Display.Style) (s : ConsoleState) :
    List (Option String) → List (Step (List Dispatch))
  | [] => []
  | line :: rest =>
    match turn style s line with
    | .leave => []
    | .fail _ => []
    | .next _ s' _ =>
      ((line.bind script?).map s.dispatcher.executeScript).toList ++ steps style s' rest

/-- Scripts are counted as the lines that are not blank. -/
lemma length_scripts (lines : List String) :
    (lines.filterMap script?).length = lines.countP (!isBlankText ·) := by
  induction lines with
  | nil => rfl
  | cons line lines ih =>
      cases hblank : isBlankText line with
      | true => simp [script?, trimmed_eq_empty_iff, hblank, ih]
      | false => simp [script?, trimmed_eq_empty_iff, hblank, ih]

/-- The command lines of the scripts are those of the lines. -/
lemma scripts_trimmed (lines : List String) :
    ((lines.filterMap script?).flatMap splitScript).map trimmed
      = (lines.flatMap splitScript).map trimmed := by
  induction lines with
  | nil => rfl
  | cons line lines ih =>
      rw [List.flatMap_cons, List.map_append, ← ih]
      by_cases hblank : trimmed line = ""
      · have hnone : (splitScript line).map trimmed = [] := splitScript_congr (b := "") hblank
        rw [List.filterMap_cons_none (by simp [script?, hblank]), hnone, List.nil_append]
      · have hsome : script? line = some (trimmed line) := if_neg hblank
        rw [List.filterMap_cons_some hsome, List.flatMap_cons, List.map_append,
          splitScript_congr (trimmed_trimmed line)]

/-- What a console does with a line that nothing stops. -/
lemma turn_of_complete (hblank : trimmed line ≠ "") (hstays : isFarewell (trimmed line) = false)
    (hcomplete : (s.dispatcher.runScript line).isComplete = true) :
    turn style s (some line)
      = .next (shownAnswers style (s.dispatcher.runScript line).answers)
        ⟨(s.dispatcher.runScript line).dispatcher, s.stats.count 0⟩
        (s.dispatcher.runScript line).notices := by
  obtain ⟨hfailure, hrejected⟩ := Dispatcher.ScriptRun.isComplete_iff.mp hcomplete
  have hcount : (s.dispatcher.runScript line).answers.countP (·.isRejected) = 0 := by
    simpa [List.countP_eq_zero] using hrejected
  rw [turn_of_line hblank hstays, shown, stateAfter, failureCount, hfailure]
  simp only [hcount]

lemma runLines_cons_of_complete (hprompt : c.prompt = "") (hblank : trimmed line ≠ "")
    (hstays : isFarewell (trimmed line) = false) {first : Dispatcher.ScriptRun}
    (hfirst : s.dispatcher.runScript line = first) (hcomplete : first.isComplete = true)
    (rest : List (Option String)) :
    c.runLines s (some line :: rest)
      = let tail := c.runLines ⟨first.dispatcher, s.stats.count 0⟩ rest
        { tail with
          output := shownAnswers c.style first.answers ++ tail.output
          notices := first.notices ++ tail.notices } := by
  subst hfirst
  rw [runLines, turn_of_complete hblank hstays hcomplete]
  simp [hprompt]

lemma steps_cons_of_complete (hblank : trimmed line ≠ "")
    (hstays : isFarewell (trimmed line) = false) {first : Dispatcher.ScriptRun}
    (hfirst : s.dispatcher.runScript line = first) (hcomplete : first.isComplete = true)
    (rest : List (Option String)) :
    (steps style s (some line :: rest)).map (·.result)
      = .ok first.answers
        :: (steps style ⟨first.dispatcher, s.stats.count 0⟩ rest).map (·.result) := by
  subst hfirst
  have hscript : (some line).bind script? = some (trimmed line) := if_neg hblank
  have hresult : (s.dispatcher.executeScript (trimmed line)).result
      = .ok (s.dispatcher.runScript line).answers := by
    rw [Dispatcher.executeScript_eq_runScript, runScript_congr (trimmed_trimmed line),
      Dispatcher.ScriptRun.step, (Dispatcher.ScriptRun.isComplete_iff.mp hcomplete).1]
  rw [steps, turn_of_complete hblank hstays hcomplete, hscript]
  simp [hresult]

/-- **Lines that nothing stops** come to one run of all their command lines.  The induction is on the
lines; the run of the first one comes through, and what it leaves is where the rest begins. -/
theorem runLines_of_complete (hprompt : c.prompt = "") {lines : List String}
    (hstays : ∀ script ∈ lines.filterMap script?, isFarewell script = false)
    (s : ConsoleState) {run : Dispatcher.ScriptRun}
    (hrun : s.dispatcher.runLines ((lines.filterMap script?).flatMap splitScript) = run)
    (hcomplete : run.isComplete = true) :
    (∃ answers : List (List Dispatch),
        (steps c.style s (lines.map some)).map (·.result) = answers.map .ok
          ∧ answers.flatten = run.answers)
      ∧ c.runLines s (lines.map some)
        = { output := shownAnswers c.style run.answers
            state := ⟨run.dispatcher,
              ⟨s.stats.lines + (lines.filterMap script?).length, s.stats.failures⟩⟩
            notices := run.notices } := by
  induction lines generalizing s run with
  | nil =>
      subst hrun
      exact ⟨⟨[], rfl, rfl⟩, by simp [runLines, hprompt, Dispatcher.runLines, shownAnswers]⟩
  | cons line lines ih =>
      by_cases hblank : trimmed line = ""
      · have hnone : script? line = none := if_pos hblank
        rw [List.filterMap_cons_none hnone] at hstays hrun ⊢
        obtain ⟨hsteps, hrest⟩ := ih hstays s hrun hcomplete
        refine ⟨?_, ?_⟩
        · simpa [steps, turn_of_blank hblank, hnone] using hsteps
        · simp [runLines, turn_of_blank hblank, hrest, hprompt]
      · have hsome : script? line = some (trimmed line) := if_neg hblank
        rw [List.filterMap_cons_some hsome] at hstays hrun ⊢
        obtain ⟨hline, hlines⟩ := List.forall_mem_cons.mp hstays
        generalize hfirst : s.dispatcher.runScript line = first
        have hscript : s.dispatcher.runLines (splitScript (trimmed line)) = first :=
          (runScript_congr (trimmed_trimmed line) s.dispatcher).trans hfirst
        rw [List.flatMap_cons, Dispatcher.runLines_append, hscript] at hrun
        subst hrun
        obtain ⟨hcomplete, htail⟩ := Dispatcher.ScriptRun.isComplete_andThen hcomplete
        obtain ⟨⟨answers, hanswers, hflatten⟩, hrest⟩ :=
          ih hlines ⟨first.dispatcher, s.stats.count 0⟩ rfl htail
        have hlength : ∀ n, s.stats.lines + 1 + n = s.stats.lines + (n + 1) := by omega
        rw [Dispatcher.ScriptRun.andThen_of_complete hcomplete, List.map_cons]
        refine ⟨⟨first.answers :: answers, ?_, ?_⟩, ?_⟩
        · rw [steps_cons_of_complete hblank hline hfirst hcomplete, hanswers, List.map_cons]
        · rw [List.flatten_cons, hflatten, Dispatcher.ScriptRun.precededBy]
        · rw [runLines_cons_of_complete hprompt hblank hline hfirst hcomplete, hrest]
          simp [Dispatcher.ScriptRun.precededBy, shownAnswers_append, ConsoleStats.count, hlength]

/-! ## Inputs -/

/-- What is read of an input differs from its lines in carriage returns and in an empty line at the
end, and neither makes a difference to the scripts. -/
lemma exists_inputLines {lines : List String} {last : String}
    (h : ∀ line ∈ lines ++ [last], '\n' ∉ line.toList) :
    ∃ texts : List String,
      inputLines ("\n".intercalate (lines ++ [last])).toUTF8 = texts.map some
        ∧ texts.filterMap script? = (lines ++ [last]).filterMap script? := by
  have hscript : ∀ line, script? (withoutReturn line) = script? line := fun line => by
    rw [script?, script?, trimmed_withoutReturn]
  have hlines : (lines.map withoutReturn).filterMap script? = lines.filterMap script? := by
    simp only [List.filterMap_map, Function.comp_def, hscript]
  have hlast : (if last = "" then [] else [last]).filterMap script? = [last].filterMap script? := by
    split_ifs with hempty
    · rw [hempty]
      rfl
    · rfl
  refine ⟨lines.map withoutReturn ++ if last = "" then [] else [last], inputLines_toUTF8 h, ?_⟩
  rw [List.filterMap_append, List.filterMap_append, hlines, hlast]

/-- The same for lines with line breaks between them, and perhaps one behind the last. -/
lemma exists_inputLines_of_lines {lines : List String} (h : ∀ line ∈ lines, '\n' ∉ line.toList)
    {input : String}
    (hinput : input = "\n".intercalate lines ∨ input = "\n".intercalate (lines ++ [""])) :
    ∃ texts : List String, inputLines input.toUTF8 = texts.map some
      ∧ texts.filterMap script? = lines.filterMap script? := by
  have hempty : [""].filterMap script? = [] := by decide
  rcases hinput with rfl | rfl
  · rcases List.eq_nil_or_concat' lines with rfl | ⟨init, last, rfl⟩
    · exact @exists_inputLines [] "" (by simp)
    · exact exists_inputLines h
  · have hbreak : ∀ line ∈ lines ++ [""], '\n' ∉ line.toList := by
      simpa [or_imp, forall_and] using h
    obtain ⟨texts, hread, hscripts⟩ := exists_inputLines hbreak
    exact ⟨texts, hread, by rw [hscripts, List.filterMap_append, hempty, List.append_nil]⟩

/-- Whether a console and a script read a line alike: it is one line, does not say farewell, and
leaves no quote and no backslash open. -/
structure IsWhole (line : String) : Prop where
  one_line : '\n' ∉ line.toList
  stays : isFarewell (trimmed line) = false
  closed : scriptCutter.after {} line.toList = {}

instance (line : String) : Decidable (IsWhole line) :=
  decidable_of_iff ('\n' ∉ line.toList ∧ isFarewell (trimmed line) = false
      ∧ scriptCutter.after {} line.toList = {})
    ⟨fun ⟨hline, hstays, hclosed⟩ => ⟨hline, hstays, hclosed⟩,
      fun ⟨hline, hstays, hclosed⟩ => ⟨hline, hstays, hclosed⟩⟩

/-- Lines at a console come to the script of the lines, if nothing stops it. -/
theorem run_of_complete (hprompt : c.prompt = "") {d : Dispatcher} {lines : List String}
    (hlines : ∀ line ∈ lines, IsWhole line) {run : Dispatcher.ScriptRun}
    (hrun : d.runScript ("\n".intercalate lines) = run) (hcomplete : run.isComplete = true)
    {input : String}
    (hinput : input = "\n".intercalate lines ∨ input = "\n".intercalate (lines ++ [""])) :
    (∃ answers : List (List Dispatch),
        (steps c.style { dispatcher := d } (inputLines input.toUTF8)).map (·.result)
            = answers.map .ok
          ∧ answers.flatten = run.answers)
      ∧ c.run d input.toUTF8
        = { output := shownAnswers c.style run.answers
            state := ⟨run.dispatcher, ⟨lines.countP (!isBlankText ·), 0⟩⟩
            notices := run.notices } := by
  have hbreak : ∀ line ∈ lines, '\n' ∉ line.toList := fun line hline => (hlines line hline).one_line
  obtain ⟨texts, hread, hscripts⟩ := exists_inputLines_of_lines hbreak hinput
  have hstays : ∀ script ∈ texts.filterMap script?, isFarewell script = false := by
    intro script hmem
    rw [hscripts] at hmem
    obtain ⟨line, hline, hscript⟩ := List.mem_filterMap.mp hmem
    rw [script?] at hscript
    split_ifs at hscript
    rw [← Option.some.inj hscript]
    exact (hlines line hline).stays
  have hsame : d.runLines ((texts.filterMap script?).flatMap splitScript) = run := by
    rw [← hrun, hscripts, Dispatcher.runScript,
      splitScript_lines fun line hline => (hlines line hline).closed]
    exact Dispatcher.runLines_congr (scripts_trimmed lines) d
  have hconsole := runLines_of_complete hprompt hstays { dispatcher := d } hsame hcomplete
  rw [hscripts, length_scripts, Nat.zero_add] at hconsole
  rwa [Console.run, hread]

/-- **A console agrees with a script of the same lines** that nothing stops.  Whatever it reads off
the clocks, it runs the same commands with the same results, up to their reports, shows what there is
to see of these and nothing else, counts every line that is not blank, and leaves the same
settings.  The last line may end with a line break or not. -/
theorem agrees_with_script (hprompt : c.prompt = "") {d : Dispatcher} {lines : List String}
    (hlines : ∀ line ∈ lines, IsWhole line) {run : Dispatcher.ScriptRun}
    (hrun : d.runScript ("\n".intercalate lines) = run) (hfailure : run.failure = none)
    (hrejected : ∀ a ∈ run.answers, a.isRejected = false) (readings : Nat → Observation)
    {input : String}
    (hinput : input = "\n".intercalate lines ∨ input = "\n".intercalate (lines ++ [""])) :
    let start : Dispatcher := { d with observe := readings }
    let console := c.run start input.toUTF8
    (∃ answers : List (List Dispatch),
        (steps c.style { dispatcher := start } (inputLines input.toUTF8)).map (·.result)
            = answers.map .ok
          ∧ answers.flatten.map Dispatch.unreported = run.answers.map Dispatch.unreported
          ∧ ((∀ a ∈ answers.flatten ++ run.answers, a.report? = none) →
            answers.flatten = run.answers)
          ∧ console.output
            = String.join (((answers.flatten.map (Display.answerText · c.style)).filter
              (· ≠ "")).map (trimmedEnd · ++ "\n")))
      ∧ console.fault = none
      ∧ console.state.stats = ⟨lines.countP (!isBlankText ·), 0⟩
      ∧ console.state.dispatcher.unread = run.dispatcher.unread
      ∧ console.notices = run.notices := by
  intro start console
  have hunread : start.unread = d.unread := rfl
  have hown : (start.runScript ("\n".intercalate lines)).unreported = run.unreported :=
    (Dispatcher.runLines_unreported hunread _).trans (congrArg _ hrun)
  have hcomplete : (start.runScript ("\n".intercalate lines)).isComplete = true := by
    rw [← Dispatcher.isComplete_unreported, hown, Dispatcher.isComplete_unreported]
    exact Dispatcher.ScriptRun.isComplete_iff.mpr ⟨hfailure, hrejected⟩
  obtain ⟨⟨answers, hanswers, hflatten⟩, hconsole⟩ :=
    run_of_complete hprompt hlines rfl hcomplete hinput
  have hsame : answers.flatten.map Dispatch.unreported = run.answers.map Dispatch.unreported := by
    rw [hflatten]
    exact congrArg (·.answers) hown
  refine ⟨⟨answers, hanswers, hsame, fun hreports => ?_, ?_⟩, ?_, ?_, ?_, ?_⟩
  · obtain ⟨hleft, hright⟩ := List.forall_mem_append.mp hreports
    rwa [Dispatch.map_unreported_eq_self hleft, Dispatch.map_unreported_eq_self hright] at hsame
  · rw [← shownAnswers_eq, hflatten]
    exact congrArg (·.output) hconsole
  · exact congrArg (·.fault) hconsole
  · exact congrArg (·.state.stats) hconsole
  · exact (congrArg (·.state.dispatcher.unread) hconsole).trans (congrArg (·.dispatcher) hown)
  · exact (congrArg (·.notices) hconsole).trans (congrArg (·.notices) hown)

/-- An escaped blank and a carriage return at the end of a line, a line without anything, and a
comment in front of a command that changes the settings. -/
theorem agrees_with_script_switched :
    let lines := ["echo -text a\\ \r", "", "# b; profile -enable false"]
    let d : Dispatcher := { registry := builtinRegistry, settings := {} }
    let run := d.runScript ("\n".intercalate lines)
    let console := Console.run {} { d with observe := fun _ => { overhead := 5 } }
      ("\n".intercalate (lines ++ [""])).toUTF8
    (∀ line ∈ lines, IsWhole line)
      ∧ (run.failure = none ∧ (∀ a ∈ run.answers, a.isRejected = false) ∧ run.answers.length = 2
        ∧ run.dispatcher.settings.profile = false)
      ∧ console.state.stats = ⟨2, 0⟩
      ∧ console.state.dispatcher.settings.profile = false := by
  intro lines d run console
  have hlines : ∀ line ∈ lines, IsWhole line := by decide +kernel
  have hrun : run.failure = none ∧ (∀ a ∈ run.answers, a.isRejected = false)
      ∧ run.answers.length = 2 ∧ run.dispatcher.settings.profile = false := by decide +kernel
  have hcount : lines.countP (!isBlankText ·) = 2 := by decide +kernel
  obtain ⟨hfailure, hrejected, -, hprofile⟩ := id hrun
  obtain ⟨-, -, hstats, hstate, -⟩ :=
    @agrees_with_script {} rfl d lines hlines run rfl hfailure hrejected _ _ (Or.inr rfl)
  have hsettings : console.state.dispatcher.settings = run.dispatcher.settings := by
    rw [← Dispatcher.settings_unread, hstate, Dispatcher.settings_unread]
  exact ⟨hlines, hrun, hstats.trans (by rw [hcount]), by rw [hsettings, hprofile]⟩

end Console

end Optline
