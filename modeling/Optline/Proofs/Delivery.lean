import Optline.Builtin
import Optline.Proofs.CommandLine
import Optline.Proofs.Script

/-!
# Quoted tokens

Three scans stand between a script and the tokens of its commands: one cuts the script, one trims
the line and looks for a comment, one splits the line into words.  A token between single quotes
goes through all three as it is, since none of them gives any character but the closing quote a
meaning there, and since the quotes keep the line from looking blank or like a comment.

* `quotedScript` — invocations as a script, every token between single quotes.
* `Dispatcher.executeEach` — invocations executed one after the other, up to the first that is
  rejected or fails.
* **`quoted_tokens_delivered`** — to run the script is to execute the invocations.
-/

namespace Optline

open Text

/-! ## Writing invocations -/

/-- A token between single quotes. -/
def singleQuoted (token : String) : String :=
  "'" ++ token ++ "'"

/-- An invocation as a command line. -/
def quotedLine (tokens : List String) : String :=
  unwords (tokens.map singleQuoted)

/-- Invocations as a script. -/
def quotedScript (invocations : List (List String)) : String :=
  ";".intercalate (invocations.map quotedLine)

/-- An invocation that single quotes can write: it has a token, and none with a single quote. -/
structure Quotable (tokens : List String) : Prop where
  ne_nil : tokens ≠ []
  plain : ∀ token ∈ tokens, '\'' ∉ token.toList

/-- A written invocation is a token, or a token in front of another written invocation. -/
@[elab_as_elim]
theorem Quotable.token_induction {motive : List String → Prop}
    (single : ∀ token, '\'' ∉ token.toList → motive [token])
    (cons : ∀ token tokens, '\'' ∉ token.toList → tokens ≠ [] → motive tokens →
      motive (token :: tokens))
    {tokens : List String} (h : Quotable tokens) : motive tokens := by
  obtain ⟨hne, hplain⟩ := h
  induction tokens with
  | nil => exact absurd rfl hne
  | cons token tokens ih =>
      have htoken := hplain token List.mem_cons_self
      cases tokens with
      | nil => exact single token htoken
      | cons next rest =>
          have hrest := ih (by simp) fun t ht => hplain t (List.mem_cons_of_mem _ ht)
          exact cons token _ htoken (by simp) hrest

lemma toList_singleQuoted (token : String) :
    (singleQuoted token).toList = '\'' :: (token.toList ++ ['\'']) := by
  simp [singleQuoted]

lemma toList_quotedLine_singleton (token : String) :
    (quotedLine [token]).toList = '\'' :: (token.toList ++ ['\'']) := by
  rw [quotedLine, List.map_singleton, unwords, String.intercalate_singleton, toList_singleQuoted]

lemma toList_quotedLine_cons {token : String} {tokens : List String} (h : tokens ≠ []) :
    (quotedLine (token :: tokens)).toList
      = '\'' :: (token.toList ++ '\'' :: ' ' :: (quotedLine tokens).toList) := by
  obtain ⟨next, rest, rfl⟩ := List.exists_cons_of_ne_nil h
  simp [quotedLine, unwords, String.intercalate_cons_cons, toList_singleQuoted]

/-- A written invocation begins and ends with a quote. -/
lemma exists_toList_quotedLine {tokens : List String} (h : Quotable tokens) :
    ∃ mid, (quotedLine tokens).toList = '\'' :: (mid ++ ['\'']) := by
  refine h.token_induction (fun token _ => ?single) fun token tokens _ hne ih => ?cons
  case single => exact ⟨token.toList, toList_quotedLine_singleton token⟩
  case cons =>
      obtain ⟨mid, hmid⟩ := ih
      refine ⟨token.toList ++ '\'' :: ' ' :: '\'' :: mid, ?_⟩
      rw [toList_quotedLine_cons hne, hmid]
      simp

/-! ## The scan of the script -/

lemma crosses_quotedLine {tokens : List String} (h : Quotable tokens) :
    scriptCutter.Crosses {} (quotedLine tokens).toList {} := by
  refine h.token_induction (fun token htoken => ?single) fun token tokens htoken hne ih => ?cons
  case single =>
      rw [toList_quotedLine_singleton]
      exact crosses_quoted htoken
  case cons =>
      have hjoin := (crosses_quoted htoken).append (.cons (c := ' ') rfl ih)
      rw [toList_quotedLine_cons hne]
      simpa using hjoin

lemma not_blank_quotedLine {tokens : List String} (h : Quotable tokens) :
    (quotedLine tokens).toList.all isBlank = false := by
  obtain ⟨mid, hmid⟩ := exists_toList_quotedLine h
  have hquote : isBlank '\'' = false := by decide
  simp [hmid, hquote]

/-- The command lines of the script are the written invocations. -/
theorem splitScript_quotedScript {invocations : List (List String)}
    (h : ∀ tokens ∈ invocations, Quotable tokens) :
    splitScript (quotedScript invocations) = invocations.map quotedLine := by
  by_cases hne : invocations = []
  · rw [hne]
    rfl
  · refine splitScript_intercalate (Or.inl rfl) (.of_forall (by simpa using hne) ?_) ?_
    · intro line hline
      obtain ⟨_, hmem, rfl⟩ := List.mem_map.mp hline
      obtain ⟨tokens, htokens, rfl⟩ := List.mem_map.mp hmem
      exact crosses_quotedLine (h tokens htokens)
    · intro line hline
      obtain ⟨tokens, htokens, rfl⟩ := List.mem_map.mp hline
      exact not_blank_quotedLine (h tokens htokens)

/-! ## The words of a line -/

namespace Text.Quoted

/-- Between single quotes a word grows by what stands there. -/
lemma scan_single {cs rest word : List Char} {words : List (List Char)} (h : '\'' ∉ cs)
    (hrest : scan .word rest = some (word :: words)) :
    scan .single (cs ++ '\'' :: rest) = some ((cs ++ word) :: words) := by
  induction cs with
  | nil => simpa [scan] using hrest
  | cons c cs ih =>
      obtain ⟨hc, hcs⟩ : '\'' ≠ c ∧ '\'' ∉ cs := by simpa using h
      rw [List.cons_append, scan, if_neg hc.symm, ih hcs]
      rfl

end Text.Quoted

lemma split?_quotedLine {tokens : List String} (h : Quotable tokens) :
    Quoted.split? (quotedLine tokens).toList = some (tokens.map String.toList) := by
  rw [Quoted.split?]
  refine h.token_induction (fun token htoken => ?single) fun token tokens htoken hne ih => ?cons
  case single =>
      rw [toList_quotedLine_singleton, Quoted.scan, if_pos rfl, Quoted.scan_single htoken rfl]
      simp
  case cons =>
      have hgap : Quoted.scan .word (' ' :: (quotedLine tokens).toList)
          = some ([] :: tokens.map String.toList) := by
        simp [Quoted.scan, Quoted.isSeparator, ih]
      rw [toList_quotedLine_cons hne, Quoted.scan, if_pos rfl, Quoted.scan_single htoken hgap]
      simp

/-- A written invocation is read back token by token. -/
theorem lineTokens?_quotedLine {tokens : List String} (h : Quotable tokens) :
    lineTokens? (quotedLine tokens) = some tokens := by
  obtain ⟨mid, hmid⟩ := exists_toList_quotedLine h
  have hquote : isBlank '\'' = false := by decide
  have hsilent : ¬ IsSilent (quotedLine tokens).toList := by
    -- The first quote is already neither blank nor the mark of a comment.
    rw [hmid]
    intro hall
    exact absurd (hall '\'' (by simp [firstMark?, hquote])) (by decide)
  have htrim : trimmed (quotedLine tokens) = quotedLine tokens := by
    rw [trimmed, hmid, trim_eq_self mid hquote hquote, ← hmid, String.ofList_toList]
  rw [lineTokens?, if_neg hsilent, htrim, quotedWords?, split?_quotedLine h]
  simp [Function.comp_def]

/-! ## Runs -/

namespace Dispatcher

/-- Executes invocations one after the other, up to the first that is rejected or fails. -/
def executeEach (d : Dispatcher) : List (List String) → ScriptRun
  | [] => ⟨[], none, d, []⟩
  | tokens :: rest =>
    let step := d.execute tokens
    match step.result with
    | .error e => ⟨[], some e, step.dispatcher, step.notices⟩
    | .ok answer =>
      if answer.isRejected then ⟨[answer], none, step.dispatcher, step.notices⟩
      else
        let tail := step.dispatcher.executeEach rest
        { tail with answers := answer :: tail.answers, notices := step.notices ++ tail.notices }

lemma runLines_quoted {invocations : List (List String)}
    (h : ∀ tokens ∈ invocations, Quotable tokens) (d : Dispatcher) :
    d.runLines (invocations.map quotedLine) = d.executeEach invocations := by
  induction invocations generalizing d with
  | nil => rfl
  | cons tokens rest ih =>
      have hline := executeLine_of_tokens (lineTokens?_quotedLine (h tokens List.mem_cons_self)) d
      have hrest := ih fun t ht => h t (List.mem_cons_of_mem _ ht)
      rw [List.map_cons, runLines, executeEach, hline]
      cases hresult : (d.execute tokens).result with
      | error e => rfl
      | ok answer => simp only [Except.map, hrest]

/-- **Quoted tokens are delivered as they are.**  A script of invocations that single quotes can
write does what the invocations do: with the same answers up to the first rejection or failure, the
same failure, and the same state after it.  Where nobody keeps the answers, a failure takes those
before it away, and nothing else changes. -/
theorem quoted_tokens_delivered {invocations : List (List String)}
    (h : ∀ tokens ∈ invocations, Quotable tokens) (d : Dispatcher) :
    d.runScript (quotedScript invocations) = d.executeEach invocations
      ∧ d.executeScript (quotedScript invocations) = (d.executeEach invocations).step := by
  have hrun : d.runScript (quotedScript invocations) = d.executeEach invocations := by
    rw [runScript, splitScript_quotedScript h, runLines_quoted h]
  refine ⟨hrun, ?_⟩
  rw [executeScript, executeLines_eq_runLines, ← runScript, hrun]

/-- Tokens that each of the three scans would take for something else without the quotes. -/
theorem quoted_tokens_delivered_marks :
    let d : Dispatcher := { registry := builtinRegistry, settings := { profile := false } }
    let invocations := [["echo", "-text", "#a; \"b\\", "\n", ""], ["sleep", "\x7bx"], ["echo"]]
    (∀ tokens ∈ invocations, Quotable tokens)
      ∧ quotedScript invocations
        = "'echo' '-text' '#a; \"b\\' '\n' '';'sleep' '\x7bx';'echo'"
      ∧ d.executeScript (quotedScript invocations) = (d.executeEach invocations).step
      ∧ (d.executeEach invocations).answers.length = 3 := by
  intro d invocations
  have h : ∀ tokens ∈ invocations, Quotable tokens := by
    intro tokens htokens
    constructor
    · rintro rfl
      exact absurd htokens (by decide)
    · revert tokens
      decide +kernel
  exact ⟨h, by decide +kernel, (quoted_tokens_delivered h d).2, by decide +kernel⟩

end Dispatcher

end Optline
