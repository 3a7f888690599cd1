import Optline.Dispatch
import Optline.Proofs.Blank

/-!
# Command lines with and without an answer

A blank line and a comment have no answer and leave everything as it is; every other line has an
answer or fails.  Which of the two a line is can be read off the first of its characters that is no
blank, and does not depend on the dispatcher.

* `IsSilent` — a blank line or a comment.
* `lineTokens?` — the tokens of any other line; all that a line does is what its tokens do.
* **`executeLine_of_silent`**, **`executeLine_ne_none`** — what the two kinds of lines do.
* `executeLines_append_of_silent` — silent lines in front of others may be left out.
* `executeLines_eq_runLines` — to run lines and keep the answers before a failure, or not.
-/

namespace Optline

/-! ## Silent lines -/

/-- Whether a command line is blank or a comment. -/
def IsSilent (cs : List Char) : Prop :=
  ∀ c, Text.firstMark? cs = some c → c = '#'

instance (cs : List Char) : Decidable (IsSilent cs) :=
  match h : Text.firstMark? cs with
  | none => isTrue fun c hc => absurd (h.symm.trans hc) (by simp)
  | some c =>
    if hc : c = '#' then isTrue fun d hd => (Option.some.inj (h.symm.trans hd)).symm.trans hc
    else isFalse fun hall => hc (hall c h)

lemma isSilent_iff_trimmed {line : String} :
    IsSilent line.toList
      ↔ Text.trimmed line = "" ∨ (Text.trimmed line).toList.head? = some '#' := by
  rw [Text.trimmed, String.ofList_eq_empty_iff, String.toList_ofList, Text.head?_trim,
    ← List.head?_eq_none_iff, Text.head?_trim, IsSilent]
  cases Text.firstMark? line.toList with
  | none => simp
  | some c => simp

lemma isSilent_of_blank {cs : List Char} (h : cs.all Text.isBlank = true) : IsSilent cs := by
  intro c hc
  rw [Text.firstMark?_eq_none_iff.mpr h] at hc
  exact absurd hc (by simp)

lemma not_isSilent {cs : List Char} (hblank : cs.all Text.isBlank = false) (hmark : '#' ∉ cs) :
    ¬ IsSilent cs := by
  intro hsilent
  cases h : Text.firstMark? cs with
  | none => simp [Text.firstMark?_eq_none_iff.mp h] at hblank
  | some c =>
      obtain rfl : c = '#' := hsilent c h
      exact hmark (List.mem_of_find?_eq_some h)

/-- The tokens of a command line; nothing if the line is silent or leaves a quote open. -/
def lineTokens? (line : String) : Option (List String) :=
  if IsSilent line.toList then none else Text.quotedWords? (Text.trimmed line)

/-! ## One line -/

namespace Dispatcher

/-- A line with tokens does what the tokens do. -/
theorem executeLine_of_tokens {line : String} {tokens : List String}
    (h : lineTokens? line = some tokens) (d : Dispatcher) :
    d.executeLine line = ⟨(d.execute tokens).result.map some, (d.execute tokens).dispatcher,
      (d.execute tokens).notices⟩ := by
  unfold lineTokens? at h
  split_ifs at h with hsilent
  rw [executeLine, if_neg (mt isSilent_iff_trimmed.mpr hsilent), h]

/-- A line without tokens changes nothing. -/
theorem executeLine_of_no_tokens {line : String} (h : lineTokens? line = none) (d : Dispatcher) :
    (d.executeLine line).dispatcher = d := by
  unfold lineTokens? at h
  split_ifs at h with hsilent
  · rw [executeLine, if_pos (isSilent_iff_trimmed.mp hsilent)]
  · rw [executeLine, if_neg (mt isSilent_iff_trimmed.mpr hsilent), h]

/-- A silent line does nothing. -/
theorem executeLine_of_silent {line : String} (h : IsSilent line.toList) (d : Dispatcher) :
    d.executeLine line = ⟨.ok none, d, []⟩ := by
  rw [executeLine, if_pos (isSilent_iff_trimmed.mp h)]

/-- A line that is not silent has an answer or fails. -/
theorem executeLine_ne_none {line : String} (h : ¬ IsSilent line.toList) (d : Dispatcher) :
    (d.executeLine line).result ≠ .ok none := by
  rw [executeLine, if_neg (mt isSilent_iff_trimmed.mpr h)]
  cases Text.quotedWords? (Text.trimmed line) with
  | none => simp
  | some tokens =>
      simp only
      cases (d.execute tokens).result with
      | error e => simp [Except.map]
      | ok answer => simp [Except.map]

lemma executeLine_eq_none_iff (d : Dispatcher) {line : String} :
    (d.executeLine line).result = .ok none ↔ IsSilent line.toList := by
  constructor
  · intro h
    by_contra hline
    exact executeLine_ne_none hline d h
  · intro h
    rw [executeLine_of_silent h]

/-- The blanks around a line make no difference to it. -/
lemma executeLine_congr {a b : String} (h : Text.trimmed a = Text.trimmed b) (d : Dispatcher) :
    d.executeLine a = d.executeLine b := by
  simp only [executeLine, h]

/-! ## Several lines -/

/-- Silent lines in front of others may be left out. -/
theorem executeLines_append_of_silent {silent : List String}
    (h : ∀ line ∈ silent, IsSilent line.toList) (d : Dispatcher) (rest : List String) :
    d.executeLines (silent ++ rest) = d.executeLines rest := by
  induction silent with
  | nil => rfl
  | cons line silent ih =>
      have hline : d.executeLine line = ⟨.ok none, d, []⟩ :=
        executeLine_of_silent (h line (by simp)) d
      rw [List.cons_append, executeLines, hline]
      simp only [ih fun l hl => h l (by simp [hl]), List.nil_append]

/-! ## Runs whose answers are kept -/

/-- A run as a step: its answers, or the failure that takes them away. -/
def ScriptRun.step (run : ScriptRun) : Step (List Dispatch) where
  result :=
    match run.failure with
    | some e => .error e
    | none => .ok run.answers
  dispatcher := run.dispatcher
  notices := run.notices

lemma runLines_congr {as bs : List String} (h : as.map Text.trimmed = bs.map Text.trimmed)
    (d : Dispatcher) : d.runLines as = d.runLines bs := by
  induction as generalizing bs d with
  | nil =>
      rw [List.map_nil, eq_comm, List.map_eq_nil_iff] at h
      rw [h]
  | cons a as ih =>
      cases bs with
      | nil => simp at h
      | cons b bs =>
          obtain ⟨hline, hrest⟩ := List.cons.inj h
          rw [runLines, runLines, executeLine_congr hline]
          simp only [fun d' : Dispatcher => ih hrest d']

/-- The two ways to run lines differ in the answers before a failure only. -/
theorem executeLines_eq_runLines (d : Dispatcher) (lines : List String) :
    d.executeLines lines = (d.runLines lines).step := by
  induction lines generalizing d with
  | nil => rfl
  | cons line lines ih =>
      rw [executeLines, runLines]
      obtain ⟨result, d', notices⟩ := d.executeLine line
      rcases result with e | _ | answer
      · rfl
      · simp only [ih]
        rfl
      · by_cases hrejected : answer.isRejected = true
        · simp [hrejected, ScriptRun.step]
        · simp only [hrejected, ih]
          cases hfailure : (d'.runLines lines).failure with
          | none => simp [ScriptRun.step, hfailure, Except.map]
          | some e => simp [ScriptRun.step, hfailure, Except.map]

lemma executeScript_eq_runScript (d : Dispatcher) (script : String) :
    d.executeScript script = (d.runScript script).step :=
  d.executeLines_eq_runLines (splitScript script)

end Dispatcher

end Optline
