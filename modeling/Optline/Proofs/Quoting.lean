import Optline.Proofs.CommandLine
import Optline.Proofs.Script

/-!
# Quotes in the eyes of two scans

A script is read for quotes twice.  One scan cuts it into command lines and keeps every quote and
every backslash; the other reads the words of a line, from which the blanks around it are gone by
then, and takes quotes and backslashes away.  The second one tells many places apart that are the
same to the first, and never the other way round: `Place.scriptState` says what the first one knows
at each place, and every step of the second is a step of the first (`scriptState_next`).  Comments
are the exception, since only the second scan knows them.

* `Place.next` — the way of the second scan through its places.
* **`scan_eq_none_iff`** — it fails where the first one ends inside a quote.
* `quote_after_trim` — the blanks around a text open no quote and close none, even where one of them
  is escaped.
* **`open_quote_only_at_end`** — of the command lines of a script only the last one can fail, and it
  does exactly when the scan of the whole script ends inside a quote.
-/

namespace Optline

open Text

/-! ## From place to place -/

namespace Text.Quoted

/-- Where a scan stands behind a character. -/
def Place.next : Place → Char → Place
  | .gap, c =>
    if c = '\'' then .single
    else if c = '"' then .double
    else if c = '\\' then .gapEscape
    else if isSeparator c then .gap
    else if c = '#' then .comment
    else .word
  | .gapEscape, c => if c = '\n' then .gap else .word
  | .comment, c => if c = '\n' then .gap else .comment
  | .word, c =>
    if c = '\'' then .single
    else if c = '"' then .double
    else if c = '\\' then .wordEscape
    else if isSeparator c then .gap
    else .word
  | .wordEscape, _ => .word
  | .single, c => if c = '\'' then .word else .single
  | .double, c => if c = '"' then .word else if c = '\\' then .doubleEscape else .double
  | .doubleEscape, _ => .double

lemma extend_eq_none_iff {c : Char} {ws : Option (List (List Char))} :
    extend c ws = none ↔ ws = none := by
  simp [extend]

/-- Whether a scan fails depends on the places it comes through, not on the words it has read. -/
lemma scan_cons_eq_none_iff (p : Place) (c : Char) (cs : List Char) :
    scan p (c :: cs) = none ↔ scan (p.next c) cs = none := by
  cases p <;> simp only [scan, Place.next] <;> split_ifs <;> simp [extend_eq_none_iff]

/-! ## What the scan of a script knows -/

/-- What the scan of a script knows at a place. -/
def Place.scriptState : Place → ScriptState
  | .gap | .word | .comment => {}
  | .gapEscape | .wordEscape => { escaped := true }
  | .single => { quote := some '\'' }
  | .double => { quote := some '"' }
  | .doubleEscape => { quote := some '"', escaped := true }

lemma scan_nil_eq_none_iff {p : Place} : scan p [] = none ↔ p.scriptState.quote ≠ none := by
  cases p <;> simp [scan, Place.scriptState]

/-- Outside comments a step of the one scan is a step of the other.  What a backslash does between
double quotes is up to the character behind it here and not there, but both go on between them. -/
lemma scriptState_next {p : Place} {c : Char} (hp : p ≠ .comment) (hc : c ≠ '#') :
    (p.next c).scriptState = scriptCutter.next p.scriptState c ∧ p.next c ≠ .comment := by
  cases p
  all_goals
    simp only [Place.next, scriptCutter, Place.scriptState, ScriptState.next]
    split_ifs <;> simp_all

/-- **A scan fails where the scan of a script ends inside a quote.** -/
theorem scan_eq_none_iff {p : Place} (hp : p ≠ .comment) {cs : List Char} (hcs : '#' ∉ cs) :
    scan p cs = none ↔ (scriptCutter.after p.scriptState cs).quote ≠ none := by
  induction cs generalizing p with
  | nil => exact scan_nil_eq_none_iff
  | cons c cs ih =>
      obtain ⟨hc, hrest⟩ : '#' ≠ c ∧ '#' ∉ cs := by simpa using hcs
      obtain ⟨hstate, hnext⟩ := scriptState_next hp hc.symm
      rw [scan_cons_eq_none_iff, ih hnext hrest, hstate, Cutter.after_cons]

lemma split?_eq_none_iff {cs : List Char} (hcs : '#' ∉ cs) :
    split? cs = none ↔ (scriptCutter.after {} cs).quote ≠ none :=
  scan_eq_none_iff (p := .gap) (by simp) hcs

end Text.Quoted

/-! ## Blanks around a line -/

lemma quote_next (s : ScriptState) (c : Char) :
    (scriptCutter.next s c).quote = s.quote ∨ (scriptCutter.next s c).quote = none
      ∨ (scriptCutter.next s c).quote = some c ∧ (c = '"' ∨ c = '\'') := by
  simp only [scriptCutter, ScriptState.next]
  split
  · exact Or.inl rfl
  · split
    · exact Or.inl rfl
    · split
      · split
        · next hc => exact Or.inr (Or.inr ⟨rfl, hc⟩)
        · exact Or.inl rfl
      · split
        · exact Or.inr (Or.inl rfl)
        · exact Or.inl rfl

/-- A quote that is open was opened by one of the two marks. -/
lemma quote_after_mem (cs : List Char) :
    (scriptCutter.after {} cs).quote ∈ [none, some '\'', some '"'] := by
  induction cs using List.reverseRecOn with
  | nil => simp
  | append_singleton cs c ih =>
      rw [Cutter.after_append, Cutter.after_cons, Cutter.after_nil]
      rcases quote_next (scriptCutter.after {} cs) c with h | h | ⟨h, rfl | rfl⟩
      · rwa [h]
      · simp [h]
      · simp [h]
      · simp [h]

lemma quote_next_of_isBlank {s : ScriptState} {c : Char}
    (hs : s.quote ∈ [none, some '\'', some '"']) (hc : isBlank c = true) :
    (scriptCutter.next s c).quote = s.quote := by
  have hmark := not_mark_of_isBlank hc
  simp only [List.mem_cons, List.not_mem_nil, or_false, not_or] at hs hmark
  obtain ⟨quote, escaped⟩ := s
  rcases hs with rfl | rfl | rfl <;> cases escaped <;> simp [scriptCutter, ScriptState.next, hmark]

lemma quote_after_append_blank (cs : List Char) {bs : List Char} (h : bs.all isBlank = true) :
    (scriptCutter.after {} (cs ++ bs)).quote = (scriptCutter.after {} cs).quote := by
  induction bs using List.reverseRecOn with
  | nil => simp
  | append_singleton bs b ih =>
      rw [List.all_append, Bool.and_eq_true] at h
      have hb : isBlank b = true := by simpa using h.2
      rw [← List.append_assoc, Cutter.after_append, ← ih h.1]
      exact quote_next_of_isBlank (quote_after_mem _) hb

/-- Trimming opens no quote and closes none.  A backslash may lose the blank that it escapes. -/
theorem quote_after_trim (cs : List Char) :
    (scriptCutter.after {} (trim cs)).quote = (scriptCutter.after {} cs).quote := by
  obtain ⟨leading, trailing, hcs, hleading, htrailing⟩ := exists_trim_between cs
  conv_rhs => rw [hcs, Cutter.after_append, after_of_blank hleading]
  rw [quote_after_append_blank _ htrailing]

/-! ## The command lines of a script -/

lemma quotedWords?_trimmed_eq_none_iff {line : String} (h : '#' ∉ line.toList) :
    quotedWords? (trimmed line) = none ↔ (scriptCutter.after {} line.toList).quote ≠ none := by
  have htrim : '#' ∉ trim line.toList := by
    obtain ⟨leading, trailing, hline, -, -⟩ := exists_trim_between line.toList
    intro hmem
    exact h (by rw [hline]; simp [hmem])
  rw [quotedWords?, trimmed, String.toList_ofList, Option.map_eq_none_iff,
    Quoted.split?_eq_none_iff htrim, quote_after_trim]

/-- In a script without comments it is the last line or none that leaves a quote open. -/
lemma quotedWords?_eq_none_iff_last {script line : String} {before after : List String}
    (h : '#' ∉ script.toList) (hsplit : splitScript script = before ++ line :: after) :
    quotedWords? (trimmed line) = none
      ↔ after = [] ∧ (scriptCutter.after {} script.toList).quote ≠ none := by
  have hmem : line ∈ splitScript script := by simp [hsplit]
  have hcomment : '#' ∉ line.toList := fun hmark => h (mem_of_mem_splitScript hmem hmark)
  rw [quotedWords?_trimmed_eq_none_iff hcomment]
  rcases crosses_of_splitScript hsplit with ⟨hafter, hcross⟩ | ⟨hafter, hcross⟩
  · rw [hcross.after_eq]
    simp [hafter]
  · rw [hcross.after_eq]
    simp [hafter]

/-- A line that is neither blank nor a comment and leaves a quote open is refused as a whole. -/
lemma executeLine_of_open_quote {line : String} (hline : ¬ IsSilent line.toList)
    (h : quotedWords? (trimmed line) = none) (d : Dispatcher) :
    (d.executeLine line).result = .error (.openQuote (trimmed line)) := by
  rw [Dispatcher.executeLine, if_neg (mt isSilent_iff_trimmed.mpr hline), h]

/-- **Only the last line can leave a quote open.**  In a script without comments every command line
but the last ends where the scan of the script stands outside quotes and behind no backslash, and
its words can be read.  So can those of the last line, unless the scan of the whole script ends
inside a quote; then there is a last line, and no dispatcher accepts it. -/
theorem open_quote_only_at_end {script : String} (h : '#' ∉ script.toList) :
    (∀ before line after, splitScript script = before ++ line :: after →
        (quotedWords? (trimmed line) = none
          ↔ after = [] ∧ (scriptCutter.after {} script.toList).quote ≠ none)
        ∧ (after ≠ [] → scriptCutter.after {} line.toList = {}))
      ∧ ((scriptCutter.after {} script.toList).quote ≠ none →
        ∃ before line, splitScript script = before ++ [line]
          ∧ (DispatchError.openQuote (trimmed line)).fault.causes = ["missing closing quote"]
          ∧ ∀ d : Dispatcher,
            (d.executeLine line).result = .error (.openQuote (trimmed line))) := by
  refine ⟨fun before line after hsplit => ⟨quotedWords?_eq_none_iff_last h hsplit, ?_⟩,
    fun hopen => ?_⟩
  · intro hne
    rcases crosses_of_splitScript hsplit with ⟨hafter, -⟩ | ⟨-, hcross⟩
    · exact absurd hafter hne
    · exact hcross.after_eq
  · have hne : splitScript script ≠ [] := by
      intro hnil
      exact hopen (by rw [after_of_splitScript_nil hnil])
    obtain ⟨before, line, hsplit⟩ := (List.eq_nil_or_concat' _).resolve_left hne
    have hmem : line ∈ splitScript script := by simp [hsplit]
    have hsilent : ¬ IsSilent line.toList :=
      not_isSilent (not_blank_of_mem_splitScript hmem) fun hmark =>
        h (mem_of_mem_splitScript hmem hmark)
    have hwords : quotedWords? (trimmed line) = none :=
      (quotedWords?_eq_none_iff_last h hsplit).mpr ⟨rfl, hopen⟩
    exact ⟨before, line, hsplit, rfl, executeLine_of_open_quote hsilent hwords⟩

/-- A semicolon between quotes, a backslash that loses its blank, and a quote that stays open. -/
theorem open_quote_only_at_end_unclosed :
    let script := "x \"a;\\\"b\"; y\\ ; 'it"
    '#' ∉ script.toList
      ∧ splitScript script = ["x \"a;\\\"b\"", " y\\ ", " 'it"]
      ∧ quotedWords? (trimmed " y\\ ") ≠ none
      ∧ quotedWords? (trimmed " 'it") = none := by
  intro script
  have h : '#' ∉ script.toList := by decide +kernel
  have hsplit : splitScript script = ["x \"a;\\\"b\"", " y\\ ", " 'it"] := by decide +kernel
  have hopen : (scriptCutter.after {} script.toList).quote ≠ none := by decide +kernel
  obtain ⟨hlines, -⟩ := open_quote_only_at_end h
  obtain ⟨hclosed, -⟩ := hlines ["x \"a;\\\"b\""] " y\\ " [" 'it"] hsplit
  obtain ⟨hlast, -⟩ := hlines ["x \"a;\\\"b\"", " y\\ "] " 'it" [] hsplit
  exact ⟨h, hsplit, by simp [hclosed], hlast.mpr ⟨rfl, hopen⟩⟩

end Optline
