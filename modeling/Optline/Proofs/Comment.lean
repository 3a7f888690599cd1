import Optline.Builtin
import Optline.Proofs.Script
import Optline.Proofs.Stopping

/-!
# Comments in scripts

A comment line ought to change nothing.  A script is cut into command lines before anyone looks for
comments, though, and the scan that cuts it reads the text of a comment like any other text: a quote
or a backslash in it can take the lines below into the comment, and a semicolon ends it.

* `IsQuiet` — a comment in whose text the scan finds nothing of this kind.
* **`comment_inert_iff`** — quiet comments are exactly the ones that never change anything.
* `comment_not_inert` — an apostrophe that hides a command, and a semicolon that uncovers one.

What a script does is compared through `executeLines_eq_nil_iff`: two scripts suffice to find out a
comment that is not quiet, the empty one, which has no answer, and one of a single word, which has
one or fails.
-/

namespace Optline

open Text

/-! ## Scripts without an answer -/

/-- Blank pieces are left out of a script, but they would be silent anyway. -/
lemma forall_mem_splitScript_iff {script : String} :
    (∀ line ∈ splitScript script, IsSilent line.toList)
      ↔ ∀ piece ∈ scriptCutter.pieces {} script.toList, IsSilent piece := by
  constructor
  · intro h piece hpiece
    cases hblank : piece.all isBlank with
    | true => exact isSilent_of_blank hblank
    | false =>
        have hline := h _ (mem_splitScript.mpr ⟨piece, hpiece, hblank, rfl⟩)
        rwa [String.toList_ofList] at hline
  · intro h line hline
    obtain ⟨piece, hpiece, -, rfl⟩ := mem_splitScript.mp hline
    rw [String.toList_ofList]
    exact h piece hpiece

/-- A script without any answer holds nothing but blank lines and comments. -/
theorem executeScript_eq_nil_iff {d : Dispatcher} {script : String} :
    (d.executeScript script).result = .ok []
      ↔ ∀ piece ∈ scriptCutter.pieces {} script.toList, IsSilent piece := by
  rw [Dispatcher.executeScript, Dispatcher.executeLines_eq_nil_iff, forall_mem_splitScript_iff]

/-! ## Quiet comments -/

/-- Whether two runs have the same answers or the same failure and leave the same settings. -/
def SameRun {α : Type} (a b : Step α) : Prop :=
  a.result = b.result ∧ a.dispatcher.settings = b.dispatcher.settings

/-- A comment in whose text no quote is left open, no backslash is left over at the end, and nothing
but blank lines and further comments stands behind a semicolon. -/
structure IsQuiet (text : String) : Prop where
  closed : scriptCutter.after {} ('#' :: text.toList) = {}
  silent : ∀ piece ∈ scriptCutter.pieces {} ('#' :: text.toList), IsSilent piece

lemma toList_comment (text script : String) :
    ("#" ++ text ++ "\n" ++ script).toList = ('#' :: text.toList) ++ '\n' :: script.toList := by
  simp

/-- A quiet comment leaves a script as it is, down to the notices. -/
theorem executeScript_comment {text : String} (h : IsQuiet text) (d : Dispatcher)
    (script : String) :
    d.executeScript ("#" ++ text ++ "\n" ++ script) = d.executeScript script := by
  have htext : ("#" ++ text).toList = '#' :: text.toList := by simp
  have hclosed : scriptCutter.after {} ("#" ++ text).toList = {} := by rw [htext, h.closed]
  have hsilent : ∀ line ∈ splitScript ("#" ++ text), IsSilent line.toList := by
    rw [forall_mem_splitScript_iff, htext]
    exact h.silent
  rw [Dispatcher.executeScript, splitScript_append hclosed (Or.inr rfl)]
  exact Dispatcher.executeLines_append_of_silent hsilent d _

/-- A text of one word is a script with an answer or a failure. -/
lemma executeScript_word_ne_nil (d : Dispatcher) : (d.executeScript "x").result ≠ .ok [] := by
  rw [ne_eq, executeScript_eq_nil_iff]
  intro h
  have hsilent : IsSilent ['x'] := h ['x'] (by decide)
  exact absurd (hsilent 'x' (by decide)) (by decide)

/-- Where a scan does not end outside quotes, its last piece swallows the line break and goes on in
the line below.  The word there belongs to a piece that begins as it did without the word. -/
lemma silent_word_of_open {cs : List Char} (hopen : scriptCutter.after {} cs ≠ {})
    (h : ∀ piece ∈ scriptCutter.pieces {} (cs ++ ['\n']), IsSilent piece) :
    ∀ piece ∈ scriptCutter.pieces {} (cs ++ ['\n', 'x']), IsSilent piece := by
  obtain ⟨done, t, last, hend⟩ := Cutter.exists_endsIn scriptCutter {} cs
  have hkeep : scriptCutter.cuts (scriptCutter.after {} cs) '\n' = false := by
    rw [← Bool.not_eq_true, scriptCutter_cuts_iff]
    exact fun hcut => hopen hcut.1
  have hx : ∀ s, scriptCutter.pieces s ['x'] = [['x']] := by
    intro s
    refine Cutter.pieces_eq_singleton ?_ rfl
    rw [← Bool.not_eq_true, scriptCutter_cuts_iff]
    simp
  rw [hend.pieces_append, Cutter.pieces_eq_singleton hkeep rfl] at h
  rw [hend.pieces_append, Cutter.pieces_eq_singleton hkeep (hx _)]
  have hlast : IsSilent (last ++ ['\n']) := h _ (by simp)
  intro piece hpiece
  rcases List.mem_append.mp hpiece with hdone | hpiece
  · exact h piece (List.mem_append_left _ hdone)
  · obtain rfl : piece = last ++ ['\n', 'x'] := by simpa using hpiece
    cases hmark : firstMark? last with
    -- After blanks alone the scan would be outside quotes, where the piece began.
    | none => exact absurd (after_of_blank_last hend (firstMark?_eq_none_iff.mp hmark)) hopen
    | some c =>
        have hc : c = '#' := hlast c (by rw [firstMark?_append, hmark]; rfl)
        intro d hd
        rw [firstMark?_append, hmark, Option.some_or, Option.some.injEq] at hd
        rw [← hd, hc]

/-- The empty script shows that all pieces of the comment are silent, and the word that nothing is
left open in it. -/
lemma isQuiet_of_sameResult {d : Dispatcher} {text : String}
    (h : ∀ script, (d.executeScript ("#" ++ text ++ "\n" ++ script)).result
      = (d.executeScript script).result) : IsQuiet text := by
  have hempty : ∀ piece ∈ scriptCutter.pieces {} (('#' :: text.toList) ++ ['\n']),
      IsSilent piece := by
    have hnil : (d.executeScript "").result = .ok [] := rfl
    rw [← h "", executeScript_eq_nil_iff, toList_comment] at hnil
    exact hnil
  have hword : ¬ ∀ piece ∈ scriptCutter.pieces {} (('#' :: text.toList) ++ ['\n', 'x']),
      IsSilent piece := by
    have hne := executeScript_word_ne_nil d
    rw [← h "x", ne_eq, executeScript_eq_nil_iff, toList_comment] at hne
    exact hne
  have hclosed : scriptCutter.after {} ('#' :: text.toList) = {} := by
    by_contra hopen
    exact hword (silent_word_of_open hopen hempty)
  refine ⟨hclosed, fun piece hpiece => hempty piece ?_⟩
  rw [Cutter.pieces_append_cut (by rw [hclosed]; rfl)]
  exact List.mem_append_left _ hpiece

/-- A text without quotes, backslashes, semicolons and line breaks is one piece, and the scan of it
never leaves the state in which it starts. -/
lemma pieces_of_plain {cs : List Char} (h : ∀ c ∈ cs, c ∉ ['\'', '"', '\\', ';', '\n']) :
    scriptCutter.pieces {} cs = [cs] := by
  induction cs with
  | nil => rfl
  | cons c cs ih =>
      have hc : c ∉ ['\'', '"', '\\', ';', '\n'] := h c (by simp)
      simp only [List.mem_cons, List.not_mem_nil, or_false, not_or] at hc
      obtain ⟨hsingle, hdouble, hescape, hsemicolon, hnewline⟩ := hc
      refine Cutter.pieces_eq_singleton ?_ ?_
      · rw [← Bool.not_eq_true, scriptCutter_cuts_iff]
        simp [hsemicolon, hnewline]
      · rw [scriptCutter_next_start (by simp [hsingle, hdouble, hescape])]
        exact ih fun d hd => h d (by simp [hd])

lemma isQuiet_of_plain {text : String}
    (h : ∀ c ∈ text.toList, c ∉ ['\'', '"', '\\', ';', '\n']) : IsQuiet text := by
  have hall : ∀ c ∈ '#' :: text.toList, c ∉ ['\'', '"', '\\', ';', '\n'] := by
    rintro c (_ | ⟨_, hc⟩)
    · decide
    · exact h c hc
  refine ⟨scriptCutter_after_start fun c hc => ?_, ?_⟩
  · have hplain := hall c hc
    simp only [List.mem_cons, not_or] at hplain ⊢
    exact ⟨hplain.1, hplain.2.1, hplain.2.2.1, List.not_mem_nil⟩
  · rw [pieces_of_plain hall]
    intro piece hpiece c hc
    obtain rfl : piece = '#' :: text.toList := by simpa using hpiece
    have hmark : firstMark? ('#' :: text.toList) = some '#' := rfl
    rw [hmark, Option.some.injEq] at hc
    exact hc.symm

/-! ## What comments change -/

/-- **Quiet comments are the ones that never change anything.**  Whatever the dispatcher, a comment
line in front of a script leaves the answers, the failure and the settings of every script as they
are if and only if it is quiet; and a comment without quotes, backslashes and semicolons is. -/
theorem comment_inert_iff (d : Dispatcher) (text : String) :
    ((∀ script, SameRun (d.executeScript ("#" ++ text ++ "\n" ++ script)) (d.executeScript script))
        ↔ IsQuiet text)
      ∧ ((∀ c ∈ text.toList, c ∉ ['\'', '"', '\\', ';', '\n']) → IsQuiet text) := by
  refine ⟨⟨fun h => ?_, fun h script => ?_⟩, isQuiet_of_plain⟩
  · exact isQuiet_of_sameResult fun script => (h script).1
  · rw [executeScript_comment h]
    exact ⟨rfl, rfl⟩

/-- An apostrophe in a comment takes the command below into the comment, and what stands behind a
semicolon in a comment is executed: here a script with an answer loses it, and a script without
gains one. -/
theorem comment_not_inert :
    let d : Dispatcher := { registry := builtinRegistry, settings := { profile := false } }
    ((d.executeScript ("#" ++ " don't" ++ "\n" ++ "echo -text hi")).result = .ok []
        ∧ (d.executeScript "echo -text hi").result ≠ .ok [])
      ∧ ((d.executeScript ("#" ++ " a; echo -text b" ++ "\n" ++ "")).result ≠ .ok []
        ∧ (d.executeScript "").result = .ok []) := by
  simp only [ne_eq, executeScript_eq_nil_iff]
  decide +kernel

end Optline
