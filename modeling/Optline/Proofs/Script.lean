import Optline.Proofs.Blank
import Optline.Proofs.Cutting
import Optline.Script

/-!
# The scan of a script

A script is cut only where its scan stands outside quotes and behind no backslash, which is where it
starts; every piece is scanned from there.

* `scriptCutter_cuts_iff` — where a script is cut.
* `crosses_quoted` — what stands between single quotes is crossed as it is.
* **`splitScript_append`**, **`splitScript_lines`** — separators behind complete scripts.
* **`splitScript_congr`** — blanks around a script.
* **`chain_splitScript`**, **`splitScript_intercalate`** — the command lines of a script lead back
  to where a scan starts, all but the last, and command lines that do are the ones of their script.
-/

namespace Optline

open Text

/-! ## Where a script is cut -/

lemma scriptCutter_cuts_iff {s : ScriptState} {c : Char} :
    scriptCutter.cuts s c = true ↔ s = {} ∧ (c = ';' ∨ c = '\n') := by
  obtain ⟨quote, escaped⟩ := s
  cases escaped <;> cases quote <;> simp [scriptCutter]

lemma scriptCutter_next_of_cuts {s : ScriptState} {c : Char} (h : scriptCutter.cuts s c = true) :
    scriptCutter.next s c = {} := by
  obtain ⟨rfl, rfl | rfl⟩ := scriptCutter_cuts_iff.mp h <;> rfl

lemma cutsAtStart_scriptCutter : scriptCutter.CutsAtStart :=
  ⟨fun h => (scriptCutter_cuts_iff.mp h).1, fun h => scriptCutter_next_of_cuts h⟩

/-- Outside quotes only a quote or a backslash changes the state. -/
lemma scriptCutter_next_start {c : Char} (h : c ∉ ['\'', '"', '\\']) :
    scriptCutter.next {} c = {} := by
  simp only [List.mem_cons, List.not_mem_nil, or_false, not_or] at h
  obtain ⟨hsingle, hdouble, hescape⟩ := h
  simp [scriptCutter, ScriptState.next, hsingle, hdouble, hescape]

lemma scriptCutter_after_start {cs : List Char} (h : ∀ c ∈ cs, c ∉ ['\'', '"', '\\']) :
    scriptCutter.after {} cs = {} := by
  induction cs with
  | nil => rfl
  | cons c cs ih =>
      rw [Cutter.after_cons, scriptCutter_next_start (h c (by simp))]
      exact ih fun d hd => h d (by simp [hd])

lemma not_mark_of_isBlank {c : Char} (h : isBlank c = true) : c ∉ ['\'', '"', '\\'] := by
  intro hc
  simp only [List.mem_cons, List.not_mem_nil, or_false] at hc
  rcases hc with rfl | rfl | rfl <;> exact absurd h (by decide)

lemma after_of_blank {cs : List Char} (h : cs.all isBlank = true) :
    scriptCutter.after {} cs = {} :=
  scriptCutter_after_start fun c hc => not_mark_of_isBlank (List.all_eq_true.mp h c hc)

/-- A blank last piece begins outside quotes, and blanks do not lead away from there. -/
lemma after_of_blank_last {cs last : List Char} {done : List (List Char)} {t : ScriptState}
    (hend : scriptCutter.EndsIn {} cs done t last) (hlast : last.all isBlank = true) :
    scriptCutter.after {} cs = {} := by
  have ht : t = {} := by
    rcases hend.start with ⟨-, ht⟩ | ⟨-, u, c, hcut, ht⟩
    · exact ht
    · rw [ht, scriptCutter_next_of_cuts hcut]
  rw [← hend.after_eq, ht, after_of_blank hlast]

lemma mem_splitScript {script line : String} :
    line ∈ splitScript script
      ↔ ∃ piece ∈ scriptCutter.pieces {} script.toList,
          piece.all isBlank = false ∧ String.ofList piece = line := by
  simp [splitScript, and_assoc]

lemma mem_of_mem_splitScript {script line : String} (h : line ∈ splitScript script) {c : Char}
    (hc : c ∈ line.toList) : c ∈ script.toList := by
  obtain ⟨piece, hpiece, -, rfl⟩ := mem_splitScript.mp h
  rw [String.toList_ofList] at hc
  have hkept : c ∈ scriptCutter.kept {} script.toList := by
    rw [← Cutter.flatten_pieces]
    exact List.mem_flatten.mpr ⟨piece, hpiece, hc⟩
  exact (Cutter.kept_sublist _ _ _).subset hkept

lemma not_blank_of_mem_splitScript {script line : String} (h : line ∈ splitScript script) :
    line.toList.all isBlank = false := by
  obtain ⟨piece, -, hblank, rfl⟩ := mem_splitScript.mp h
  rwa [String.toList_ofList]

/-! ## Scripts that are put together -/

/-- Between single quotes nothing but the closing one counts. -/
lemma crosses_between_quotes {cs : List Char} (h : '\'' ∉ cs) :
    scriptCutter.Crosses ⟨some '\'', false⟩ cs ⟨some '\'', false⟩ := by
  induction cs with
  | nil => exact .nil _
  | cons c cs ih =>
      obtain ⟨hc, hcs⟩ : '\'' ≠ c ∧ '\'' ∉ cs := by simpa using h
      have hnext : scriptCutter.next ⟨some '\'', false⟩ c = ⟨some '\'', false⟩ := by
        simp [scriptCutter, ScriptState.next, hc.symm]
      refine .cons rfl ?_
      rw [hnext]
      exact ih hcs

lemma crosses_quoted {cs : List Char} (h : '\'' ∉ cs) :
    scriptCutter.Crosses {} ('\'' :: (cs ++ ['\''])) {} :=
  .cons rfl ((crosses_between_quotes h).append (.cons rfl (.nil _)))

lemma exists_cut_of_separator {sep : String} (h : sep = ";" ∨ sep = "\n") :
    ∃ c, sep.toList = [c] ∧ scriptCutter.cuts {} c = true := by
  rcases h with rfl | rfl
  · exact ⟨';', rfl, rfl⟩
  · exact ⟨'\n', rfl, rfl⟩

/-- **A separator behind a text** that is complete, with no quote and no backslash left open, keeps
the command lines of both sides as they are. -/
theorem splitScript_append {a sep : String} (ha : scriptCutter.after {} a.toList = {})
    (hsep : sep = ";" ∨ sep = "\n") (b : String) :
    splitScript (a ++ sep ++ b) = splitScript a ++ splitScript b := by
  obtain ⟨c, hchars, hc⟩ := exists_cut_of_separator hsep
  have hcut : scriptCutter.cuts (scriptCutter.after {} a.toList) c = true := by rwa [ha]
  have htext : (a ++ sep ++ b).toList = a.toList ++ c :: b.toList := by simp [hchars]
  rw [splitScript, htext, Cutter.pieces_append_cut hcut, scriptCutter_next_of_cuts hcut]
  simp [splitScript]

/-- **Line breaks between texts** that are complete keep the command lines of all of them. -/
theorem splitScript_lines {lines : List String}
    (h : ∀ line ∈ lines, scriptCutter.after {} line.toList = {}) :
    splitScript ("\n".intercalate lines) = lines.flatMap splitScript := by
  induction lines with
  | nil => rfl
  | cons line lines ih =>
      have hrest := ih fun l hl => h l (List.mem_cons_of_mem _ hl)
      by_cases hlines : lines = []
      · simp [hlines]
      · rw [String.intercalate_cons_of_ne_nil hlines,
          splitScript_append (h line List.mem_cons_self) (Or.inr rfl), hrest, List.flatMap_cons]

/-! ## Blanks around a script -/

lemma map_trimmed_splitScript (script : String) :
    (splitScript script).map trimmed
      = (((scriptCutter.pieces {} script.toList).map trim).filter (!·.isEmpty)).map
        String.ofList := by
  simp [splitScript, List.filter_map, Function.comp_def, trimmed, isEmpty_trim]

/-- The pieces of a script without their outer blanks, and those that are left, are the same for the
script without its own.  A blank at an end of the script is a separator next to an empty piece, or
else at the end of a piece. -/
lemma pieces_trim (cs : List Char) :
    ((scriptCutter.pieces {} (trim cs)).map trim).filter (!·.isEmpty)
      = ((scriptCutter.pieces {} cs).map trim).filter (!·.isEmpty) := by
  refine eq_of_trim (f := fun ds => ((scriptCutter.pieces {} ds).map trim).filter (!·.isEmpty))
    (fun c cs hc => ?_) (fun c cs hc => ?_) cs
  · have hnext : scriptCutter.next {} c = {} := scriptCutter_next_start (not_mark_of_isBlank hc)
    cases hcut : scriptCutter.cuts {} c with
    | true =>
        rw [Cutter.pieces_cons_cut hcut, hnext]
        rfl
    | false =>
        obtain ⟨p, ps, hpieces⟩ :=
          List.exists_cons_of_ne_nil (Cutter.pieces_ne_nil scriptCutter {} cs)
        rw [Cutter.pieces_cons_keep hcut, hnext, hpieces, List.modifyHead_cons, List.map_cons,
          List.map_cons, trim_cons_blank hc]
  · obtain ⟨done, t, last, hend⟩ := Cutter.exists_endsIn scriptCutter {} cs
    rw [hend.pieces_append, hend.pieces_eq]
    cases hcut : scriptCutter.cuts (scriptCutter.after {} cs) c with
    | true =>
        have hnil : trim [] = [] := rfl
        rw [Cutter.pieces_cons_cut hcut]
        simp [Cutter.pieces, hnil, List.filter_cons]
    | false =>
        rw [Cutter.pieces_cons_keep hcut]
        simp [Cutter.pieces, trim_concat_blank hc]

/-- Two scripts that differ in their outer blanks have the same command lines, as far as a line is
what stands between its own. -/
theorem splitScript_congr {a b : String} (h : trimmed a = trimmed b) :
    (splitScript a).map trimmed = (splitScript b).map trimmed := by
  have htrim : trim a.toList = trim b.toList := String.ofList_injective h
  rw [map_trimmed_splitScript, map_trimmed_splitScript, ← pieces_trim, htrim, pieces_trim]

/-! ## The command lines of a script -/

/-- The command lines of a script are scanned from the start, one after the other; where the scan of
the script ends, the scan of the last one does. -/
theorem chain_splitScript {script : String} (h : splitScript script ≠ []) :
    scriptCutter.Chain (scriptCutter.after {} script.toList)
      ((splitScript script).map String.toList) := by
  have hlines : (splitScript script).map String.toList
      = (scriptCutter.pieces {} script.toList).filter (!·.all isBlank) := by
    simp [splitScript, Function.comp_def]
  rw [ne_eq, ← List.map_eq_nil_iff (f := String.toList), hlines] at h
  rw [hlines]
  refine (Cutter.chain_pieces cutsAtStart_scriptCutter script.toList).filter (fun p hp => ?_) h
  exact after_of_blank (by simpa using hp)

/-- Every command line but the last leads back to where a scan starts. -/
lemma crosses_of_splitScript {script line : String} {before after : List String}
    (h : splitScript script = before ++ line :: after) :
    (after = [] ∧ scriptCutter.Crosses {} line.toList (scriptCutter.after {} script.toList))
      ∨ (after ≠ [] ∧ scriptCutter.Crosses {} line.toList {}) := by
  have hne : splitScript script ≠ [] := by simp [h]
  have hchain := chain_splitScript hne
  rw [h, List.map_append, List.map_cons] at hchain
  rcases hchain.crosses with ⟨hafter, hcross⟩ | ⟨hafter, hcross⟩
  · exact Or.inl ⟨List.map_eq_nil_iff.mp hafter, hcross⟩
  · exact Or.inr ⟨fun hnil => hafter (by rw [hnil, List.map_nil]), hcross⟩

/-- A script without command lines is blank and leaves nothing open. -/
lemma after_of_splitScript_nil {script : String} (h : splitScript script = []) :
    scriptCutter.after {} script.toList = {} := by
  refine (Cutter.chain_pieces cutsAtStart_scriptCutter script.toList).eq_start fun p hp => ?_
  rw [splitScript, List.map_eq_nil_iff, List.filter_eq_nil_iff] at h
  exact after_of_blank (by simpa using h p hp)

/-- **Separators between command lines** that are not blank cut exactly them apart. -/
theorem splitScript_intercalate {t : ScriptState} {lines : List String} {sep : String}
    (hsep : sep = ";" ∨ sep = "\n") (hlines : scriptCutter.Chain t (lines.map String.toList))
    (hblank : ∀ line ∈ lines, line.toList.all isBlank = false) :
    splitScript (sep.intercalate lines) = lines := by
  obtain ⟨c, hchars, hc⟩ := exists_cut_of_separator hsep
  have hpieces : scriptCutter.pieces {} (sep.intercalate lines).toList
      = lines.map String.toList := by
    rw [String.toList_intercalate, hchars]
    exact hlines.pieces_intercalate cutsAtStart_scriptCutter hc
  rw [splitScript, hpieces]
  exact Cutter.ofList_filter_toList fun line hline => by rw [hblank line hline, Bool.not_false]

end Optline
