import Optline.Proofs.Blank
import Optline.Proofs.Cutting
import Optline.Proofs.Segment

/-!
# The tokens of a specification text

A specification text is cut only where all braces are closed, which is where the scan of it starts.
So each of its tokens closes all braces that it opens, the last one apart; and tokens that do can be
joined by single spaces, whatever blanks stood between them before.

* `groupCutter` — cuts at the characters of any class outside braces; `braceCutter` is the one for blanks.
* `Spaced` — token lists that single spaces keep apart.
* **`spaced_splitSpec`**, **`splitSpec_unwords`** — the tokens of a text are such a list, and every
  such list is the tokens of a text.
* **`splitSpec_intercalate`** — the tokens of texts that are joined by blanks of any kind.
* `exists_of_flag_mem_marks` — what flags look like among the tokens of a text.
* `IsWord`, `marks_cons_word`, `marks_cons_flag`, `marks_minus` — what a token is taken for.
* `word_mem_marks`, `flag_mem_marks` — what is taken for a word, and for a flag.
-/

namespace Optline

open Text

/-! ## Where a specification text is cut -/

/-- Cuts at the characters of a class that are outside all braces. -/
def groupCutter (separates : Char → Bool) : Cutter Nat where
  start := 0
  next := braceDepth
  cuts depth c := depth == 0 && separates c

section

variable {separates : Char → Bool} {depth : Nat} {c : Char}

lemma groupCutter_cuts_iff :
    (groupCutter separates).cuts depth c = true ↔ depth = 0 ∧ separates c = true := by
  simp [groupCutter]

variable (hopening : separates '{' = false) (hclosing : separates '}' = false)

include hopening hclosing

lemma braceDepth_of_separates (h : separates c = true) (depth : Nat) : braceDepth depth c = depth := by
  have hne : c ≠ '{' := by
    rintro rfl
    exact absurd (h.symm.trans hopening) (by simp)
  have hne' : c ≠ '}' := by
    rintro rfl
    exact absurd (h.symm.trans hclosing) (by simp)
  rw [braceDepth, if_neg hne, if_neg hne']

lemma cutsAtStart_groupCutter : (groupCutter separates).CutsAtStart := by
  refine ⟨fun h => (groupCutter_cuts_iff.mp h).1, fun h => ?_⟩
  obtain ⟨rfl, hseparates⟩ := groupCutter_cuts_iff.mp h
  exact braceDepth_of_separates hopening hclosing hseparates 0

end

lemma braceCutter_eq : braceCutter = groupCutter isBlank := rfl

lemma braceCutter_cuts_iff {depth : Nat} {c : Char} :
    braceCutter.cuts depth c = true ↔ depth = 0 ∧ isBlank c = true :=
  groupCutter_cuts_iff

lemma braceDepth_of_isBlank {c : Char} (h : isBlank c = true) (depth : Nat) :
    braceDepth depth c = depth :=
  braceDepth_of_separates (by decide) (by decide) h depth

lemma cutsAtStart_braceCutter : braceCutter.CutsAtStart :=
  cutsAtStart_groupCutter (by decide) (by decide)

/-- A minus in front of a token leaves its braces as they are. -/
lemma crosses_minus {cs : List Char} {depth : Nat} (h : braceCutter.Crosses 0 cs depth) :
    braceCutter.Crosses 0 ('-' :: cs) depth :=
  .cons rfl h

/-- A text that is scanned in one piece ends in a blank only within braces. -/
lemma not_isBlank_of_crosses {cs : List Char} {c : Char}
    (h : braceCutter.Crosses 0 (cs ++ [c]) 0) : isBlank c = false := by
  by_contra hne
  have hc : isBlank c = true := by simpa using hne
  have hafter : braceCutter.after 0 cs = 0 := by
    have hend := h.after_eq
    rw [Cutter.after_append] at hend
    exact (braceDepth_of_isBlank hc _).symm.trans hend
  have hcut : braceCutter.cuts (braceCutter.after 0 cs) c = true :=
    braceCutter_cuts_iff.mpr ⟨hafter, hc⟩
  have hpieces := h.whole
  rw [Cutter.pieces_append_cut hcut, List.append_eq_singleton_iff] at hpieces
  rcases hpieces with ⟨hnil, -⟩ | ⟨-, hnil⟩
  · exact absurd hnil (Cutter.pieces_ne_nil _ _ _)
  · exact absurd hnil (Cutter.pieces_ne_nil _ _ _)

/-! ## Tokens with spaces between them -/

/-- Tokens that single spaces keep apart: none is empty, none holds a blank outside its braces, and
each but the last closes all braces that it opens. -/
inductive Spaced : List String → Prop
  | nil : Spaced []
  | single {token : String} {depth : Nat} (hne : token ≠ "")
      (h : braceCutter.Crosses 0 token.toList depth) : Spaced [token]
  | cons {token : String} {tokens : List String} (hne : token ≠ "")
      (h : braceCutter.Crosses 0 token.toList 0) (hrest : Spaced tokens) : Spaced (token :: tokens)

lemma Spaced.ne_empty {tokens : List String} (h : Spaced tokens) : ∀ token ∈ tokens, token ≠ "" := by
  induction h with
  | nil => simp
  | single hne _ => simpa using hne
  | cons hne _ _ ih => simpa using ⟨hne, ih⟩

lemma Spaced.exists_chain {tokens : List String} (h : Spaced tokens) (hne : tokens ≠ []) :
    ∃ depth, braceCutter.Chain depth (tokens.map String.toList) := by
  induction h with
  | nil => exact absurd rfl hne
  | single _ h => exact ⟨_, .last h⟩
  | @cons token tokens _ h _ ih =>
      by_cases htokens : tokens = []
      · rw [htokens]
        exact ⟨0, .last h⟩
      · obtain ⟨depth, hchain⟩ := ih htokens
        exact ⟨depth, .cons h hchain⟩

lemma spaced_of_chain {depth : Nat} {ps : List (List Char)} (h : braceCutter.Chain depth ps)
    (hne : ∀ p ∈ ps, p ≠ []) : Spaced (ps.map String.ofList) := by
  induction h with
  | @last p h =>
      have hp : String.ofList p ≠ "" := by simpa using hne p List.mem_cons_self
      exact .single hp (by rwa [String.toList_ofList])
  | @cons p ps h _ ih =>
      have hp : String.ofList p ≠ "" := by simpa using hne p List.mem_cons_self
      exact .cons hp (by rwa [String.toList_ofList])
        (ih fun q hq => hne q (List.mem_cons_of_mem _ hq))

lemma map_toList_splitSpec (text : String) :
    (splitSpec text).map String.toList
      = (braceCutter.pieces 0 text.toList).filter (!·.isEmpty) := by
  rw [splitSpec, List.map_map]
  simp [Function.comp_def]

/-- The tokens of a text end where the text does, if there are any. -/
lemma chain_splitSpec {text : String} (h : splitSpec text ≠ []) :
    braceCutter.Chain (openBraces text) ((splitSpec text).map String.toList) := by
  have hempty : ∀ p : List Char, (!p.isEmpty) = false → braceCutter.after 0 p = 0 := by
    intro p hp
    obtain rfl : p = [] := by simpa using hp
    rfl
  have hne : (braceCutter.pieces 0 text.toList).filter (!·.isEmpty) ≠ [] := by
    rw [← map_toList_splitSpec]
    simpa using h
  rw [map_toList_splitSpec]
  exact (Cutter.chain_pieces cutsAtStart_braceCutter text.toList).filter hempty hne

/-- A text without tokens holds nothing but blanks. -/
lemma openBraces_of_splitSpec_nil {text : String} (h : splitSpec text = []) :
    openBraces text = 0 := by
  have hnil : (braceCutter.pieces 0 text.toList).filter (!·.isEmpty) = [] := by
    rw [← map_toList_splitSpec, h, List.map_nil]
  refine (Cutter.chain_pieces cutsAtStart_braceCutter text.toList).eq_start fun p hp => ?_
  obtain rfl : p = [] := by simpa using List.filter_eq_nil_iff.mp hnil p hp
  rfl

/-- **The tokens of a text** are kept apart by single spaces. -/
theorem spaced_splitSpec (text : String) : Spaced (splitSpec text) := by
  by_cases h : splitSpec text = []
  · rw [h]
    exact .nil
  · have hspaced := spaced_of_chain (chain_splitSpec h) fun p hp => by
      rw [map_toList_splitSpec] at hp
      simpa using (List.mem_filter.mp hp).2
    rwa [List.map_map, Function.comp_def, List.map_congr_left fun _ _ => String.ofList_toList,
      List.map_id'] at hspaced

/-- **Single spaces between tokens** cut exactly them apart. -/
theorem splitSpec_unwords {tokens : List String} (h : Spaced tokens) :
    splitSpec (unwords tokens) = tokens := by
  by_cases hne : tokens = []
  · rw [hne]
    rfl
  · obtain ⟨depth, hchain⟩ := h.exists_chain hne
    have hpieces : braceCutter.pieces 0 (unwords tokens).toList = tokens.map String.toList := by
      rw [unwords, String.toList_intercalate]
      exact hchain.pieces_intercalate cutsAtStart_braceCutter (c := ' ') (by decide)
    rw [splitSpec, hpieces]
    exact Cutter.ofList_filter_toList fun token htoken => by simpa using h.ne_empty token htoken

/-- Every token with another one behind it closes all braces that it opens. -/
lemma Spaced.crosses_of_append {front behind : List String} (h : Spaced (front ++ behind))
    (hne : behind ≠ []) : ∀ token ∈ front, braceCutter.Crosses 0 token.toList 0 := by
  induction front with
  | nil => simp
  | cons token front ih =>
      rw [List.cons_append] at h
      generalize hrest : front ++ behind = rest at h
      cases h with
      | single => exact absurd (List.append_eq_nil_iff.mp hrest).2 hne
      | cons _ hcrosses hspaced =>
          exact List.forall_mem_cons.mpr ⟨hcrosses, ih (hrest ▸ hspaced)⟩

/-- The tokens of a text that closes all braces do so themselves. -/
lemma crosses_of_mem_splitSpec {text token : String} (hclosed : openBraces text = 0)
    (h : token ∈ splitSpec text) : braceCutter.Crosses 0 token.toList 0 := by
  obtain ⟨p, hp, rfl⟩ := List.mem_map.mp h
  rw [String.toList_ofList]
  obtain ⟨before, after, hpieces⟩ := List.append_of_mem (List.mem_filter.mp hp).1
  have hchain : braceCutter.Chain (openBraces text) (braceCutter.pieces 0 text.toList) :=
    Cutter.chain_pieces cutsAtStart_braceCutter text.toList
  rw [hclosed, hpieces] at hchain
  rcases hchain.crosses with ⟨-, hlast⟩ | ⟨-, hinner⟩
  · exact hlast
  · exact hinner

lemma spaced_of_forall {tokens : List String} (hne : ∀ token ∈ tokens, token ≠ "")
    (h : ∀ token ∈ tokens, braceCutter.Crosses 0 token.toList 0) : Spaced tokens := by
  induction tokens with
  | nil => exact .nil
  | cons token tokens ih =>
      exact .cons (hne token List.mem_cons_self) (h token List.mem_cons_self)
        (ih (fun t ht => hne t (List.mem_cons_of_mem _ ht))
          fun t ht => h t (List.mem_cons_of_mem _ ht))

/-! ## Texts with blanks between them -/

lemma after_of_blanks {cs : List Char} (h : cs.all isBlank = true) (depth : Nat) :
    braceCutter.after depth cs = depth := by
  induction cs with
  | nil => rfl
  | cons c cs ih =>
      obtain ⟨hc, hcs⟩ := Bool.and_eq_true_iff.mp (List.all_cons ▸ h)
      have hnext : braceCutter.next depth c = depth := braceDepth_of_isBlank hc depth
      rw [Cutter.after_cons, hnext, ih hcs]

/-- Blanks in front of a text add no token to it. -/
lemma filter_pieces_of_blanks {cs : List Char} (h : cs.all isBlank = true) (ds : List Char) :
    (braceCutter.pieces 0 (cs ++ ds)).filter (!·.isEmpty)
      = (braceCutter.pieces 0 ds).filter (!·.isEmpty) := by
  induction cs with
  | nil => rfl
  | cons c cs ih =>
      obtain ⟨hc, hcs⟩ := Bool.and_eq_true_iff.mp (List.all_cons ▸ h)
      have hnext : braceCutter.next 0 c = 0 := braceDepth_of_isBlank hc 0
      rw [List.cons_append, Cutter.pieces_cons_cut (braceCutter_cuts_iff.mpr ⟨rfl, hc⟩), hnext,
        List.filter_cons_of_neg (by simp), ih hcs]

/-- **Blanks behind a text that closes all braces** keep its tokens and those behind them apart. -/
theorem splitSpec_append {a blanks : String} (ha : openBraces a = 0) (hne : blanks ≠ "")
    (hblank : isBlankText blanks = true) (b : String) :
    splitSpec (a ++ blanks ++ b) = splitSpec a ++ splitSpec b := by
  obtain ⟨c, cs, hchars⟩ := List.exists_cons_of_ne_nil (mt String.toList_eq_nil_iff.mp hne)
  rw [isBlankText, hchars, List.all_cons, Bool.and_eq_true] at hblank
  obtain ⟨hc, hcs⟩ := hblank
  have hcut : braceCutter.cuts (braceCutter.after 0 a.toList) c = true :=
    braceCutter_cuts_iff.mpr ⟨ha, hc⟩
  have hnext : braceCutter.next (braceCutter.after 0 a.toList) c = 0 :=
    (braceDepth_of_isBlank hc _).trans ha
  simp only [splitSpec, String.toList_append, hchars, List.append_assoc, List.cons_append]
  rw [Cutter.pieces_append_cut hcut, hnext, List.filter_append, filter_pieces_of_blanks hcs,
    List.map_append]

variable {sep : String} {texts : List String}

/-- Texts that close all braces, and blanks between them, do so together. -/
lemma openBraces_intercalate (hblank : isBlankText sep = true)
    (h : ∀ text ∈ texts, openBraces text = 0) : openBraces (sep.intercalate texts) = 0 := by
  induction texts with
  | nil => rfl
  | cons text texts ih =>
      have htext : braceCutter.after 0 text.toList = 0 := h text List.mem_cons_self
      have hrest := ih fun t ht => h t (List.mem_cons_of_mem _ ht)
      cases texts with
      | nil => rwa [String.intercalate_singleton]
      | cons next texts =>
          rw [String.intercalate_cons_cons, openBraces, String.toList_append, String.toList_append,
            Cutter.after_append, Cutter.after_append, htext, after_of_blanks hblank]
          exact hrest

/-- **Blanks between texts** that close all braces keep the tokens of all of them. -/
theorem splitSpec_intercalate (hne : sep ≠ "") (hblank : isBlankText sep = true)
    (h : ∀ text ∈ texts, openBraces text = 0) :
    splitSpec (sep.intercalate texts) = texts.flatMap splitSpec := by
  induction texts with
  | nil => rfl
  | cons text texts ih =>
      have hrest := ih fun t ht => h t (List.mem_cons_of_mem _ ht)
      cases texts with
      | nil => simp
      | cons next texts =>
          rw [String.intercalate_cons_cons, splitSpec_append (h text List.mem_cons_self) hne hblank,
            hrest, ← List.flatMap_cons]

/-! ## Words and flags -/

/-- A token that opens no option, whatever stands before it. -/
def IsWord (token : String) : Prop :=
  token ≠ "-" ∧ isFlagLike token = false

lemma isWord_of_not_flagLike {token : String} (hminus : token ≠ "-")
    (hlike : ¬ isFlagLike token = true) : IsWord token :=
  ⟨hminus, by simpa using hlike⟩

lemma ne_minus_of_isFlagLike {token : String} (h : isFlagLike token = true) : token ≠ "-" := by
  rintro rfl
  exact absurd h (by decide)

lemma marks_cons_word {word : String} (h : IsWord word) (rest : List String) :
    marks (word :: rest) = .word word :: marks rest := by
  rw [marks.eq_def]
  simp [h.1, h.2]

lemma marks_cons_flag {flag : String} (h : isFlagLike flag = true) (rest : List String) :
    marks (flag :: rest) = .flag flag :: marks rest := by
  rw [marks.eq_def]
  simp [ne_minus_of_isFlagLike h, h]

lemma marks_minus (token : String) (rest : List String) :
    marks ("-" :: token :: rest) = .flag (promoted token) :: marks rest := by
  rw [marks.eq_def]
  simp

lemma word_mem_of_mem_groupMarks {ms : List Mark} {text : String}
    (h : text ∈ (groupMarks ms).1 ∨ ∃ group ∈ (groupMarks ms).2, text ∈ group.2) :
    Mark.word text ∈ ms := by
  induction ms with
  | nil => simp [groupMarks] at h
  | cons mark ms ih =>
      cases mark with
      | word first =>
          rcases h with hlead | hgroup
          · rcases List.mem_cons.mp hlead with rfl | hrest
            · exact List.mem_cons_self
            · exact List.mem_cons_of_mem _ (ih (Or.inl hrest))
          · exact List.mem_cons_of_mem _ (ih (Or.inr hgroup))
      | flag name =>
          rcases h with hlead | ⟨group, hgroup, htext⟩
          · simp [groupMarks] at hlead
          · rcases List.mem_cons.mp hgroup with rfl | hrest
            · exact List.mem_cons_of_mem _ (ih (Or.inl htext))
            · exact List.mem_cons_of_mem _ (ih (Or.inr ⟨group, hrest, htext⟩))
      | danglingMinus => exact List.mem_cons_of_mem _ (ih h)

lemma word_mem_marks {tokens : List String} {text : String} (h : Mark.word text ∈ marks tokens) :
    text ∈ tokens ∧ IsWord text := by
  fun_induction marks tokens with
  | case1 => simp at h
  | case2 => simp at h
  | case3 next rest ih =>
      obtain ⟨hmem, hdata⟩ := ih (by simpa using h)
      exact ⟨by simp [hmem], hdata⟩
  | case4 token rest hminus ih =>
      rcases List.mem_cons.mp h with heq | hrest
      · split_ifs at heq with hlike
        obtain rfl := Mark.word.inj heq
        exact ⟨List.mem_cons_self, isWord_of_not_flagLike hminus hlike⟩
      · obtain ⟨hmem, hdata⟩ := ih hrest
        exact ⟨List.mem_cons_of_mem _ hmem, hdata⟩

/-- Without a lone minus, a flag is a token that looks like one. -/
lemma flag_mem_marks {tokens : List String} {name : String} (hminus : "-" ∉ tokens)
    (h : Mark.flag name ∈ marks tokens) : name ∈ tokens ∧ isFlagLike name = true := by
  fun_induction marks tokens with
  | case1 => simp at h
  | case2 => simp at h
  | case3 => simp at hminus
  | case4 token rest _ ih =>
      rcases List.mem_cons.mp h with heq | hrest
      · split_ifs at heq with hlike
        obtain rfl := Mark.flag.inj heq
        exact ⟨List.mem_cons_self, hlike⟩
      · obtain ⟨hmem, hlike⟩ := ih (fun hmem => hminus (List.mem_cons_of_mem _ hmem)) hrest
        exact ⟨List.mem_cons_of_mem _ hmem, hlike⟩

/-! ## Flags -/

lemma flag_mem_of_mem_groupMarks {ms : List Mark} {group : String × List String}
    (h : group ∈ (groupMarks ms).2) : Mark.flag group.1 ∈ ms := by
  induction ms with
  | nil => simp [groupMarks] at h
  | cons mark ms ih =>
      cases mark with
      | word text => exact List.mem_cons_of_mem _ (ih h)
      | flag name =>
          rcases List.mem_cons.mp h with rfl | hrest
          · exact List.mem_cons_self
          · exact List.mem_cons_of_mem _ (ih hrest)
      | danglingMinus => exact List.mem_cons_of_mem _ (ih h)

lemma exists_promoted {token : String} (h : token ≠ "") :
    ∃ c cs, (promoted token).toList = '-' :: c :: cs := by
  unfold promoted
  split
  next c cs htoken => exact ⟨c, cs, htoken⟩
  next =>
    obtain ⟨c, cs, htoken⟩ := List.exists_cons_of_ne_nil (mt String.toList_eq_nil_iff.mp h)
    exact ⟨c, cs, by rw [String.toList_append, htoken]; rfl⟩

/-- Both kinds of flags are a minus with something behind it. -/
lemma exists_of_flag_mem_marks {tokens : List String} {name : String}
    (hne : ∀ token ∈ tokens, token ≠ "") (h : Mark.flag name ∈ marks tokens) :
    ∃ c cs, name.toList = '-' :: c :: cs := by
  fun_induction marks tokens with
  | case1 => simp at h
  | case2 => simp at h
  | case3 next rest ih =>
      rcases List.mem_cons.mp h with heq | hrest
      · rw [Mark.flag.inj heq]
        exact exists_promoted (hne next (by simp))
      · exact ih (fun token htoken => hne token (by simp [htoken])) hrest
  | case4 token rest hminus ih =>
      rcases List.mem_cons.mp h with heq | hrest
      · split_ifs at heq with hf
        obtain ⟨c, cs, htoken, -⟩ := isFlagLike_iff.mp hf
        exact ⟨c, cs, by rw [Mark.flag.inj heq, htoken]⟩
      · exact ih (fun token htoken => hne token (by simp [htoken])) hrest

/-- Whatever a text declares, its flags are a minus with something behind it. -/
theorem exists_flag_of_mem_compile {name raw : String} {o : OptionSpec}
    (h : o ∈ (CommandSpec.compile name raw).options) :
    ∃ c cs, o.flag.toList = '-' :: c :: cs := by
  obtain ⟨group, hgroup, rfl⟩ := List.mem_map.mp h
  exact exists_of_flag_mem_marks (spaced_splitSpec raw).ne_empty
    (flag_mem_of_mem_groupMarks hgroup)

end Optline
