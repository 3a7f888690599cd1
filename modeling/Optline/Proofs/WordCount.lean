import Optline.Proofs.Breakdown
import Optline.Proofs.Constraint

/-!
# Words and tokens of a specification

A group in braces is one token of a specification, whatever it holds.  But the tokens of an argument
pattern and of a constraint are joined to a text, and arguments and slots are the words of that text,
which braces do not keep together: a token counts as often as it has words.

* `words_unwords` — joining texts by spaces keeps their words.
* **`length_words_le_one_iff`** — a text holds more than one word exactly if a blank stands within it.
* `words_ne_nil_of_mem_splitSpec` — every token has a word.
* `length_of_compile_sequence` — a sequence has a slot for each word of its text.
* **`groups_counted_once_iff`** — arguments and slots are as many as the tokens they stand for exactly
  if no blank stands within these.
* `group_counted_twice` — an argument and a slot that are two words each.
-/

namespace Optline

namespace Text

/-! ## Words of texts that are put together -/

/-- A separator keeps the fields of both sides as they are. -/
lemma fields_append {p : Char → Bool} {sep : Char} (hsep : p sep = true) (cs ds : List Char) :
    fields p (String.ofList (cs ++ sep :: ds))
      = fields p (String.ofList cs) ++ fields p (String.ofList ds) := by
  simp only [fields, String.toList_ofList]
  rw [List.splitOnP_append_cons _ _ hsep, List.filter_append, List.map_append]

/-- A text without separators is one field, unless it is empty. -/
lemma length_fields_le_one {p : Char → Bool} {text : String} (h : ∀ c ∈ text.toList, p c = false) :
    (fields p text).length ≤ 1 := by
  rw [fields, List.splitOnP_eq_singleton h, List.length_map]
  exact List.length_filter_le _ _

lemma words_append (a b : String) : words (a ++ " " ++ b) = words a ++ words b := by
  have hjoined : a ++ " " ++ b = String.ofList (a.toList ++ ' ' :: b.toList) := by
    rw [← String.toList_inj]
    simp
  rw [hjoined, words, fields_append (by decide), String.ofList_toList, String.ofList_toList]
  rfl

lemma words_unwords (ws : List String) : words (unwords ws) = ws.flatMap words := by
  induction ws with
  | nil => rfl
  | cons w ws ih =>
      cases ws with
      | nil => simp [unwords]
      | cons v vs =>
          rw [unwords, String.intercalate_cons_cons, words_append, ← unwords, ih,
            ← List.flatMap_cons]

lemma words_trimmed (text : String) : words (trimmed text) = words text := by
  have hfront : ∀ c cs, isBlank c = true →
      words (String.ofList (c :: cs)) = words (String.ofList cs) :=
    fun c cs hc => fields_append hc [] cs
  have hback : ∀ c cs, isBlank c = true →
      words (String.ofList (cs ++ [c])) = words (String.ofList cs) :=
    fun c cs hc => (fields_append hc cs []).trans (List.append_nil _)
  have htrim := eq_of_trim (f := fun cs => words (String.ofList cs)) hfront hback text.toList
  rwa [String.ofList_toList] at htrim

/-! ## Texts of a single word -/

/-- Whether no blank stands within a text, those around it apart. -/
def IsUnbroken (text : String) : Prop :=
  ∀ c ∈ (trimmed text).toList, isBlank c = false

/-- A blank within a trimmed text has something in front of it. -/
lemma not_blank_before {cs before after : List Char} {c : Char} (h : trim cs = before ++ c :: after)
    (hc : isBlank c = true) : before.all isBlank = false := by
  have hmark : firstMark? cs = (before ++ c :: after).head? := by rw [← head?_trim, h]
  cases before with
  | nil =>
      rw [not_isBlank_of_firstMark? hmark] at hc
      exact absurd hc (by simp)
  | cons d ds => simp [not_isBlank_of_firstMark? hmark]

lemma not_blank_after {cs before after : List Char} {c : Char} (h : trim cs = before ++ c :: after)
    (hc : isBlank c = true) : after.all isBlank = false := by
  have hreverse : trim cs.reverse = after.reverse ++ c :: before.reverse := by
    rw [← reverse_trim, h]
    simp
  rw [← List.all_reverse]
  exact not_blank_before hreverse hc

/-- **A text is a single word** or none if no blank stands within it. -/
theorem length_words_le_one_iff {text : String} : (words text).length ≤ 1 ↔ IsUnbroken text := by
  rw [← words_trimmed]
  constructor
  · intro h c hc
    by_contra hne
    have hblank : isBlank c = true := by simpa using hne
    obtain ⟨before, after, hchars⟩ := List.append_of_mem hc
    have hjoined : words (trimmed text)
        = words (String.ofList before) ++ words (String.ofList after) := by
      rw [words, ← String.ofList_toList (s := trimmed text), hchars, fields_append hblank]
      rfl
    rw [trimmed, String.toList_ofList] at hchars
    have hword : ∀ cs : List Char, cs.all isBlank = false →
        0 < (words (String.ofList cs)).length := by
      intro cs hcs
      rw [List.length_pos_iff, Ne, words, fields_eq_nil_iff, String.toList_ofList, hcs]
      simp
    have hbefore := hword before (not_blank_before hchars hblank)
    have hafter := hword after (not_blank_after hchars hblank)
    rw [hjoined, List.length_append] at h
    omega
  · exact length_fields_le_one

end Text

open Text

/-! ## The words of tokens -/

lemma words_ne_nil_of_crosses {token : String} {depth : Nat} (hne : token ≠ "")
    (h : braceCutter.Crosses 0 token.toList depth) : words token ≠ [] := by
  intro hwords
  have hblank : token.toList.all isBlank = true := fields_eq_nil_iff.mp hwords
  obtain ⟨c, cs, hchars⟩ := List.exists_cons_of_ne_nil (mt String.toList_eq_nil_iff.mp hne)
  rw [hchars, List.all_cons, Bool.and_eq_true] at hblank
  have hwhole := h.whole
  -- A blank at the start would be a separator.
  rw [hchars, Cutter.pieces_cons_cut (braceCutter_cuts_iff.mpr ⟨rfl, hblank.1⟩)] at hwhole
  exact absurd (List.cons.inj hwhole).1 (by simp)

/-- Every token of a specification has a word. -/
lemma words_ne_nil_of_mem_splitSpec {text token : String} (h : token ∈ splitSpec text) :
    words token ≠ [] := by
  have hspaced := spaced_splitSpec text
  generalize splitSpec text = tokens at h hspaced
  induction hspaced with
  | nil => simp at h
  | single hne hcrosses =>
      rw [List.mem_singleton.mp h]
      exact words_ne_nil_of_crosses hne hcrosses
  | cons hne hcrosses _ ih =>
      rcases List.mem_cons.mp h with rfl | hrest
      · exact words_ne_nil_of_crosses hne hcrosses
      · exact ih hrest

/-- Texts that have words have at least as many words as they are, and as many only if each is a
single word. -/
lemma length_flatMap_words {texts : List String} (h : ∀ text ∈ texts, words text ≠ []) :
    texts.length ≤ (texts.flatMap words).length
      ∧ ((texts.flatMap words).length = texts.length ↔ ∀ text ∈ texts, IsUnbroken text) := by
  induction texts with
  | nil => simp
  | cons text texts ih =>
      obtain ⟨hle, hiff⟩ := ih fun t ht => h t (List.mem_cons_of_mem _ ht)
      have hpos := List.length_pos_iff.mpr (h text List.mem_cons_self)
      rw [List.flatMap_cons, List.length_append, List.length_cons, List.forall_mem_cons, ← hiff,
        ← length_words_le_one_iff]
      omega

/-! ## Slots -/

lemma Constraint.length_of_ofWords_sequence {text : String} {ws : List String} {slots : List Slot}
    (h : (Constraint.ofWords text ws).1 = .sequence slots) : slots.length = ws.length := by
  unfold Constraint.ofWords at h
  split at h
  · split_ifs at h
    obtain rfl := Constraint.sequence.inj h
    rfl
  · obtain rfl := Constraint.sequence.inj h
    exact List.length_map _

/-- A sequence has a slot for each word of its text. -/
lemma Constraint.length_of_compile_sequence {raw : String} {slots : List Slot}
    (h : Constraint.compile raw = .sequence slots) : slots.length = (words raw).length := by
  unfold Constraint.compile Constraint.read at h
  dsimp only at h
  split at h
  · simp at h
  · split_ifs at h
  · rw [← words_trimmed]
    exact Constraint.length_of_ofWords_sequence h

/-! ## Arguments and slots beside the tokens they stand for -/

/-- **A group counts once if no blank stands within it.**  The arguments of a command are as many as
the tokens in front of its first option exactly if each of these is a single word, and otherwise they
are more; and so it is with the slots of a sequence and the tokens of its constraint. -/
theorem groups_counted_once_iff (name raw : String) :
    let spec := CommandSpec.compile name raw
    ∃ b : Breakdown, b.tokens = splitSpec raw
      ∧ spec.options = b.options.map OptionTokens.spec
      ∧ b.lead.length ≤ spec.required
      ∧ (spec.required = b.lead.length ↔ ∀ token ∈ b.lead, IsUnbroken token)
      ∧ ∀ o ∈ b.options, ∀ slots, o.spec.compiled = .sequence slots →
        o.words.length ≤ slots.length
          ∧ (slots.length = o.words.length ↔ ∀ token ∈ o.words, IsUnbroken token) := by
  intro spec
  have htokens := Breakdown.tokens_ofTokens (splitSpec raw)
  have hparts := Breakdown.readParts_eq htokens
  generalize Breakdown.ofTokens (splitSpec raw) = b at htokens hparts
  have hrequired : spec.required = (b.lead.flatMap words).length := by
    have hpattern : spec.argumentPattern = unwords b.lead := congrArg Prod.fst hparts
    rw [CommandSpec.required, CommandSpec.arguments, hpattern, words_unwords]
  have hlead : ∀ token ∈ b.lead, words token ≠ [] := fun token htoken =>
    words_ne_nil_of_mem_splitSpec (htokens ▸ b.mem_tokens_of_mem_lead htoken)
  refine ⟨b, htokens, congrArg Prod.snd hparts, ?_, ?_, fun o ho slots hslots => ?_⟩
  · rw [hrequired]
    exact (length_flatMap_words hlead).1
  · rw [hrequired]
    exact (length_flatMap_words hlead).2
  · have hwords : ∀ token ∈ o.words, words token ≠ [] := fun token htoken =>
      words_ne_nil_of_mem_splitSpec (htokens ▸ b.mem_tokens_of_mem_words ho htoken)
    rw [Constraint.length_of_compile_sequence hslots, OptionTokens.spec, words_unwords]
    exact length_flatMap_words hwords

/-- An argument and a slot that are written as one group each and are counted as two. -/
theorem group_counted_twice :
    let spec := CommandSpec.compile "c" "\x7ba b\x7d -f x \x7bp q\x7d"
    splitSpec spec.raw = ["\x7ba b\x7d", "-f", "x", "\x7bp q\x7d"]
      ∧ spec.required = 2
      ∧ spec.options.map OptionSpec.compiled
        = [.sequence [.literal ["x"], .literal ["\x7bp"], .literal ["q\x7d"]]] := by
  decide +kernel

end Optline
