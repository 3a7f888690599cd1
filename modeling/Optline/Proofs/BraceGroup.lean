import Optline.Proofs.Breakdown
import Optline.Proofs.Constraint

/-!
# Constraints that begin with a brace

A constraint that begins with a brace is a literal if it ends with one, and malformed otherwise; how
the braces between the two are nested is not looked at.  This file sets that beside the depth of
braces by which a specification is cut into tokens, and then says which literals accept themselves:
braces are taken off a literal when it is read and off the words that it is compared with, and one
round of this does not reach a brace behind a blank.

* `BeginsGroup`, `EndsGroup` — the two characters that decide.
* `compile_of_begins`, `begins_of_compile` — the verdict on every text.
* `MisreadEnd` — texts whose last character does not tell whether a group is open.
* **`malformed_means_open_iff`** — a malformed constraint is one with an open group exactly for the
  texts that do not end like this, and in a specification only the last option can have one.
* `BracedTwice` — braces with blanks among them at the beginning of a text.
* `stripOuter_eq_self_iff`, `head?_stripOuter`, `getLast?_stripOuter` — when a further round of
  stripping finds nothing, and what it would find.
* **`literal_accepts_itself_iff`** — a literal accepts its own text exactly if there are no such
  braces at either end of the constraint.
-/

namespace Optline

open Text

/-! ## The verdict on a text -/

/-- Whether the first character of a text, blanks apart, is an opening brace. -/
def BeginsGroup (text : String) : Prop :=
  (trimmed text).toList.head? = some '{'

/-- Whether the last character of a text, blanks apart, is a closing brace. -/
def EndsGroup (text : String) : Prop :=
  (trimmed text).toList.getLast? = some '}'

instance (text : String) : Decidable (EndsGroup text) :=
  inferInstanceAs (Decidable (_ = _))

lemma stripBraces_trimmed (text : String) : stripBraces (trimmed text) = stripBraces text := by
  rw [stripBraces, stripBraces, stripBraceChars, stripBraceChars, trimmed, String.toList_ofList,
    trim_trim]

namespace Constraint

/-- A text that begins with a brace is a literal or malformed. -/
lemma compile_of_begins {raw : String} (h : BeginsGroup raw) :
    compile raw = if EndsGroup raw then .literal (stripBraces raw) else .malformed := by
  obtain ⟨cs, hchars⟩ := List.head?_eq_some_iff.mp h
  have hends : EndsGroup raw ↔ cs.getLast? = some '}' := by
    rw [EndsGroup, hchars]
    cases cs <;> simp
  simp only [compile, read, hchars, hends, stripBraces_trimmed]
  split_ifs <;> rfl

/-- No other text is. -/
lemma begins_of_compile {raw : String}
    (h : compile raw = .malformed ∨ ∃ v, compile raw = .literal v) : BeginsGroup raw := by
  unfold compile read at h
  dsimp only at h
  split at h
  · simp at h
  next cs hchars => rw [BeginsGroup, hchars, List.head?_cons]
  next =>
    unfold ofWords at h
    split at h
    · split_ifs at h <;> simp at h
    · simp at h

lemma compile_eq_malformed_iff {raw : String} :
    compile raw = .malformed ↔ BeginsGroup raw ∧ ¬ EndsGroup raw := by
  constructor
  · intro h
    have hbegins := begins_of_compile (Or.inl h)
    refine ⟨hbegins, fun hends => ?_⟩
    rw [compile_of_begins hbegins, if_pos hends] at h
    exact absurd h (by simp)
  · rintro ⟨hbegins, hends⟩
    rw [compile_of_begins hbegins, if_neg hends]

lemma eq_stripBraces_of_compile {raw v : String} (h : compile raw = .literal v) :
    v = stripBraces raw := by
  rw [compile_of_begins (begins_of_compile (Or.inr ⟨v, h⟩))] at h
  split_ifs at h
  exact (Constraint.literal.inj h).symm

/-- A literal accepts the text that it was read from. -/
lemma accepts_of_unwords_eq {raw v : String} (h : compile raw = .literal v) {ws : List String}
    (hws : unwords ws = raw) : (compile raw).accepts ws = true := by
  rw [h, accepts, hws, eq_stripBraces_of_compile h]
  simp

/-- Among the constraints that begin with a brace the malformed ones are those that nothing
satisfies. -/
lemma forall_refused_iff {raw : String} (h : BeginsGroup raw) :
    (∀ ws, (compile raw).accepts ws = false) ↔ compile raw = .malformed := by
  constructor
  · intro hnone
    refine compile_eq_malformed_iff.mpr ⟨h, fun hends => ?_⟩
    have hliteral : compile raw = .literal (stripBraces raw) := by
      rw [compile_of_begins h, if_pos hends]
    have haccepts : (compile raw).accepts [raw] = true :=
      accepts_of_unwords_eq hliteral (by simp [unwords])
    rw [hnone] at haccepts
    exact absurd haccepts (by simp)
  · intro hmalformed ws
    rw [hmalformed]
    rfl

end Constraint

/-! ## Open groups -/

/-- Texts whose last character does not tell whether a group is open. -/
inductive MisreadEnd (cs : List Char) : Prop
  /-- The last character is no brace and stands behind all groups. -/
  | behind {front : List Char} {c : Char} (hchars : cs = front ++ [c]) (hopening : c ≠ '{')
      (hclosing : c ≠ '}') (hclosed : braceCutter.after 0 front = 0)
  /-- The last character closes a group within another. -/
  | within {front : List Char} (hchars : cs = front ++ ['}'])
      (hopen : 2 ≤ braceCutter.after 0 front)

lemma misreadEnd_concat_iff {front : List Char} {c : Char} :
    MisreadEnd (front ++ [c])
      ↔ (c ≠ '{' ∧ c ≠ '}' ∧ braceCutter.after 0 front = 0)
        ∨ (c = '}' ∧ 2 ≤ braceCutter.after 0 front) := by
  constructor
  · rintro (⟨hchars, hopening, hclosing, hclosed⟩ | ⟨hchars, hopen⟩)
    · obtain ⟨rfl, rfl⟩ := by simpa using hchars
      exact Or.inl ⟨hopening, hclosing, hclosed⟩
    · obtain ⟨rfl, rfl⟩ := by simpa using hchars
      exact Or.inr ⟨rfl, hopen⟩
  · rintro (⟨hopening, hclosing, hclosed⟩ | ⟨rfl, hopen⟩)
    · exact .behind rfl hopening hclosing hclosed
    · exact .within rfl hopen

/-- The last character tells whether a group is open, unless the text ends in one of these ways. -/
lemma not_misreadEnd_iff {cs : List Char} (hne : cs ≠ []) :
    ¬ MisreadEnd cs ↔ (cs.getLast? = some '}' ↔ braceCutter.after 0 cs = 0) := by
  obtain ⟨front, c, rfl⟩ := (List.eq_nil_or_concat' cs).resolve_left hne
  have hdepth : braceCutter.after 0 (front ++ [c]) = braceDepth (braceCutter.after 0 front) c := by
    rw [Cutter.after_append]
    rfl
  rw [misreadEnd_concat_iff, hdepth, braceDepth, List.getLast?_concat, Option.some_inj]
  split_ifs with hopening hclosing
  · simp [hopening]
  · have hclosed : braceCutter.after 0 front - 1 = 0 ↔ ¬ 2 ≤ braceCutter.after 0 front := by omega
    simp [hclosing, hclosed]
  · simp [hopening, hclosing]

lemma misreadEnd_of_begins {raw : String} (h : BeginsGroup raw) :
    ¬ MisreadEnd (trimmed raw).toList ↔ (EndsGroup raw ↔ openBraces (trimmed raw) = 0) := by
  refine not_misreadEnd_iff ?_
  intro hnil
  rw [BeginsGroup, hnil] at h
  exact absurd h (by simp)

/-- Only the last option of a specification can have an open group. -/
lemma openBraces_constraint {name text : String} {o : OptionSpec}
    (h : o ∈ (CommandSpec.compile name text).options.dropLast) : openBraces o.constraint = 0 := by
  have htokens := Breakdown.tokens_ofTokens (splitSpec text)
  have hoptions : (CommandSpec.compile name text).options = _ :=
    congrArg Prod.snd (Breakdown.readParts_eq htokens)
  generalize Breakdown.ofTokens (splitSpec text) = b at htokens hoptions
  rw [hoptions, ← List.map_dropLast] at h
  obtain ⟨o, ho, rfl⟩ := List.mem_map.mp h
  obtain ⟨front, behind, hjoined, hne, hfront⟩ := b.exists_tokens_behind ho
  have hspaced := spaced_splitSpec text
  rw [← htokens, hjoined] at hspaced
  refine openBraces_intercalate (by decide) fun word hword => ?_
  exact (hspaced.crosses_of_append hne word (hfront word hword)).after_eq

/-- **What malformed means.**  A constraint is malformed if it begins with a brace and does not end
with one; among the constraints that begin with a brace it is then that no run of words is accepted.
That a group is open in it is the same thing exactly for the texts whose end is not misread.  In a
specification only the last option can have an open group, so that one of the others that is
malformed closes all its braces. -/
theorem malformed_means_open_iff (raw : String) :
    (Constraint.compile raw = .malformed ↔ BeginsGroup raw ∧ ¬ EndsGroup raw)
      ∧ (BeginsGroup raw →
        ((∀ ws, (Constraint.compile raw).accepts ws = false) ↔ Constraint.compile raw = .malformed))
      ∧ ((Constraint.compile raw = .malformed ↔ BeginsGroup raw ∧ 0 < openBraces (trimmed raw))
        ↔ ¬ (BeginsGroup raw ∧ MisreadEnd (trimmed raw).toList))
      ∧ ∀ name text, ∀ o ∈ (CommandSpec.compile name text).options.dropLast,
        openBraces o.constraint = 0 := by
  refine ⟨Constraint.compile_eq_malformed_iff, Constraint.forall_refused_iff, ?_,
    fun name text o ho => openBraces_constraint ho⟩
  rw [Constraint.compile_eq_malformed_iff]
  by_cases hbegins : BeginsGroup raw
  · simp only [hbegins, true_and, misreadEnd_of_begins hbegins, Nat.pos_iff_ne_zero]
    exact not_iff_not
  · simp [hbegins]

/-- A text with words behind its group is malformed although all braces are closed, and one with a
group that is never closed is a literal. -/
theorem malformed_not_open :
    (Constraint.compile "\x7ba\x7d b" = .malformed ∧ openBraces "\x7ba\x7d b" = 0)
      ∧ Constraint.compile "\x7b\x7ba\x7d" = .literal "a" ∧ openBraces "\x7b\x7ba\x7d" = 1 := by
  decide +kernel

/-! ## Braces that are taken off -/

/-- The characters of a text without blanks, any of the one brace in front and any of the other
behind it. -/
def stripOuter (opening closing : Char) (cs : List Char) : List Char :=
  trim (dropTrailing (· == closing) (dropLeading (· == opening) (trim cs)))

/-- Whether a text begins with braces, then blanks, and then one more brace. -/
def BracedTwice (brace : Char) (cs : List Char) : Prop :=
  ∃ outer blanks rest, cs = outer ++ blanks ++ brace :: rest
    ∧ outer ≠ [] ∧ (∀ c ∈ outer, c = brace) ∧ blanks ≠ [] ∧ ∀ c ∈ blanks, isBlank c = true

section Strip

variable {opening closing : Char}

/-- Both ends are stripped alike. -/
lemma reverse_stripOuter (cs : List Char) :
    (stripOuter opening closing cs).reverse = stripOuter closing opening cs.reverse := by
  rw [stripOuter, stripOuter, reverse_trim, reverse_dropTrailing, reverse_dropLeading, reverse_trim,
    dropTrailing_dropLeading]

lemma trim_stripOuter (cs : List Char) :
    trim (stripOuter opening closing cs) = stripOuter opening closing cs :=
  trim_trim _

lemma length_stripOuter_le (opening closing : Char) (cs : List Char) :
    (stripOuter opening closing cs).length ≤ (dropLeading (· == opening) (trim cs)).length := by
  have hlead : ∀ ds, (dropLeading isBlank ds).length ≤ ds.length :=
    fun ds => (List.dropWhile_sublist _).length_le
  have htrail : ∀ p ds, (dropTrailing p ds).length ≤ ds.length :=
    fun p ds => (List.rdropWhile_prefix p ds).length_le
  exact ((htrail _ _).trans (hlead _)).trans (htrail _ _)

lemma head?_ne_of_stripOuter {cs : List Char} (htrim : trim cs = cs)
    (h : stripOuter opening closing cs = cs) : cs.head? ≠ some opening := by
  intro hhead
  obtain ⟨rest, rfl⟩ := List.head?_eq_some_iff.mp hhead
  have hlength := length_stripOuter_le opening closing (opening :: rest)
  have hdrop : (dropLeading (· == opening) rest).length ≤ rest.length :=
    (List.dropWhile_sublist _).length_le
  rw [h, htrim, dropLeading, List.dropWhile_cons_of_pos (by simp), List.length_cons] at hlength
  exact absurd (hlength.trans hdrop) (by simp)

/-- A text without outer blanks is left as it is if it neither begins with the one brace nor ends
with the other. -/
lemma stripOuter_eq_self_iff {cs : List Char} (htrim : trim cs = cs) :
    stripOuter opening closing cs = cs
      ↔ cs.head? ≠ some opening ∧ cs.getLast? ≠ some closing := by
  constructor
  · intro h
    refine ⟨head?_ne_of_stripOuter htrim h, ?_⟩
    rw [← List.head?_reverse]
    have hreverse : trim cs.reverse = cs.reverse := by rw [← reverse_trim, htrim]
    exact head?_ne_of_stripOuter hreverse (by rw [← reverse_stripOuter, h])
  · rintro ⟨hhead, hlast⟩
    have hlead : dropLeading (· == opening) cs = cs := by
      cases cs with
      | nil => rfl
      | cons c cs => exact List.dropWhile_cons_of_neg (by simpa using hhead)
    have htrail : dropTrailing (· == closing) cs = cs := by
      rcases List.eq_nil_or_concat' cs with rfl | ⟨front, c, rfl⟩
      · rfl
      · exact List.rdropWhile_concat_neg _ _ _ (by simpa using hlast)
    rw [stripOuter, htrim, hlead, htrail, htrim]

lemma firstMark?_dropTrailing {mark : Char} (hne : mark ≠ closing) (cs : List Char) :
    firstMark? (dropTrailing (· == closing) cs) = some mark ↔ firstMark? cs = some mark := by
  have hwhole : dropTrailing (· == closing) cs ++ cs.rtakeWhile (· == closing) = cs :=
    List.rdropWhile_append_rtakeWhile
  have hdropped : firstMark? (cs.rtakeWhile (· == closing)) ≠ some mark := by
    intro hmark
    exact hne (by simpa using List.mem_rtakeWhile_imp (List.mem_of_find?_eq_some hmark))
  conv_rhs => rw [← hwhole, firstMark?_append]
  cases hkept : firstMark? (dropTrailing (· == closing) cs) with
  | none => simpa using hdropped
  | some c => simp

/-- A text without outer blanks has a brace behind its leading braces only if blanks stand between
them. -/
lemma firstMark?_dropLeading_iff {brace : Char} {cs : List Char} (hbrace : isBlank brace = false)
    (htrim : trim cs = cs) :
    firstMark? (dropLeading (· == brace) cs) = some brace ↔ BracedTwice brace cs := by
  constructor
  · intro hmark
    obtain ⟨-, blanks, rest, hrest, hblanks⟩ := List.find?_eq_some_iff_append.mp hmark
    have hwhole : cs.takeWhile (· == brace) ++ dropLeading (· == brace) cs = cs :=
      List.takeWhile_append_dropWhile
    refine ⟨cs.takeWhile (· == brace), blanks, rest, ?_, ?_, ?_, ?_, ?_⟩
    · rw [List.append_assoc, ← hrest, hwhole]
    · -- The first character would be the mark that is found, and thus a leading brace.
      intro hnil
      rw [hnil, List.nil_append] at hwhole
      rw [hwhole, ← head?_trim, htrim] at hmark
      obtain ⟨tail, rfl⟩ := List.head?_eq_some_iff.mp hmark
      simp at hnil
    · intro c hc
      simpa using List.mem_takeWhile_imp hc
    · rintro rfl
      have hnot := List.head?_dropWhile_not (· == brace) cs
      rw [← dropLeading, hrest] at hnot
      simp at hnot
    · intro c hc
      simpa using hblanks c hc
  · rintro ⟨outer, blanks, rest, rfl, -, houter, hblanks, hblank⟩
    obtain ⟨c, more, rfl⟩ := List.exists_cons_of_ne_nil hblanks
    have hc : c ≠ brace := by
      rintro rfl
      rw [hblank c List.mem_cons_self] at hbrace
      exact absurd hbrace (by simp)
    have hdrop : dropLeading (· == brace) (outer ++ (c :: more) ++ brace :: rest)
        = c :: more ++ brace :: rest := by
      rw [dropLeading, List.append_assoc,
        List.dropWhile_append_of_pos fun d hd => by simpa using houter d hd]
      exact List.dropWhile_cons_of_neg (by simpa using hc)
    rw [hdrop, firstMark?_append, firstMark?_eq_none_iff.mpr (List.all_eq_true.mpr hblank),
      firstMark?, List.find?_cons_of_pos (by simp [hbrace]), Option.none_or]

/-- What is left of a text begins with the brace that was taken off if the text is braced twice. -/
lemma head?_stripOuter (hbrace : isBlank opening = false) (hne : opening ≠ closing)
    (cs : List Char) :
    (stripOuter opening closing cs).head? = some opening ↔ BracedTwice opening (trim cs) := by
  rw [stripOuter, head?_trim, firstMark?_dropTrailing hne,
    firstMark?_dropLeading_iff hbrace (trim_trim cs)]

/-- And so it is at the end. -/
lemma getLast?_stripOuter (hbrace : isBlank closing = false) (hne : opening ≠ closing)
    (cs : List Char) :
    (stripOuter opening closing cs).getLast? = some closing
      ↔ BracedTwice closing (trim cs).reverse := by
  rw [← List.head?_reverse, reverse_stripOuter, head?_stripOuter hbrace hne.symm, reverse_trim]

end Strip

lemma stripBraces_stripBraces_iff {text : String} :
    stripBraces (stripBraces text) = stripBraces text
      ↔ ¬ BracedTwice '{' (trimmed text).toList
        ∧ ¬ BracedTwice '}' (trimmed text).toList.reverse := by
  have hstrip : ∀ t, stripBraces t = String.ofList (stripOuter '{' '}' t.toList) := fun _ => rfl
  rw [hstrip, hstrip, ← String.toList_inj, String.toList_ofList, String.toList_ofList,
    stripOuter_eq_self_iff (trim_stripOuter _), Ne, Ne, head?_stripOuter (by decide) (by decide),
    getLast?_stripOuter (by decide) (by decide), trimmed, String.toList_ofList]

/-! ## Literals -/

/-- **What a literal accepts of its own.**  It accepts the text that it was read from, however that is
cut into words.  The text that it stands for it accepts exactly if that is left as it is by another
round of stripping; and this is so exactly if the constraint has no blanks among the braces at its
beginning and none among those at its end. -/
theorem literal_accepts_itself_iff {raw v : String} (h : Constraint.compile raw = .literal v) :
    (∀ ws, unwords ws = raw → (Constraint.compile raw).accepts ws = true)
      ∧ ((∀ ws, unwords ws = v → (Constraint.compile raw).accepts ws = true) ↔ stripBraces v = v)
      ∧ (stripBraces v = v
        ↔ ¬ BracedTwice '{' (trimmed raw).toList
          ∧ ¬ BracedTwice '}' (trimmed raw).toList.reverse) := by
  have haccepts : ∀ ws, (Constraint.compile raw).accepts ws = true
      ↔ stripBraces (unwords ws) = v := by
    intro ws
    rw [h, Constraint.accepts, decide_eq_true_iff]
  refine ⟨fun ws hws => Constraint.accepts_of_unwords_eq h hws, ⟨fun hall => ?_, ?_⟩, ?_⟩
  · have hown : unwords [v] = v := by simp [unwords]
    have hstrip := (haccepts [v]).mp (hall [v] hown)
    rwa [hown] at hstrip
  · intro hstrip ws hws
    rw [haccepts, hws, hstrip]
  · rw [Constraint.eq_stripBraces_of_compile h]
    exact stripBraces_stripBraces_iff

/-- Braces of any number with blanks behind all of them are taken off at once. -/
theorem literal_accepts_itself_iff_nested :
    Constraint.compile "\x7b\x7b a b \x7d\x7d" = .literal "a b"
      ∧ ∀ ws, unwords ws = "a b" →
        (Constraint.compile "\x7b\x7b a b \x7d\x7d").accepts ws = true := by
  have hcompile : Constraint.compile "\x7b\x7b a b \x7d\x7d" = .literal "a b" := by decide +kernel
  exact ⟨hcompile, (literal_accepts_itself_iff hcompile).2.1.mpr (by decide +kernel)⟩

/-- A literal that refuses its own text: a blank stands between its braces. -/
theorem literal_refuses_itself :
    Constraint.compile "\x7b \x7ba\x7d \x7d" = .literal "\x7ba\x7d"
      ∧ (Constraint.compile "\x7b \x7ba\x7d \x7d").accepts ["\x7ba\x7d"] = false := by
  decide +kernel

end Optline
