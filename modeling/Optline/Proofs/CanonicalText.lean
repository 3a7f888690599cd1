import Optline.Proofs.SpecTokens

/-!
# Specifications written out again

A specification that has been read can be written out again: its positional arguments, and then its
options, each as its flag and the text of its constraint, with a lone minus in front of a flag that
does not look like one.  Blanks that stood outside braces are single spaces then, and a minus that
promoted nothing, or nothing that needs it, is gone; but to read the text gives the specification
back.

* `CommandSpec.canonicalText` — a specification as a text.
* `Mark.tokens` — the tokens that declare what a token of a text has been taken for.
* `marks_canonical` — they are taken for the same again.
* `canonicalText_compile` — the text is these tokens with single spaces between them.
* **`compile_canonicalText`** — to read the text gives the specification back.
-/

namespace Optline

open Text

/-! ## Writing a specification -/

/-- The tokens that declare a flag: the flag, behind a lone minus if it does not look like one. -/
def flagTokens (flag : String) : List String :=
  if isFlagLike flag then [flag] else ["-", flag]

/-- A text among others that are to be joined; an empty one is left out. -/
def phrase (text : String) : List String :=
  if text = "" then [] else [text]

/-- The texts that declare an option. -/
def OptionSpec.declaration (o : OptionSpec) : List String :=
  flagTokens o.flag ++ phrase o.constraint

/-- A specification as a text. -/
def CommandSpec.canonicalText (spec : CommandSpec) : String :=
  unwords (phrase spec.argumentPattern ++ spec.options.flatMap OptionSpec.declaration)

/-! ## Token by token -/

/-- The tokens that declare what a token of a specification is. -/
def Mark.tokens : Mark → List String
  | .word text => [text]
  | .flag name => flagTokens name
  | .danglingMinus => []

lemma promoted_eq_self {flag : String} (h : ∃ c cs, flag.toList = '-' :: c :: cs) :
    promoted flag = flag := by
  obtain ⟨c, cs, hflag⟩ := h
  simp [promoted, hflag]

/-- A declared flag is read back, also where it does not look like one. -/
lemma marks_flagTokens {flag : String} (h : ∃ c cs, flag.toList = '-' :: c :: cs)
    (rest : List String) : marks (flagTokens flag ++ rest) = .flag flag :: marks rest := by
  rw [flagTokens]
  split_ifs with hlike
  · exact marks_cons_flag hlike rest
  · have hread := marks_minus flag rest
    rwa [promoted_eq_self h] at hread

/-- The tokens that declare the marks of a text are taken for the same marks again, except that a
minus without a purpose is gone.  The induction is on the tokens of the text; where one is promoted
two of them go at once. -/
theorem marks_canonical {tokens : List String} (h : ∀ token ∈ tokens, token ≠ "") :
    marks ((marks tokens).flatMap Mark.tokens) = (marks tokens).filter (· ≠ .danglingMinus) := by
  fun_induction marks tokens with
  | case1 => rfl
  | case2 => rfl
  | case3 next rest ih =>
      have hnext := exists_promoted (h next (by simp))
      rw [List.flatMap_cons, Mark.tokens, marks_flagTokens hnext,
        ih fun token htoken => h token (by simp [htoken])]
      simp
  | case4 token rest hminus ih =>
      have hrest := ih fun token htoken => h token (by simp [htoken])
      cases hlike : isFlagLike token with
      | true =>
          obtain ⟨c, cs, htoken, -⟩ := isFlagLike_iff.mp hlike
          rw [if_pos rfl, List.flatMap_cons, Mark.tokens, marks_flagTokens ⟨c, cs, htoken⟩, hrest]
          simp
      | false =>
          rw [if_neg (by simp), List.flatMap_cons, Mark.tokens, List.singleton_append,
            marks_cons_word ⟨hminus, hlike⟩, hrest]
          simp

lemma crosses_promoted {token : String} {depth : Nat}
    (h : braceCutter.Crosses 0 token.toList depth) :
    braceCutter.Crosses 0 (promoted token).toList depth := by
  unfold promoted
  split
  · exact h
  · rw [String.toList_append]
    exact crosses_minus h

lemma Spaced.flagTokens_append {flag : String} {rest : List String} (hne : flag ≠ "")
    (h : braceCutter.Crosses 0 flag.toList 0) (hrest : Spaced rest) :
    Spaced (flagTokens flag ++ rest) := by
  rw [flagTokens]
  split_ifs
  · exact .cons hne h hrest
  · exact .cons (by decide) (crosses_minus (.nil 0)) (.cons hne h hrest)

lemma spaced_flagTokens {flag : String} {depth : Nat} (hne : flag ≠ "")
    (h : braceCutter.Crosses 0 flag.toList depth) : Spaced (flagTokens flag) := by
  rw [flagTokens]
  split_ifs
  · exact .single hne h
  · exact .cons (by decide) (crosses_minus (.nil 0)) (.single hne h)

lemma ne_empty_of_exists_cons {text : String} (h : ∃ c cs, text.toList = '-' :: c :: cs) :
    text ≠ "" := by
  rintro rfl
  obtain ⟨c, cs, hnil⟩ := h
  exact absurd hnil (by simp)

/-- The tokens that declare the marks of a text are kept apart by single spaces as its own tokens
are: a group that is not closed stays the last of them. -/
theorem Spaced.canonical {tokens : List String} (h : Spaced tokens) :
    Spaced ((marks tokens).flatMap Mark.tokens) := by
  fun_induction marks tokens with
  | case1 => exact .nil
  | case2 => exact .nil
  | case3 next rest ih =>
      rw [List.flatMap_cons, Mark.tokens]
      cases h with
      | cons _ _ hnext =>
          have hne := ne_empty_of_exists_cons (exists_promoted (hnext.ne_empty next (by simp)))
          cases hnext with
          | single _ h =>
              simpa [marks] using spaced_flagTokens hne (crosses_promoted h)
          | cons _ h hrest => exact (ih hrest).flagTokens_append hne (crosses_promoted h)
  | case4 token rest hminus ih =>
      have hself : (if isFlagLike token then Mark.flag token else .word token).tokens = [token] := by
        cases hlike : isFlagLike token <;> simp [Mark.tokens, flagTokens, hlike]
      rw [List.flatMap_cons, hself]
      cases h with
      | single hne h => simpa [marks] using Spaced.single hne h
      | cons hne h hrest => exact .cons hne h (ih hrest)

/-! ## Group by group -/

lemma groupMarks_filter (ms : List Mark) :
    groupMarks (ms.filter (· ≠ .danglingMinus)) = groupMarks ms := by
  induction ms with
  | nil => rfl
  | cons mark ms ih =>
      cases mark with
      | word text => rw [List.filter_cons_of_pos (by simp), groupMarks, groupMarks, ih]
      | flag name => rw [List.filter_cons_of_pos (by simp), groupMarks, groupMarks, ih]
      | danglingMinus => rw [List.filter_cons_of_neg (by simp), groupMarks, ih]

/-- The tokens of the groups are those of the marks. -/
lemma flatMap_tokens (ms : List Mark) :
    ms.flatMap Mark.tokens
      = (groupMarks ms).1 ++ (groupMarks ms).2.flatMap fun g => flagTokens g.1 ++ g.2 := by
  induction ms with
  | nil => rfl
  | cons mark ms ih => cases mark <;> simp [Mark.tokens, groupMarks, ih]

/-! ## Words and phrases -/

/-- Words with a space in front of each of them. -/
def spacedOut (ws : List String) : List Char :=
  ws.flatMap fun w => ' ' :: w.toList

lemma toList_unwords (ws : List String) : (unwords ws).toList = (spacedOut ws).tail := by
  cases ws with
  | nil => rfl
  | cons w ws =>
      induction ws generalizing w with
      | nil => simp [unwords, spacedOut]
      | cons v vs ih =>
          have hrest := ih v
          rw [unwords] at hrest
          simp [unwords, String.intercalate_cons_cons, hrest, spacedOut]

lemma spacedOut_append (vs ws : List String) :
    spacedOut (vs ++ ws) = spacedOut vs ++ spacedOut ws :=
  List.flatMap_append

/-- It makes no difference to further words whether some are joined first. -/
lemma spacedOut_phrase {ws : List String} (h : ∀ w ∈ ws, w ≠ "") :
    spacedOut (phrase (unwords ws)) = spacedOut ws := by
  cases ws with
  | nil => rfl
  | cons w ws =>
      have hchars : (unwords (w :: ws)).toList = w.toList ++ spacedOut ws := by
        rw [toList_unwords]
        rfl
      have hne : unwords (w :: ws) ≠ "" := by
        intro hempty
        rw [hempty] at hchars
        have hw : w.toList = [] := (List.append_eq_nil_iff.mp hchars.symm).1
        exact h w List.mem_cons_self (String.toList_eq_nil_iff.mp hw)
      rw [phrase, if_neg hne, spacedOut, List.flatMap_singleton, hchars]
      rfl

lemma spacedOut_declarations {groups : List (String × List String)}
    (h : ∀ group ∈ groups, ∀ w ∈ group.2, w ≠ "") :
    spacedOut ((groups.map fun g => (⟨g.1, unwords g.2⟩ : OptionSpec)).flatMap
        OptionSpec.declaration)
      = spacedOut (groups.flatMap fun g => flagTokens g.1 ++ g.2) := by
  induction groups with
  | nil => rfl
  | cons group groups ih =>
      have hrest := ih fun g hg => h g (List.mem_cons_of_mem _ hg)
      rw [List.map_cons, List.flatMap_cons, List.flatMap_cons, spacedOut_append, hrest,
        OptionSpec.declaration, spacedOut_append, spacedOut_phrase (h group List.mem_cons_self),
        spacedOut_append, spacedOut_append]

/-! ## Texts -/

/-- **The text of a specification** is the tokens that declare its marks. -/
theorem canonicalText_compile (name raw : String) :
    (CommandSpec.compile name raw).canonicalText
      = unwords ((marks (splitSpec raw)).flatMap Mark.tokens) := by
  have hne := (spaced_splitSpec raw).canonical.ne_empty
  rw [flatMap_tokens] at hne ⊢
  have hlead : ∀ w ∈ (groupMarks (marks (splitSpec raw))).1, w ≠ "" :=
    fun w hw => hne w (List.mem_append_left _ hw)
  have hgroups : ∀ group ∈ (groupMarks (marks (splitSpec raw))).2, ∀ w ∈ group.2, w ≠ "" :=
    fun group hgroup w hw => hne w <| List.mem_append_right _ <|
      List.mem_flatMap.mpr ⟨group, hgroup, List.mem_append_right _ hw⟩
  have hpattern : (CommandSpec.compile name raw).argumentPattern
      = unwords (groupMarks (marks (splitSpec raw))).1 := rfl
  have hoptions : (CommandSpec.compile name raw).options
      = (groupMarks (marks (splitSpec raw))).2.map fun g => ⟨g.1, unwords g.2⟩ := rfl
  rw [CommandSpec.canonicalText, hpattern, hoptions, ← String.toList_inj, toList_unwords,
    toList_unwords, spacedOut_append, spacedOut_append, spacedOut_phrase hlead,
    spacedOut_declarations hgroups]

/-- **To write a specification out and read it again** gives it back, whatever text it was read from:
the name, the positional arguments, and every option with its flag and the text of its constraint, on
which depends what the option accepts, in the order of their declaration. -/
theorem compile_canonicalText (name raw : String) :
    let spec := CommandSpec.compile name raw
    CommandSpec.compile name spec.canonicalText = { spec with raw := spec.canonicalText } := by
  intro spec
  have hspaced : Spaced (splitSpec raw) := spaced_splitSpec raw
  have hmarks : marks (splitSpec spec.canonicalText)
      = (marks (splitSpec raw)).filter (· ≠ .danglingMinus) := by
    rw [canonicalText_compile, splitSpec_unwords hspaced.canonical,
      marks_canonical hspaced.ne_empty]
  have hparts : readParts spec.canonicalText = readParts raw := by
    rw [readParts, hmarks, groupMarks_filter]
    rfl
  rw [CommandSpec.compile, CommandSpec.read, hparts]
  rfl

/-- Further blanks, two promoted flags, one of which needs it, and a minus that promotes nothing. -/
example : (CommandSpec.compile "c" "<a>\t - 3d  <int>  - x {p  q} -").canonicalText
    = "<a> - -3d <int> -x {p  q}" := by
  decide +kernel

end Optline
