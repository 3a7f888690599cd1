import Optline.Proofs.SpecTokens

/-!
# How a specification uses its tokens

`marks` and `groupMarks` read the tokens of a specification from left to right and keep what they
declare.  This file keeps the tokens themselves: it says what it is to break a list of tokens down
into leading words, options and perhaps a minus to no purpose, and shows that every list breaks down
in exactly one way.

* `Opener` — what opens an option: a token that looks like a flag, or a lone minus with the token
  behind it, whatever that is.
* `Breakdown` — the parts of a list of tokens; `Breakdown.tokens` puts them together again.
* **`Breakdown.tokens_ofTokens`**, **`Breakdown.ofTokens_tokens`** — lists of tokens and breakdowns
  are the same thing, so a list has one breakdown and no other.
* `Breakdown.readParts_eq` — what a specification declares is read off the breakdown of its tokens.
* **`compile_breaks_down`** — all this for every specification text.

Every breakdown is built from the right by putting a word or an opener in front of a smaller one
(`Breakdown.parts_induction`).  An opener takes the words that lead the rest for its own, which is
the one place where a token changes the part that it belongs to.
-/

namespace Optline

open Text

/-! ## The parts -/

/-- What opens an option. -/
inductive Opener where
  /-- A token that looks like a flag. -/
  | flag (token : String) (h : isFlagLike token = true)
  /-- A lone minus and the token behind it. -/
  | minus (token : String)

namespace Opener

/-- The tokens of an opener. -/
def tokens : Opener → List String
  | flag token _ => [token]
  | minus token => ["-", token]

/-- The flag that an opener declares.  Behind a lone minus a token is a flag as it stands if it
begins with a minus of its own and has more than that. -/
def name : Opener → String
  | flag token _ => token
  | minus token =>
    if token.toList.head? = some '-' ∧ 1 < token.length then token else "-" ++ token

end Opener

/-- The tokens of one option. -/
structure OptionTokens where
  opener : Opener
  words : List String
  data : ∀ w ∈ words, IsWord w

namespace OptionTokens

/-- All tokens of an option in their order. -/
def tokens (o : OptionTokens) : List String :=
  o.opener.tokens ++ o.words

/-- The option that the tokens declare. -/
def spec (o : OptionTokens) : OptionSpec :=
  ⟨o.opener.name, unwords o.words⟩

end OptionTokens

/-- The parts of a list of tokens: leading words, options, and whether a lone minus stands at the
end with nothing behind it. -/
structure Breakdown where
  lead : List String
  options : List OptionTokens
  endsInMinus : Bool
  lead_data : ∀ w ∈ lead, IsWord w

namespace Breakdown

/-- The tokens of all parts in their order. -/
def tokens (b : Breakdown) : List String :=
  b.lead ++ b.options.flatMap OptionTokens.tokens ++ bif b.endsInMinus then ["-"] else []

lemma mem_tokens_of_mem_lead (b : Breakdown) {token : String} (h : token ∈ b.lead) :
    token ∈ b.tokens :=
  List.mem_append_left _ (List.mem_append_left _ h)

lemma mem_tokens_of_mem_words (b : Breakdown) {o : OptionTokens} (ho : o ∈ b.options)
    {token : String} (h : token ∈ o.words) : token ∈ b.tokens :=
  List.mem_append_left _ <| List.mem_append_right _ <|
    List.mem_flatMap.mpr ⟨o, ho, List.mem_append_right _ h⟩

/-- Behind the words of an option there are the tokens of the next one. -/
lemma exists_tokens_behind (b : Breakdown) {o : OptionTokens} (h : o ∈ b.options.dropLast) :
    ∃ front behind, b.tokens = front ++ behind ∧ behind ≠ [] ∧ ∀ word ∈ o.words, word ∈ front := by
  rcases List.eq_nil_or_concat' b.options with hnil | ⟨options, last, hoptions⟩
  · simp [hnil] at h
  · rw [hoptions, List.dropLast_concat] at h
    refine ⟨b.lead ++ options.flatMap OptionTokens.tokens,
      last.tokens ++ bif b.endsInMinus then ["-"] else [], ?_, ?_, fun word hword => ?_⟩
    · rw [tokens, hoptions, List.flatMap_append, List.flatMap_singleton]
      simp only [List.append_assoc]
    · cases hopener : last.opener <;> simp [OptionTokens.tokens, Opener.tokens, hopener]
    · exact List.mem_append_right _ (List.mem_flatMap.mpr ⟨o, h, List.mem_append_right _ hword⟩)

/-! ## Building a breakdown -/

/-- A breakdown without words and options. -/
def bare (endsInMinus : Bool) : Breakdown :=
  ⟨[], [], endsInMinus, by simp⟩

/-- A word in front of a breakdown. -/
def consWord (word : String) (h : IsWord word) (b : Breakdown) : Breakdown :=
  ⟨word :: b.lead, b.options, b.endsInMinus, List.forall_mem_cons.mpr ⟨h, b.lead_data⟩⟩

/-- An opener in front of a breakdown; the words that led it belong to the option now. -/
def consOpener (opener : Opener) (b : Breakdown) : Breakdown :=
  ⟨[], ⟨opener, b.lead, b.lead_data⟩ :: b.options, b.endsInMinus, by simp⟩

/-- The breakdown of a list of tokens. -/
def ofTokens : List String → Breakdown
  | [] => bare false
  | token :: rest =>
    if hminus : token = "-" then
      match rest with
      | [] => bare true
      | next :: rest => consOpener (.minus next) (ofTokens rest)
    else if hlike : isFlagLike token = true then consOpener (.flag token hlike) (ofTokens rest)
    else consWord token (isWord_of_not_flagLike hminus hlike) (ofTokens rest)

@[simp] lemma tokens_consWord {word : String} (h : IsWord word) (b : Breakdown) :
    (consWord word h b).tokens = word :: b.tokens := rfl

@[simp] lemma tokens_consOpener (opener : Opener) (b : Breakdown) :
    (consOpener opener b).tokens = opener.tokens ++ b.tokens := by
  simp only [consOpener, tokens, OptionTokens.tokens, List.flatMap_cons, List.nil_append,
    List.append_assoc]

lemma ofTokens_cons_word {word : String} (h : IsWord word) (rest : List String) :
    ofTokens (word :: rest) = consWord word h (ofTokens rest) := by
  rw [ofTokens.eq_def]
  simp [h.1, h.2]

lemma ofTokens_append_opener (opener : Opener) (rest : List String) :
    ofTokens (opener.tokens ++ rest) = consOpener opener (ofTokens rest) := by
  cases opener with
  | flag token h =>
      rw [Opener.tokens, List.singleton_append, ofTokens.eq_def]
      simp [ne_minus_of_isFlagLike h, h]
  | minus token =>
      rw [Opener.tokens, List.cons_append, ofTokens.eq_def]
      simp

/-- Every breakdown is built from the right, word by word and opener by opener. -/
theorem parts_induction {motive : Breakdown → Prop} (bare : ∀ d, motive (bare d))
    (word : ∀ w h b, motive b → motive (consWord w h b))
    (opener : ∀ o b, motive b → motive (consOpener o b)) (b : Breakdown) : motive b := by
  obtain ⟨lead, options, d, hlead⟩ := b
  induction options generalizing lead with
  | nil =>
      induction lead with
      | nil => exact bare d
      | cons w ws ih =>
          obtain ⟨hw, hws⟩ := List.forall_mem_cons.mp hlead
          exact word w hw ⟨ws, [], d, hws⟩ (ih hws)
  | cons o options ihOptions =>
      induction lead with
      | nil => exact opener o.opener ⟨o.words, options, d, o.data⟩ (ihOptions o.words o.data)
      | cons w ws ih =>
          obtain ⟨hw, hws⟩ := List.forall_mem_cons.mp hlead
          exact word w hw ⟨ws, o :: options, d, hws⟩ (ih hws)

/-! ## One breakdown for every list -/

/-- **A breakdown keeps all tokens** of a list, in their order. -/
theorem tokens_ofTokens (tokens : List String) : (ofTokens tokens).tokens = tokens := by
  fun_induction ofTokens tokens with
  | case1 => rfl
  | case2 => rfl
  | case3 next rest ih => rw [tokens_consOpener, ih]; rfl
  | case4 token rest _ hlike ih => rw [tokens_consOpener, ih]; rfl
  | case5 token rest _ _ ih => rw [tokens_consWord, ih]

/-- **The tokens of a breakdown** break down in no other way. -/
theorem ofTokens_tokens (b : Breakdown) : ofTokens b.tokens = b := by
  induction b using parts_induction with
  | bare d => cases d <;> rfl
  | word w h b ih => rw [tokens_consWord, ofTokens_cons_word h, ih]
  | opener o b ih => rw [tokens_consOpener, ofTokens_append_opener, ih]

/-! ## What is declared -/

lemma promoted_eq (token : String) : promoted token = (Opener.minus token).name := by
  rw [promoted, Opener.name, ← String.length_toList]
  split
  next h => simp [h]
  next h =>
    rw [if_neg]
    rintro ⟨hhead, hlength⟩
    match hchars : token.toList with
    | [] => simp [hchars] at hhead
    | [c] => simp [hchars] at hlength
    | c :: d :: cs =>
        obtain rfl : c = '-' := by simpa [hchars] using hhead
        exact h d cs hchars

lemma marks_append_opener (opener : Opener) (rest : List String) :
    marks (opener.tokens ++ rest) = .flag opener.name :: marks rest := by
  cases opener with
  | flag token h => exact marks_cons_flag h rest
  | minus token =>
      rw [← promoted_eq]
      exact marks_minus token rest

/-- Grouping finds the words of each part and the flags in front of them. -/
lemma groupMarks_marks (b : Breakdown) :
    groupMarks (marks b.tokens) = (b.lead, b.options.map fun o => (o.opener.name, o.words)) := by
  induction b using parts_induction with
  | bare d => cases d <;> rfl
  | word w h b ih => rw [tokens_consWord, marks_cons_word h, groupMarks, ih]; rfl
  | opener o b ih => rw [tokens_consOpener, marks_append_opener, groupMarks, ih]; rfl

/-- What a text declares is read off the breakdown of its tokens. -/
theorem readParts_eq {raw : String} {b : Breakdown} (h : b.tokens = splitSpec raw) :
    readParts raw = (unwords b.lead, b.options.map OptionTokens.spec) := by
  rw [readParts, ← h, groupMarks_marks]
  simp only [List.map_map]
  rfl

end Breakdown

/-- **Every token of a specification has one use.**  The tokens of a text are its positional
arguments, then its options, each with what opens it and the words of its constraint, and then
perhaps a minus to no purpose; in no other way can they be broken down like this, and what the text
declares are the joined words of these parts. -/
theorem compile_breaks_down (name raw : String) :
    let spec := CommandSpec.compile name raw
    ∃ b : Breakdown, b.tokens = splitSpec raw
      ∧ (∀ other : Breakdown, other.tokens = splitSpec raw → other = b)
      ∧ spec.argumentPattern = unwords b.lead
      ∧ spec.options = b.options.map OptionTokens.spec
      ∧ ∀ o ∈ spec.options, o.flag.toList.head? = some '-' ∧ 1 < o.flag.length := by
  intro spec
  have htokens := Breakdown.tokens_ofTokens (splitSpec raw)
  have hparts := Breakdown.readParts_eq htokens
  refine ⟨.ofTokens (splitSpec raw), htokens, ?_, congrArg Prod.fst hparts,
    congrArg Prod.snd hparts, ?_⟩
  · intro other hother
    rw [← hother, Breakdown.ofTokens_tokens]
  · intro o ho
    obtain ⟨c, cs, hflag⟩ := exists_flag_of_mem_compile ho
    rw [← String.length_toList, hflag]
    simp

/-- A lone minus takes the token behind it, be it a minus or a flag, and one at the end takes none. -/
example :
    (Breakdown.ofTokens ["<a>", "-", "-", "-", "-x", "y", "-"]).options.map OptionTokens.spec
      = [⟨"--", ""⟩, ⟨"-x", "y"⟩] := by
  decide +kernel

end Optline
