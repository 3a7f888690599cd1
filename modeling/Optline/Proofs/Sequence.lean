import Mathlib.Data.List.Forall2
import Optline.Proofs.BraceGroup
import Optline.Proofs.WordCount

/-!
# Constraints of several words

A constraint of several words takes one parameter for each word.  What a word allows there is decided
by other rules than what it allows as a constraint of its own: a placeholder may be empty, and braces
are characters like any other.  This file sets the two beside each other, word by word and for whole
constraints.

* `FitsSlot`, `FitsAlone` — what a word allows in a sequence, and as a constraint of its own.
* `accepts_iff_fitsSlot` — a constraint of several words is satisfied parameter by parameter.
* `IsOrdinary`, **`fitsSlot_iff_fitsAlone`** — the words that allow the same in both places: all but
  `<>` and those that begin with a brace.
* `IsBars`, `exists_fitsSlot` — words made of bars alone, which allow nothing in either.
* **`sequence_compositional_iff`** — a constraint of several words takes what its words take alone
  exactly if all of them are ordinary, or one of them allows nothing.
* `word_changes_meaning` — a constraint with an empty placeholder, and one with a brace.
-/

namespace Optline

open Text

/-! ## Lists of parameters -/

section

variable {α β : Type} {R S : α → β → Prop} {bs : List β}

lemma exists_of_forall₂ {as : List α} (h : List.Forall₂ R as bs) {b : β} (hb : b ∈ bs) :
    ∃ a, R a b := by
  induction h with
  | nil => simp at hb
  | cons hab _ ih =>
      rcases List.mem_cons.mp hb with rfl | hrest
      · exact ⟨_, hab⟩
      · exact ih hrest

lemma exists_forall₂ (h : ∀ b ∈ bs, ∃ a, R a b) : ∃ as, List.Forall₂ R as bs := by
  induction bs with
  | nil => exact ⟨[], .nil⟩
  | cons b bs ih =>
      obtain ⟨⟨a, hab⟩, hbs⟩ := List.forall_mem_cons.mp h
      obtain ⟨as, has⟩ := ih hbs
      exact ⟨a :: as, .cons hab has⟩

lemma forall₂_iff_of_forall (h : ∀ b ∈ bs, ∀ a, R a b ↔ S a b) (as : List α) :
    List.Forall₂ R as bs ↔ List.Forall₂ S as bs := by
  induction bs generalizing as with
  | nil => simp
  | cons b bs ih =>
      obtain ⟨hb, hbs⟩ := List.forall_mem_cons.mp h
      simp only [List.forall₂_cons_right_iff, hb, ih hbs]

/-- If some list is allowed, the converse holds as well: all members but one can be kept as they are
in that list. -/
lemma forall_iff_of_forall₂_iff (hex : ∀ b ∈ bs, ∃ a, R a b)
    (h : ∀ as, List.Forall₂ R as bs ↔ List.Forall₂ S as bs) : ∀ b ∈ bs, ∀ a, R a b ↔ S a b := by
  induction bs with
  | nil => simp
  | cons b bs ih =>
      obtain ⟨⟨a, hab⟩, hbs⟩ := List.forall_mem_cons.mp hex
      obtain ⟨as, has⟩ := exists_forall₂ hbs
      obtain ⟨hab', has'⟩ := List.forall₂_cons.mp ((h (a :: as)).mp (.cons hab has))
      refine List.forall_mem_cons.mpr ⟨fun c => ?_, ih hbs fun cs => ?_⟩
      · simpa only [List.forall₂_cons, has, has', and_true] using h (c :: as)
      · simpa only [List.forall₂_cons, hab, hab', true_and] using h (a :: cs)

end

/-! ## Words in two places -/

/-- Whether a parameter fits a word of a sequence. -/
def FitsSlot (param word : String) : Prop :=
  (Slot.ofWord word).accepts param = true

/-- Whether a parameter fits a word that is a constraint of its own.  The placeholder of a text, which
then takes any number of words, is taken for that of a single one here, which must not be empty. -/
def FitsAlone (param word : String) : Prop :=
  if word = "<string>" then param ≠ "" else (Constraint.compile word).accepts [param] = true

instance (param word : String) : Decidable (FitsSlot param word) :=
  inferInstanceAs (Decidable (_ = true))

instance (param word : String) : Decidable (FitsAlone param word) :=
  inferInstanceAs (Decidable (if word = "<string>" then param ≠ "" else _ = true))

/-- Words other than the empty placeholder and those that begin with a brace. -/
def IsOrdinary (word : String) : Prop :=
  word ≠ "<>" ∧ word.toList.head? ≠ some '{'

/-- Whether a word holds nothing but bars. -/
def IsBars (word : String) : Prop :=
  ∀ c ∈ word.toList, c = '|'

lemma words_of_mem_words {text word : String} (h : word ∈ words text) :
    words word = [word] ∧ trimmed word = word := by
  have hnot : ∀ c ∈ word.toList, isBlank c = false := fun c hc => (mem_of_mem_fields h hc).2
  have hne : word ≠ "" := by
    rintro rfl
    exact empty_not_mem_fields _ _ h
  refine ⟨?_, trimmed_eq_self hnot⟩
  rw [words, fields, List.splitOnP_eq_singleton hnot, List.filter_cons_of_pos (by simpa using hne)]
  simp

namespace Constraint

/-- A text that begins with no brace is read by its words. -/
lemma compile_of_not_begins {raw : String} (h : ¬ BeginsGroup raw) (hne : words raw ≠ []) :
    compile raw = (ofWords (trimmed raw) (words raw)).1 := by
  unfold compile read
  dsimp only
  split
  next hnil =>
    rw [← words_trimmed, String.toList_eq_nil_iff.mp hnil] at hne
    exact absurd rfl hne
  next cs hchars => exact absurd (by rw [BeginsGroup, hchars, List.head?_cons]) h
  next => rw [words_trimmed]

lemma accepts_sequence_iff {params ws : List String} :
    (sequence (ws.map Slot.ofWord)).accepts params = true ↔ List.Forall₂ FitsSlot params ws := by
  rw [List.forall₂_iff_zip, accepts, Bool.and_eq_true, decide_eq_true_eq, List.length_map,
    List.zip_map_right, List.all_map, List.all_eq_true]
  exact and_congr_right fun _ => ⟨fun h _ _ hmem => h _ hmem, fun h _ hmem => h hmem⟩

/-- **A constraint of several words** is satisfied by a parameter for each word that fits its slot. -/
theorem accepts_iff_fitsSlot {raw : String} (hmany : 2 ≤ (words raw).length)
    (hbegins : ¬ BeginsGroup raw) (params : List String) :
    (compile raw).accepts params = true ↔ List.Forall₂ FitsSlot params (words raw) := by
  have hne : words raw ≠ [] := by
    intro hnil
    rw [hnil] at hmany
    exact absurd hmany (by simp)
  rw [← accepts_sequence_iff, compile_of_not_begins hbegins hne]
  match hwords : words raw with
  | [] => exact absurd hwords hne
  | [word] =>
    rw [hwords] at hmany
    exact absurd hmany (by simp)
  | _ :: _ :: _ => rfl

end Constraint

/-! ## Ordinary words -/

lemma eq_of_placeholderName?_empty {word : String} (h : placeholderName? word = some "") :
    word = "<>" := by
  unfold placeholderName? at h
  split at h
  next cs hchars =>
    split_ifs at h with hlast
    have hfront : cs.dropLast = [] := String.ofList_eq_empty_iff.mp (Option.some.inj h)
    obtain ⟨front, rfl⟩ := List.getLast?_eq_some_iff.mp hlast
    rw [List.dropLast_concat] at hfront
    rw [← String.toList_inj, hchars, hfront]
    rfl
  next => simp at h

lemma placeholderName?_eq_none {word : String} (h : word.toList.head? ≠ some '<') :
    placeholderName? word = none := by
  unfold placeholderName?
  split
  next cs hchars => exact absurd (by rw [hchars, List.head?_cons]) h
  next => rfl

section

variable {text word : String}

lemma fitsSlot_iff_fitsAlone_of_ordinary (hword : word ∈ words text) (h : IsOrdinary word)
    (param : String) : FitsSlot param word ↔ FitsAlone param word := by
  obtain ⟨hwords, htrimmed⟩ := words_of_mem_words hword
  have hbegins : ¬ BeginsGroup word := by
    rw [BeginsGroup, htrimmed]
    exact h.2
  rw [FitsSlot, FitsAlone, Constraint.compile_of_not_begins hbegins (by simp [hwords]), hwords,
    Constraint.ofWords]
  split_ifs with hstring hname
  · have hslot : Slot.ofWord "<string>" = .typed .string := by decide
    rw [hstring, hslot]
    simp [Slot.accepts, ValueType.accepts]
  · simp [Constraint.accepts]
  · have hnone : placeholderName? word = none := by
      cases hplaceholder : placeholderName? word with
      | none => rfl
      | some name =>
          obtain rfl : name = "" := by simpa [hplaceholder] using hname
          exact absurd (eq_of_placeholderName?_empty hplaceholder) h.1
    simp [Slot.ofWord, hnone, Slot.accepts, Constraint.accepts]

lemma isOrdinary_of_isBars (h : IsBars word) : IsOrdinary word := by
  refine ⟨?_, fun hbrace => absurd (h '{' (List.mem_of_head? hbrace)) (by decide)⟩
  rintro rfl
  exact absurd (h '<' (by decide)) (by decide)

/-- A word of bars has no spelling. -/
lemma not_fitsSlot_of_isBars (h : IsBars word) (param : String) : ¬ FitsSlot param word := by
  have hnone : placeholderName? word = none := by
    refine placeholderName?_eq_none fun hhead => ?_
    exact absurd (h '<' (List.mem_of_head? hhead)) (by decide)
  have hspellings : spellings word = [] :=
    fields_eq_nil_iff.mpr (List.all_eq_true.mpr fun c hc => by simp [h c hc])
  simp [FitsSlot, Slot.ofWord, hnone, hspellings, Slot.accepts]

/-- In every other word there is one, unless it is a placeholder; and all types have a value. -/
lemma exists_fitsSlot (h : ¬ IsBars word) : ∃ param, FitsSlot param word := by
  simp only [FitsSlot, Slot.ofWord]
  cases placeholderName? word with
  | some name =>
      refine ⟨"0", ?_⟩
      cases hname : ValueType.ofName name with
      | unknown => simp [Slot.accepts, ValueType.accepts, hname]
      | _ =>
          simp only [Slot.accepts, hname]
          decide
  | none =>
      have hne : spellings word ≠ [] := by
        intro hnil
        have hall := List.all_eq_true.mp (fields_eq_nil_iff.mp hnil)
        exact h fun c hc => by simpa using hall c hc
      obtain ⟨spelling, rest, hspellings⟩ := List.exists_cons_of_ne_nil hne
      exact ⟨spelling, by simp [Slot.accepts, hspellings]⟩

/-- A word that begins with a brace is a spelling in a sequence.  Alone it stands for a text that may
have blanks around it, which no spelling has, or for nothing at all. -/
lemma exists_not_iff_of_begins (hword : word ∈ words text) (h : word.toList.head? = some '{') :
    ∃ param, ¬ (FitsSlot param word ↔ FitsAlone param word) := by
  obtain ⟨-, htrimmed⟩ := words_of_mem_words hword
  have hbegins : BeginsGroup word := by rw [BeginsGroup, htrimmed, h]
  have hnotString : word ≠ "<string>" := by
    rintro rfl
    exact absurd h (by decide)
  simp only [FitsAlone, if_neg hnotString, Constraint.compile_of_begins hbegins]
  by_cases hends : EndsGroup word
  · refine ⟨" " ++ word, fun hiff => ?_⟩
    have hnone : placeholderName? word = none := placeholderName?_eq_none (by simp [h])
    have hstrip : stripBraces (" " ++ word) = stripBraces word := by
      rw [stripBraces, stripBraces, stripBraceChars, stripBraceChars, String.toList_append]
      exact congrArg _ (congrArg _ (congrArg _ (congrArg _ (trim_cons_blank (by decide) _))))
    have hfits : FitsSlot (" " ++ word) word := by
      rw [hiff, if_pos hends]
      simp [Constraint.accepts, unwords, hstrip]
    have hmem : " " ++ word ∈ spellings word := by
      simpa [FitsSlot, Slot.ofWord, hnone, Slot.accepts] using hfits
    have hspace : ' ' ∈ word.toList := (mem_of_mem_fields hmem (c := ' ') (by simp)).1
    exact absurd (mem_of_mem_fields hword hspace).2 (by decide)
  · have hbars : ¬ IsBars word := fun hbars =>
      absurd (hbars '{' (List.mem_of_head? h)) (by decide)
    obtain ⟨param, hfits⟩ := exists_fitsSlot hbars
    refine ⟨param, fun hiff => ?_⟩
    rw [hiff, if_neg hends] at hfits
    exact absurd hfits (by simp [Constraint.accepts])

/-- **Words that mean the same** in a sequence and alone are the ordinary ones. -/
theorem fitsSlot_iff_fitsAlone (hword : word ∈ words text) :
    (∀ param, FitsSlot param word ↔ FitsAlone param word) ↔ IsOrdinary word := by
  refine ⟨fun h => ⟨?_, fun hbrace => ?_⟩, fitsSlot_iff_fitsAlone_of_ordinary hword⟩
  · rintro rfl
    have hslot : FitsSlot "" "<>" := by decide +kernel
    exact absurd ((h "").mp hslot) (by decide +kernel)
  · obtain ⟨param, hnot⟩ := exists_not_iff_of_begins hword hbrace
    exact hnot (h param)

end

/-! ## Constraints of several words -/

/-- **Several words together and each alone.**  A constraint of several words that begins with no brace
is satisfied by one parameter for each word, which fits the slot of that word.  What fits the slot of a
word is what the word allows alone exactly for the ordinary words.  So a constraint takes what its
words take alone exactly if all of them are ordinary; or if one of them is nothing but bars, since
nothing is taken then by either rule. -/
theorem sequence_compositional_iff {raw : String} (hmany : 2 ≤ (words raw).length)
    (hbegins : ¬ BeginsGroup raw) :
    (∀ params, (Constraint.compile raw).accepts params = true
        ↔ List.Forall₂ FitsSlot params (words raw))
      ∧ (∀ word ∈ words raw, (∀ param, FitsSlot param word ↔ FitsAlone param word) ↔ IsOrdinary word)
      ∧ ((∀ params, (Constraint.compile raw).accepts params = true
          ↔ List.Forall₂ FitsAlone params (words raw))
        ↔ (∀ word ∈ words raw, IsOrdinary word) ∨ ∃ word ∈ words raw, IsBars word) := by
  have haccepts := Constraint.accepts_iff_fitsSlot hmany hbegins
  refine ⟨haccepts, fun word hword => fitsSlot_iff_fitsAlone hword, ?_⟩
  simp only [haccepts]
  constructor
  · intro h
    by_cases hbars : ∃ word ∈ words raw, IsBars word
    · exact Or.inr hbars
    · refine Or.inl fun word hword => (fitsSlot_iff_fitsAlone hword).mp ?_
      refine forall_iff_of_forall₂_iff (fun w hw => exists_fitsSlot fun hbar => ?_) h word hword
      exact hbars ⟨w, hw, hbar⟩
  · rintro (hordinary | ⟨word, hword, hbars⟩)
    · exact forall₂_iff_of_forall fun word hword =>
        fitsSlot_iff_fitsAlone_of_ordinary hword (hordinary word hword)
    · have hsame := fitsSlot_iff_fitsAlone_of_ordinary hword (isOrdinary_of_isBars hbars)
      have hslot := not_fitsSlot_of_isBars hbars
      refine fun params => iff_of_false (fun h => ?_) fun h => ?_
      · obtain ⟨param, hparam⟩ := exists_of_forall₂ h hword
        exact hslot param hparam
      · obtain ⟨param, hparam⟩ := exists_of_forall₂ h hword
        exact hslot param ((hsame param).mpr hparam)

/-- A typed placeholder, one of an unknown type, one of a text, and a list of spellings. -/
theorem sequence_compositional_iff_ordinary :
    let raw := "<int> <point> <string> N|S|"
    (2 ≤ (words raw).length ∧ ¬ BeginsGroup raw)
      ∧ ∀ params, (Constraint.compile raw).accepts params = true
        ↔ List.Forall₂ FitsAlone params (words raw) := by
  intro raw
  have hmany : 2 ≤ (words raw).length := by decide +kernel
  have hbegins : ¬ BeginsGroup raw := by
    unfold BeginsGroup
    decide +kernel
  have hwords : words raw = ["<int>", "<point>", "<string>", "N|S|"] := by decide +kernel
  refine ⟨⟨hmany, hbegins⟩, (sequence_compositional_iff hmany hbegins).2.2.mpr (Or.inl ?_)⟩
  rw [hwords]
  unfold IsOrdinary
  decide

/-- An empty placeholder takes anything in a sequence and only itself alone; a word in braces stands
for itself in a sequence, and for what is in the braces alone.  So the first constraint takes a
parameter that its word refuses, and the second one refuses a parameter that its word takes. -/
theorem word_changes_meaning :
    (¬ BeginsGroup "<int> <>" ∧ words "<int> <>" = ["<int>", "<>"]
        ∧ (Constraint.compile "<int> <>").accepts ["5", "y"] = true
        ∧ ¬ List.Forall₂ FitsAlone ["5", "y"] (words "<int> <>"))
      ∧ ¬ BeginsGroup "x \x7ba\x7d" ∧ words "x \x7ba\x7d" = ["x", "\x7ba\x7d"]
        ∧ (Constraint.compile "x \x7ba\x7d").accepts ["x", "a"] = false
        ∧ List.Forall₂ FitsAlone ["x", "a"] (words "x \x7ba\x7d") := by
  have hplaceholder : words "<int> <>" = ["<int>", "<>"] := by decide +kernel
  have hbraces : words "x \x7ba\x7d" = ["x", "\x7ba\x7d"] := by decide +kernel
  simp only [hplaceholder, hbraces, List.forall₂_cons, List.forall₂_nil_right_iff, BeginsGroup]
  decide +kernel

end Optline
