import Optline.Constraint
import Optline.Proofs.Blank

/-!
# What constraints ask for

Facts about constraints that hold whatever the words are: how many words a constraint takes, and
which of them takes none at all.

* `accepts_singleton` — a constraint of one slot takes one word.
* **`accepts_nil_iff`** — the constraints that are satisfied without any word.
* `compile_ne_sequence_nil` — every sequence that is read from a text has a slot.
* **`exists_refused_run`** — every constraint that is read from a text refuses some run.
-/

namespace Optline.Constraint

/-! ## The number of words -/

lemma length_eq_of_accepts_sequence {slots : List Slot} {run : List String}
    (h : (sequence slots).accepts run = true) : run.length = slots.length := by
  rw [accepts, Bool.and_eq_true, decide_eq_true_eq] at h
  exact h.1

/-- A constraint of one slot takes one word. -/
lemma accepts_singleton {slot : Slot} {run : List String}
    (h : (sequence [slot]).accepts run = true) :
    ∃ word, run = [word] ∧ slot.accepts word = true := by
  obtain ⟨word, rfl⟩ := List.length_eq_one_iff.mp (length_eq_of_accepts_sequence h)
  exact ⟨word, rfl, by simpa [accepts] using h⟩

/-- Without any word an option without a value, the empty literal and an enumeration are
satisfied, and otherwise only a sequence without slots. -/
theorem accepts_nil_iff {c : Constraint} :
    c.accepts [] = true
      ↔ c = .empty ∨ c = .literal "" ∨ (∃ spellings, c = .enumeration spellings)
        ∨ c = .sequence [] := by
  cases c with
  | empty => simp [accepts]
  | literal text =>
      have hstrip : stripBraces (Text.unwords []) = "" := by decide +kernel
      simp [accepts, hstrip, eq_comm]
  | anyString =>
      have hblank : Text.isBlankText (Text.unwords []) = true := by decide +kernel
      simp [accepts, hblank]
  | enumeration spellings => simp [accepts]
  | sequence slots => simp [accepts, eq_comm]
  | malformed => simp [accepts]

/-! ## Constraints that are read from a text -/

lemma ofWords_fst_ne_sequence_nil {text : String} {words : List String} (h : words ≠ []) :
    (ofWords text words).1 ≠ .sequence [] := by
  unfold ofWords
  split
  · split_ifs <;> simp
  · simpa using h

/-- Every sequence that is read from a text has a slot: the text is not empty, and so it has a
word. -/
theorem compile_ne_sequence_nil (raw : String) : compile raw ≠ .sequence [] := by
  unfold compile read
  dsimp only
  split
  · simp
  · split_ifs <;> simp
  next hne _ => exact ofWords_fst_ne_sequence_nil (Text.words_trimmed_ne_nil hne)

/-! ## Runs that are refused -/

lemma compile_eq_enumeration {raw : String} {spellings : List String}
    (h : compile raw = .enumeration spellings) :
    ∃ word, spellings = Optline.spellings word := by
  unfold compile read at h
  dsimp only at h
  split at h
  · simp at h
  · split_ifs at h
  · unfold ofWords at h
    split at h
    next word _ =>
      split_ifs at h
      exact ⟨word, (Constraint.enumeration.inj h).symm⟩
    · simp at h

/-- No constraint accepts every run of words that are no flags: what passes without any word fails
with an empty or an arbitrary one. -/
theorem exists_refused_run (raw : String) :
    ∃ run : List String, (∀ word ∈ run, word.toList.head? ≠ some '-')
      ∧ (compile raw).accepts run = false := by
  cases hnil : (compile raw).accepts [] with
  | false => exact ⟨[], by simp, hnil⟩
  | true =>
      rcases accepts_nil_iff.mp hnil with hc | hc | ⟨spellings, hc⟩ | hc
      · exact ⟨["x"], by decide, by rw [hc]; rfl⟩
      · refine ⟨["x"], by decide, ?_⟩
        rw [hc]
        decide +kernel
      · obtain ⟨word, rfl⟩ := compile_eq_enumeration hc
        refine ⟨[""], by decide, ?_⟩
        have hempty : "" ∉ Optline.spellings word := Text.empty_not_mem_fields _ word
        simp [hc, accepts, hempty]
      · exact absurd hc (compile_ne_sequence_nil raw)

end Optline.Constraint
