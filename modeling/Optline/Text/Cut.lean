/-!
# Cutting a text by an automaton

Several texts of this library are cut at separators that count only in some places: blanks outside
braces, semicolons outside quotes.  What "outside" means is a state that is carried from character
to character, so all of them are one construction with a different automaton.

* `Cutter` — a state, how a character changes it, and where a character is a separator.
* `Cutter.pieces` — the text between the separators, from a given state.
* `Cutter.after` — the state in which a scan of a text ends.

The pieces are always at least one; two neighbouring separators have an empty piece between them.
-/

namespace Optline.Text

/-- An automaton that cuts texts. -/
structure Cutter (σ : Type) where
  /-- The state before the first character. -/
  start : σ
  /-- The state after a character, separator or not. -/
  next : σ → Char → σ
  /-- Whether a character is a separator in a state. -/
  cuts : σ → Char → Bool

namespace Cutter

variable {σ : Type}

/-- The pieces between the separators of a text, scanned from the state `s`. -/
def pieces (m : Cutter σ) (s : σ) : List Char → List (List Char)
  | [] => [[]]
  | c :: cs =>
    if m.cuts s c then [] :: pieces m (m.next s c) cs
    else (pieces m (m.next s c) cs).modifyHead (c :: ·)

/-- The state in which a scan from the state `s` ends. -/
def after (m : Cutter σ) (s : σ) (cs : List Char) : σ :=
  cs.foldl m.next s

@[simp] theorem after_nil (m : Cutter σ) (s : σ) : m.after s [] = s := rfl

@[simp] theorem after_cons (m : Cutter σ) (s : σ) (c : Char) (cs : List Char) :
    m.after s (c :: cs) = m.after (m.next s c) cs := rfl

theorem after_append (m : Cutter σ) (s : σ) (cs ds : List Char) :
    m.after s (cs ++ ds) = m.after (m.after s cs) ds :=
  List.foldl_append

theorem pieces_ne_nil (m : Cutter σ) (s : σ) (cs : List Char) : m.pieces s cs ≠ [] := by
  induction cs generalizing s with
  | nil => simp [pieces]
  | cons c cs ih =>
    rw [pieces]
    split
    · simp
    · simpa [List.modifyHead_eq_nil_iff] using ih _

end Cutter

end Optline.Text
