import Mathlib.Data.List.Basic
import Mathlib.Tactic.Lemma
import Optline.Text.Cut

/-!
# Cutting a text that is put together

What an automaton cuts out of `cs ++ ds` is decided in two scans: one of `cs`, and one of `ds` from
the state in which the first one ends.  Only one piece feels the joint.  The last piece of `cs` goes
on with the first piece of `ds`, unless `ds` begins with a separator.

* `EndsIn`, `exists_endsIn` — the piece in which a scan ends, and what becomes of it in every text
  that goes on.
* **`pieces_append_cut`** — a separator at the joint keeps the pieces of both sides as they are.
* `kept`, **`flatten_pieces`** — the pieces of a text are all its characters but the separators.
* `Crosses` — a text that a scan finds no separator in.
* `CutsAtStart`, `Chain` — automata that cut only where they start, and the texts that separators
  keep apart for them: what a scan from the start cuts out is such a chain (**`chain_pieces`**), and
  **`Chain.pieces_intercalate`** says that separators between its members cut it out again.
-/

namespace Optline.Text.Cutter

variable {σ : Type} {m : Cutter σ}

lemma pieces_cons_cut {s : σ} {c : Char} (h : m.cuts s c = true) (cs : List Char) :
    m.pieces s (c :: cs) = [] :: m.pieces (m.next s c) cs := by
  rw [pieces, if_pos h]

lemma pieces_cons_keep {s : σ} {c : Char} (h : m.cuts s c = false) (cs : List Char) :
    m.pieces s (c :: cs) = (m.pieces (m.next s c) cs).modifyHead (c :: ·) := by
  rw [pieces, if_neg (by simp [h])]

/-- How a scan of `cs` from `s` ends: with `done` behind it and in the midst of the piece `last`,
which it began in the state `t`. -/
structure EndsIn (m : Cutter σ) (s : σ) (cs : List Char) (done : List (List Char)) (t : σ)
    (last : List Char) : Prop where
  pieces_eq : m.pieces s cs = done ++ [last]
  /-- The last piece is the one that goes on when the text does. -/
  pieces_append : ∀ ds, m.pieces s (cs ++ ds)
    = done ++ (m.pieces (m.after s cs) ds).modifyHead (last ++ ·)
  /-- The last piece alone leads to the final state. -/
  after_eq : m.after t last = m.after s cs
  /-- A piece begins where the text does or behind a separator. -/
  start : (done = [] ∧ t = s) ∨ (done ≠ [] ∧ ∃ u c, m.cuts u c = true ∧ t = m.next u c)

/-- Every scan ends in some piece.  The induction is on the text; a character that is kept goes to
the head of the first piece, which is the last one as long as nothing has been cut. -/
theorem exists_endsIn (m : Cutter σ) (s : σ) (cs : List Char) :
    ∃ done t last, EndsIn m s cs done t last := by
  induction cs generalizing s with
  | nil =>
      refine ⟨[], s, [], rfl, fun ds => ?_, rfl, Or.inl ⟨rfl, rfl⟩⟩
      cases h : m.pieces s ds with
      | nil => exact absurd h (pieces_ne_nil m s ds)
      | cons p ps => simp [h]
  | cons c cs ih =>
      obtain ⟨done, t, last, hpieces, happend, hafter, hstart⟩ := ih (m.next s c)
      cases hcut : m.cuts s c with
      | true =>
          refine ⟨[] :: done, t, last, ?_, fun ds => ?_, hafter, ?_⟩
          · rw [pieces_cons_cut hcut, hpieces]
            rfl
          · rw [List.cons_append, pieces_cons_cut hcut, happend ds]
            rfl
          · refine Or.inr ⟨by simp, ?_⟩
            rcases hstart with ⟨-, rfl⟩ | ⟨-, hstart⟩
            · exact ⟨s, c, hcut, rfl⟩
            · exact hstart
      | false =>
          cases done with
          | nil =>
              obtain rfl : t = m.next s c := by
                rcases hstart with ⟨-, ht⟩ | ⟨hne, -⟩
                · exact ht
                · exact absurd rfl hne
              refine ⟨[], s, c :: last, ?_, fun ds => ?_, hafter, Or.inl ⟨rfl, rfl⟩⟩
              · rw [pieces_cons_keep hcut, hpieces]
                rfl
              · rw [List.cons_append, pieces_cons_keep hcut, happend ds]
                simp [List.modifyHead_modifyHead, Function.comp_def]
          | cons p ps =>
              refine ⟨(c :: p) :: ps, t, last, ?_, fun ds => ?_, hafter, ?_⟩
              · rw [pieces_cons_keep hcut, hpieces]
                rfl
              · rw [List.cons_append, pieces_cons_keep hcut, happend ds]
                rfl
              · obtain ⟨hnil, -⟩ | ⟨-, hstart⟩ := hstart
                · exact absurd hnil (by simp)
                · exact Or.inr ⟨by simp, hstart⟩

/-- **A separator at the joint** keeps the pieces of both sides as they are. -/
theorem pieces_append_cut {s : σ} {cs : List Char} {c : Char}
    (h : m.cuts (m.after s cs) c = true) (ds : List Char) :
    m.pieces s (cs ++ c :: ds) = m.pieces s cs ++ m.pieces (m.next (m.after s cs) c) ds := by
  obtain ⟨done, t, last, hend⟩ := exists_endsIn m s cs
  rw [hend.pieces_append, hend.pieces_eq, pieces_cons_cut h]
  simp

/-! ## What is kept of a text -/

/-- The characters of a text that are no separators. -/
def kept (m : Cutter σ) (s : σ) : List Char → List Char
  | [] => []
  | c :: cs => if m.cuts s c then kept m (m.next s c) cs else c :: kept m (m.next s c) cs

lemma kept_cons_cut {s : σ} {c : Char} (h : m.cuts s c = true) (cs : List Char) :
    m.kept s (c :: cs) = m.kept (m.next s c) cs := by
  rw [kept, if_pos h]

lemma kept_cons_keep {s : σ} {c : Char} (h : m.cuts s c = false) (cs : List Char) :
    m.kept s (c :: cs) = c :: m.kept (m.next s c) cs := by
  rw [kept, if_neg (by simp [h])]

lemma kept_append (s : σ) (cs ds : List Char) :
    m.kept s (cs ++ ds) = m.kept s cs ++ m.kept (m.after s cs) ds := by
  induction cs generalizing s with
  | nil => rfl
  | cons c cs ih =>
      rw [List.cons_append, after_cons]
      cases hcut : m.cuts s c with
      | true => rw [kept_cons_cut hcut, kept_cons_cut hcut, ih]
      | false => rw [kept_cons_keep hcut, kept_cons_keep hcut, ih, List.cons_append]

lemma kept_sublist (m : Cutter σ) (s : σ) (cs : List Char) : (m.kept s cs).Sublist cs := by
  induction cs generalizing s with
  | nil => exact List.Sublist.refl _
  | cons c cs ih =>
      cases hcut : m.cuts s c with
      | true =>
          rw [kept_cons_cut hcut]
          exact (ih _).cons c
      | false =>
          rw [kept_cons_keep hcut]
          exact (ih _).cons_cons c

/-- **The pieces of a text** are what is kept of it, in its order. -/
theorem flatten_pieces (m : Cutter σ) (s : σ) (cs : List Char) :
    (m.pieces s cs).flatten = m.kept s cs := by
  induction cs generalizing s with
  | nil => rfl
  | cons c cs ih =>
      have hrest := ih (m.next s c)
      cases hcut : m.cuts s c with
      | true => rw [pieces_cons_cut hcut, kept_cons_cut hcut, List.flatten_cons, hrest, List.nil_append]
      | false =>
          obtain ⟨p, ps, hpieces⟩ := List.exists_cons_of_ne_nil (pieces_ne_nil m (m.next s c) cs)
          rw [hpieces] at hrest
          rw [pieces_cons_keep hcut, kept_cons_keep hcut, hpieces, ← hrest]
          rfl

/-! ## Texts that are one piece -/

/-- A text without separators is one piece. -/
lemma pieces_eq_singleton {s : σ} {c : Char} (h : m.cuts s c = false) {cs : List Char}
    (hcs : m.pieces (m.next s c) cs = [cs]) : m.pieces s (c :: cs) = [c :: cs] := by
  rw [pieces_cons_keep h, hcs]
  rfl

/-- A scan from `s` to `t` finds no separator in the text. -/
structure Crosses (m : Cutter σ) (s : σ) (cs : List Char) (t : σ) : Prop where
  whole : m.pieces s cs = [cs]
  after_eq : m.after s cs = t

lemma Crosses.nil (s : σ) : m.Crosses s [] s :=
  ⟨rfl, rfl⟩

lemma Crosses.cons {s t : σ} {c : Char} {cs : List Char} (h : m.cuts s c = false)
    (hcs : m.Crosses (m.next s c) cs t) : m.Crosses s (c :: cs) t :=
  ⟨pieces_eq_singleton h hcs.whole, by rw [after_cons, hcs.after_eq]⟩

/-- A text without separators goes on in the first piece of what stands behind it. -/
lemma Crosses.pieces_append {s t : σ} {cs : List Char} (h : m.Crosses s cs t) (ds : List Char) :
    m.pieces s (cs ++ ds) = (m.pieces t ds).modifyHead (cs ++ ·) := by
  obtain ⟨done, v, last, hend⟩ := exists_endsIn m s cs
  have hpieces := hend.pieces_eq
  rw [h.whole, List.singleton_eq_append_iff] at hpieces
  obtain ⟨rfl, hlast⟩ | ⟨-, hnil⟩ := hpieces
  · rw [hend.pieces_append, h.after_eq, (List.cons.inj hlast).1, List.nil_append]
  · exact absurd hnil (by simp)

lemma Crosses.append {s t u : σ} {cs ds : List Char} (hcs : m.Crosses s cs t)
    (hds : m.Crosses t ds u) : m.Crosses s (cs ++ ds) u :=
  ⟨by rw [hcs.pieces_append, hds.whole]; rfl, by rw [after_append, hcs.after_eq, hds.after_eq]⟩

lemma Crosses.kept_eq {s t : σ} {cs : List Char} (h : m.Crosses s cs t) : m.kept s cs = cs := by
  rw [← flatten_pieces, h.whole, List.flatten_singleton]

/-- There is no separator in a text if no character of it is one where it stands. -/
lemma crosses_of_forall {s : σ} {cs : List Char}
    (h : ∀ front c back, cs = front ++ c :: back → m.cuts (m.after s front) c = false) :
    m.Crosses s cs (m.after s cs) := by
  induction cs generalizing s with
  | nil => exact .nil s
  | cons c cs ih =>
      refine .cons (h [] c cs rfl) (ih fun front d back hcs => ?_)
      exact h (c :: front) d back (by rw [hcs, List.cons_append])

/-! ## Automata that cut where they start -/

/-- An automaton that cuts only in the state in which it starts, and is there again behind the
separator. -/
structure CutsAtStart (m : Cutter σ) : Prop where
  state_eq : ∀ {s c}, m.cuts s c = true → s = m.start
  next_eq : ∀ {s c}, m.cuts s c = true → m.next s c = m.start

/-- Texts without separators, all of them scanned from the start; every one but the last leads back
there, and the last one to `t`. -/
inductive Chain (m : Cutter σ) (t : σ) : List (List Char) → Prop
  | last {p : List Char} (h : m.Crosses m.start p t) : Chain m t [p]
  | cons {p : List Char} {ps : List (List Char)} (h : m.Crosses m.start p m.start)
      (hrest : Chain m t ps) : Chain m t (p :: ps)

lemma chain_of_first_piece {t : σ} {cs : List Char}
    (h : m.Crosses m.start cs t
      ∨ ∃ p ps, m.pieces m.start cs = p :: ps ∧ m.Crosses m.start p m.start ∧ m.Chain t ps) :
    m.Chain t (m.pieces m.start cs) := by
  rcases h with hwhole | ⟨p, ps, hpieces, hp, hps⟩
  · rw [hwhole.whole]
    exact .last hwhole
  · rw [hpieces]
    exact .cons hp hps

/-- The first piece of a scan from anywhere ends where the scan does, or else at a separator with a
chain behind it.  Only this piece depends on where the scan begins. -/
lemma exists_first_piece (hm : m.CutsAtStart) (s : σ) (cs : List Char) :
    m.Crosses s cs (m.after s cs)
      ∨ ∃ p ps, m.pieces s cs = p :: ps ∧ m.Crosses s p m.start ∧ m.Chain (m.after s cs) ps := by
  induction cs generalizing s with
  | nil => exact Or.inl (.nil s)
  | cons c cs ih =>
      cases hcut : m.cuts s c with
      | true =>
          refine Or.inr ⟨[], m.pieces m.start cs, ?_, ?_, ?_⟩
          · rw [pieces_cons_cut hcut, hm.next_eq hcut]
          · rw [hm.state_eq hcut]
            exact .nil _
          · rw [after_cons, hm.next_eq hcut]
            exact chain_of_first_piece (ih m.start)
      | false =>
          rcases ih (m.next s c) with hwhole | ⟨p, ps, hpieces, hp, hps⟩
          · exact Or.inl (.cons hcut hwhole)
          · refine Or.inr ⟨c :: p, ps, ?_, .cons hcut hp, hps⟩
            rw [pieces_cons_keep hcut, hpieces]
            rfl

/-- **The pieces of a text** are a chain that ends where the scan of the text does. -/
theorem chain_pieces (hm : m.CutsAtStart) (cs : List Char) :
    m.Chain (m.after m.start cs) (m.pieces m.start cs) :=
  chain_of_first_piece (exists_first_piece hm m.start cs)

namespace Chain

variable {t : σ} {ps : List (List Char)}

lemma ne_nil (h : m.Chain t ps) : ps ≠ [] := by
  cases h <;> simp

lemma of_forall (hne : ps ≠ []) (h : ∀ p ∈ ps, m.Crosses m.start p m.start) :
    m.Chain m.start ps := by
  induction ps with
  | nil => exact absurd rfl hne
  | cons p ps ih =>
      have hp := h p List.mem_cons_self
      by_cases hps : ps = []
      · rw [hps]
        exact .last hp
      · exact .cons hp (ih hps fun q hq => h q (List.mem_cons_of_mem _ hq))

/-- A member of a chain leads back to the start, unless it is the last one. -/
lemma crosses {before after : List (List Char)} {p : List Char}
    (h : m.Chain t (before ++ p :: after)) :
    (after = [] ∧ m.Crosses m.start p t) ∨ (after ≠ [] ∧ m.Crosses m.start p m.start) := by
  induction before with
  | nil =>
      cases h with
      | last h => exact Or.inl ⟨rfl, h⟩
      | cons h hrest => exact Or.inr ⟨hrest.ne_nil, h⟩
  | cons q before ih =>
      generalize hqs : q :: before ++ p :: after = qs at h
      cases h with
      | last h => exact absurd hqs (by simp)
      | cons h hrest =>
          obtain ⟨-, rfl⟩ := List.cons.inj hqs
          exact ih hrest

/-- **Separators between the members of a chain** cut exactly them apart. -/
theorem pieces_intercalate (hm : m.CutsAtStart) {c : Char} (hc : m.cuts m.start c = true)
    (h : m.Chain t ps) : m.pieces m.start ([c].intercalate ps) = ps := by
  induction h with
  | last h => rw [List.intercalate_singleton, h.whole]
  | @cons p ps h hrest ih =>
      have hcut : m.cuts (m.after m.start p) c = true := by rwa [h.after_eq]
      obtain ⟨q, qs, rfl⟩ := List.exists_cons_of_ne_nil hrest.ne_nil
      rw [List.intercalate_cons_cons, List.append_assoc, List.singleton_append,
        pieces_append_cut hcut, hm.next_eq hcut, h.whole, ih]
      rfl

/-- A scan of the text that they make ends where the chain does. -/
lemma after_intercalate (hm : m.CutsAtStart) {c : Char} (hc : m.cuts m.start c = true)
    (h : m.Chain t ps) : m.after m.start ([c].intercalate ps) = t := by
  induction h with
  | last h => rw [List.intercalate_singleton, h.after_eq]
  | @cons p ps h hrest ih =>
      obtain ⟨q, qs, rfl⟩ := List.exists_cons_of_ne_nil hrest.ne_nil
      rw [List.intercalate_cons_cons, List.append_assoc, List.singleton_append, after_append,
        h.after_eq, after_cons, hm.next_eq hc, ih]

/-- A chain of members that all lead back to the start leads there itself. -/
lemma eq_start (h : m.Chain t ps) (hps : ∀ p ∈ ps, m.after m.start p = m.start) : t = m.start := by
  induction h with
  | last h => rw [← h.after_eq, hps _ List.mem_cons_self]
  | cons _ _ ih => exact ih fun p hp => hps p (List.mem_cons_of_mem _ hp)

/-- Members that lead back to the start may be left out, as long as one is kept. -/
theorem filter {keep : List Char → Bool}
    (hkeep : ∀ p, keep p = false → m.after m.start p = m.start) (h : m.Chain t ps)
    (hne : ps.filter keep ≠ []) : m.Chain t (ps.filter keep) := by
  induction h with
  | @last p h =>
      cases hp : keep p with
      | false => exact absurd (by simp [hp]) hne
      | true => simpa [hp] using .last h
  | @cons p ps h hrest ih =>
      cases hp : keep p with
      | false =>
          rw [List.filter_cons_of_neg (by simp [hp])] at hne ⊢
          exact ih hne
      | true =>
          rw [List.filter_cons_of_pos hp]
          by_cases hkept : ps.filter keep = []
          · -- Nothing behind this member is kept, so the chain ends where it does.
            have ht : t = m.start := hrest.eq_start fun q hq =>
              hkeep q (by simpa using List.filter_eq_nil_iff.mp hkept q hq)
            rw [hkept, ht]
            exact .last h
          · exact .cons h (ih hkept)

end Chain

/-- Pieces that are texts, all of them to be kept, are these texts. -/
lemma ofList_filter_toList {keep : List Char → Bool} {texts : List String}
    (h : ∀ text ∈ texts, keep text.toList = true) :
    ((texts.map String.toList).filter keep).map String.ofList = texts := by
  have hkeep : (texts.map String.toList).filter keep = texts.map String.toList := by
    simpa [List.filter_eq_self] using h
  rw [hkeep, List.map_map]
  simp [Function.comp_def]

end Optline.Text.Cutter
