import Optline.Proofs.SpecTokens

/-!
# What the tokens of a specification keep of its text

A specification text is cut at the blanks outside braces, and nothing else of it is lost.  This file
says where each character of the text goes: in which token it stands, and together with which others.

* `InOnePiece`, `inOnePiece_pieces_iff` — two characters stand in one piece if there is no separator
  between them, for any automaton that cuts texts.
* `IsGap`, `InOneToken` — blanks outside braces, and characters that stand in one token.
* **`le_depth_iff`** — how many braces are open is the most that any tail of the text opens beyond
  those that it closes.
* **`splitSpec_lossless`** — the tokens of a text are its characters without the gaps, cut where a gap
  was; and they are the tokens of their own joined text.
-/

namespace Optline

open Text

namespace Text

/-! ## Characters in one piece -/

/-- Whether the characters at two positions of the joined pieces stand in one piece. -/
def InOnePiece (ps : List (List Char)) (i j : Nat) : Prop :=
  ∃ front p back, ps = front ++ p :: back ∧ front.flatten.length ≤ i
    ∧ j < front.flatten.length + p.length

/-- Characters on both sides of a place where a piece ends stand in different pieces. -/
lemma not_inOnePiece_append {ps qs : List (List Char)} {i j : Nat} (hi : i < ps.flatten.length)
    (hj : ps.flatten.length ≤ j) : ¬ InOnePiece (ps ++ qs) i j := by
  rintro ⟨front, p, back, hwhole, hfront, hback⟩
  rcases List.append_eq_append_iff.mp hwhole with ⟨more, rfl, -⟩ | ⟨more, rfl, hmore⟩
  · rw [List.flatten_append, List.length_append] at hfront
    omega
  · cases more with
    | nil =>
        rw [List.append_nil] at hi
        omega
    | cons q more =>
        obtain ⟨rfl, -⟩ := List.cons.inj hmore
        rw [List.flatten_append, List.flatten_cons, List.length_append, List.length_append] at hj
        omega

namespace Cutter

variable {σ : Type} {m : Cutter σ} {s : σ}

lemma flatten_filter_pieces (cs : List Char) :
    ((m.pieces s cs).filter (!·.isEmpty)).flatten = m.kept s cs := by
  rw [List.flatten_filter_not_isEmpty, flatten_pieces]

/-- A text without separators stands in one piece, whatever is around it: the piece that is not yet
done in front of it goes on through it. -/
lemma inOnePiece_of_crosses {front between back : List Char} {t : σ} (hne : between ≠ [])
    (h : m.Crosses (m.after s front) between t) {j : Nat}
    (hj : j < (m.kept s front).length + between.length) :
    InOnePiece ((m.pieces s (front ++ (between ++ back))).filter (!·.isEmpty))
      (m.kept s front).length j := by
  obtain ⟨done, u, last, hend⟩ := exists_endsIn m s front
  obtain ⟨p, ps, hpieces⟩ := List.exists_cons_of_ne_nil (pieces_ne_nil m t back)
  have hkept : m.kept s front = done.flatten ++ last := by
    rw [← flatten_pieces, hend.pieces_eq, List.flatten_append, List.flatten_singleton]
  have hwhole : m.pieces s (front ++ (between ++ back))
      = done ++ (last ++ (between ++ p)) :: ps := by
    rw [hend.pieces_append, h.pieces_append, hpieces]
    rfl
  rw [hkept, List.length_append] at hj
  refine ⟨done.filter (!·.isEmpty), last ++ (between ++ p), ps.filter (!·.isEmpty), ?_, ?_, ?_⟩
  · rw [hwhole, List.filter_append, List.filter_cons_of_pos (by simp [hne])]
  · rw [List.flatten_filter_not_isEmpty, hkept, List.length_append]
    omega
  · rw [List.flatten_filter_not_isEmpty, List.length_append, List.length_append]
    omega

/-- **Two characters that are kept** stand in one piece exactly if no separator is between them. -/
theorem inOnePiece_pieces_iff {front mid rest : List Char} {c d : Char}
    (hc : m.cuts (m.after s front) c = false)
    (hd : m.cuts (m.after s (front ++ c :: mid)) d = false) :
    InOnePiece ((m.pieces s (front ++ c :: mid ++ d :: rest)).filter (!·.isEmpty))
        (m.kept s front).length (m.kept s (front ++ c :: mid)).length
      ↔ ∀ before b behind, mid = before ++ b :: behind →
          m.cuts (m.after s (front ++ c :: before)) b = false := by
  constructor
  · -- A separator cuts the text, and the two characters are on either side of it.
    intro h before b behind hmid
    by_contra hcut
    have hgap : m.cuts (m.after s (front ++ c :: before)) b = true := by simpa using hcut
    have hwhole : front ++ c :: mid ++ d :: rest
        = front ++ c :: before ++ b :: (behind ++ d :: rest) := by
      simp [hmid]
    rw [hwhole, pieces_append_cut hgap, List.filter_append] at h
    refine not_inOnePiece_append ?_ ?_ h
    · rw [flatten_filter_pieces, kept_append, kept_cons_keep hc, List.length_append,
        List.length_cons]
      omega
    · rw [flatten_filter_pieces, hmid, ← List.cons_append, ← List.append_assoc,
        kept_append s (front ++ c :: before), List.length_append]
      omega
  · intro h
    rw [Cutter.after_append, Cutter.after_cons] at hd
    have hmid : m.Crosses (m.next (m.after s front) c) mid
        (m.after (m.next (m.after s front) c) mid) := by
      refine crosses_of_forall fun before b behind hsplit => ?_
      rw [← Cutter.after_cons, ← Cutter.after_append]
      exact h before b behind hsplit
    have hbetween := Crosses.cons hc (hmid.append (.cons hd (.nil _)))
    have hkept : m.kept s (front ++ c :: mid) = m.kept s front ++ c :: mid := by
      rw [kept_append, kept_cons_keep hc, hmid.kept_eq]
    have hwhole : front ++ c :: mid ++ d :: rest = front ++ (c :: (mid ++ [d]) ++ rest) := by simp
    rw [hwhole, hkept]
    refine inOnePiece_of_crosses (by simp) hbetween ?_
    simp

end Cutter

end Text

/-! ## The tokens of a text -/

/-- A blank with a text before it that leaves no brace open. -/
def IsGap (front : List Char) (c : Char) : Prop :=
  braceCutter.after 0 front = 0 ∧ isBlank c = true

/-- Whether the characters at two positions of the joined tokens stand in one token. -/
def InOneToken (tokens : List String) (i j : Nat) : Prop :=
  InOnePiece (tokens.map String.toList) i j

lemma not_isGap_iff {front : List Char} {c : Char} :
    ¬ IsGap front c ↔ braceCutter.cuts (braceCutter.after 0 front) c = false := by
  rw [IsGap, ← braceCutter_cuts_iff, Bool.not_eq_true]

lemma exists_tail_concat_iff {cs : List Char} {c : Char} {n : Nat} :
    (∃ tail, tail <:+ cs ++ [c] ∧ tail.count '}' + (n + 1) ≤ tail.count '{')
      ↔ ∃ tail, tail <:+ cs
          ∧ (tail ++ [c]).count '}' + (n + 1) ≤ (tail ++ [c]).count '{' := by
  constructor
  · rintro ⟨tail, hsuffix, hcount⟩
    rcases List.suffix_concat_iff.mp hsuffix with rfl | ⟨front, rfl, hfront⟩
    · simp at hcount
    · exact ⟨front, hfront, hcount⟩
  · rintro ⟨tail, hsuffix, hcount⟩
    exact ⟨tail ++ [c], List.suffix_concat_iff.mpr (Or.inr ⟨tail, rfl, hsuffix⟩), hcount⟩

/-- **How many braces are open** is the most that a tail of the text opens beyond those that it
closes: the count begins anew where a brace is closed that none has opened.  The induction is on the
end of the text, and a last brace changes the number that the tail in front of it has to reach. -/
theorem le_depth_iff {cs : List Char} {n : Nat} :
    n ≤ braceCutter.after 0 cs
      ↔ ∃ tail, tail <:+ cs ∧ tail.count '}' + n ≤ tail.count '{' := by
  induction cs using List.reverseRecOn generalizing n with
  | nil => simp [Cutter.after_nil]
  | append_singleton cs c ih =>
      cases n with
      | zero => exact iff_of_true (Nat.zero_le _) ⟨[], List.nil_suffix, Nat.le_refl 0⟩
      | succ n =>
          have hafter : braceCutter.after 0 (cs ++ [c]) = braceDepth (braceCutter.after 0 cs) c :=
            Cutter.after_append _ _ _ _
          rw [hafter, exists_tail_concat_iff, braceDepth]
          by_cases hopening : c = '{'
          · subst hopening
            rw [if_pos rfl, Nat.add_le_add_iff_right, ih]
            simp [← Nat.add_assoc]
          · by_cases hclosing : c = '}'
            · subst hclosing
              have hpred : n + 1 ≤ braceCutter.after 0 cs - 1 ↔ n + 2 ≤ braceCutter.after 0 cs := by
                omega
              rw [if_neg hopening, if_pos rfl, hpred, ih]
              simp [Nat.add_comm, Nat.add_left_comm]
            · rw [if_neg hopening, if_neg hclosing, ih]
              simp [hopening, hclosing]

lemma openBraces_unwords_splitSpec (text : String) :
    openBraces (unwords (splitSpec text)) = openBraces text := by
  by_cases h : splitSpec text = []
  · rw [h, openBraces_of_splitSpec_nil h]
    rfl
  · rw [openBraces, unwords, String.toList_intercalate]
    exact (chain_splitSpec h).after_intercalate cutsAtStart_braceCutter (c := ' ') (by decide)

/-- **The tokens of a text** are its characters without the gaps, in their order and cut where a gap
was; no token is empty.  An open brace at the end is noticed, which is the case if some tail of the
text opens more braces than it closes.  And the joined tokens are a text with the same tokens and
as many open braces. -/
theorem splitSpec_lossless (text : String) :
    ((splitSpec text).map String.toList).flatten = braceCutter.kept 0 text.toList
      ∧ (∀ front c mid d rest, text.toList = front ++ c :: mid ++ d :: rest →
          ¬ IsGap front c → ¬ IsGap (front ++ c :: mid) d →
          (InOneToken (splitSpec text) (braceCutter.kept 0 front).length
              (braceCutter.kept 0 (front ++ c :: mid)).length
            ↔ ∀ before b behind, mid = before ++ b :: behind → ¬ IsGap (front ++ c :: before) b))
      ∧ (∀ token ∈ splitSpec text, token ≠ "")
      ∧ (.openSpec text ∈ openNotices text ↔ 0 < openBraces text)
      ∧ (0 < openBraces text ↔ ∃ tail, tail <:+ text.toList ∧ tail.count '}' < tail.count '{')
      ∧ splitSpec (unwords (splitSpec text)) = splitSpec text
      ∧ openBraces (unwords (splitSpec text)) = openBraces text := by
  have hspaced := spaced_splitSpec text
  refine ⟨?_, ?_, hspaced.ne_empty, ?_, le_depth_iff, splitSpec_unwords hspaced,
    openBraces_unwords_splitSpec text⟩
  · rw [map_toList_splitSpec, Cutter.flatten_filter_pieces]
  · intro front c mid d rest htext hc hd
    rw [not_isGap_iff] at hc hd
    rw [InOneToken, map_toList_splitSpec, htext, Cutter.inOnePiece_pieces_iff hc hd]
    simp only [not_isGap_iff]
  · rw [openNotices]
    split_ifs with h <;> simp [h]

/-- A group is one token, blanks and all; a closing brace that nothing opened hides no blank. -/
example : splitSpec "\x7d -o \x7ba  b\x7d\tc" = ["\x7d", "-o", "\x7ba  b\x7d", "c"] := by
  decide +kernel

end Optline
