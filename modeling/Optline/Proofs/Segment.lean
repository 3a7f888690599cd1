import Mathlib.Data.List.Basic
import Mathlib.Tactic.Lemma
import Optline.Validation

/-!
# The segments of an invocation

`Invocation.segments` cuts the arguments of an invocation at the tokens that look like flags.  This
file says what such a cut is without saying how it is found, and shows that there is exactly one.

* `Segmented` — leading data, then flags, each with the data after it, that make up the arguments.
* **`segments_eq_iff`** — the cut that `segments` finds is the only one there is.
* `Segmented.flag_mem_iff` — a flag among the arguments is the head of a segment.
* `Segmented.run_maximal` — the data of a segment goes as far as there is data.
* `segments_append_flag` — a flag starts a segment wherever it stands, so that the tokens after it
  can be looked at on their own.
-/

namespace Optline

lemma isFlagLike_iff {token : String} :
    isFlagLike token = true ↔ ∃ c cs, token.toList = '-' :: c :: cs ∧ c.isDigit = false := by
  unfold isFlagLike
  split
  next c cs htoken => simp [htoken]
  next hother =>
    constructor
    · intro h
      exact absurd h (by simp)
    · rintro ⟨c, cs, htoken, -⟩
      exact absurd htoken (hother c cs)

namespace Invocation

/-! ## What a segmentation is -/

/-- The tokens of leading data and of segments, in their order. -/
def joined (lead : List String) (segs : List (String × List String)) : List String :=
  lead ++ segs.flatMap fun seg => seg.1 :: seg.2

/-- Whether no token of a run looks like a flag. -/
def IsData (run : List String) : Prop :=
  ∀ token ∈ run, isFlagLike token = false

/-- Arguments as leading data and segments, each a flag with a run of data. -/
structure Segmented (args lead : List String) (segs : List (String × List String)) : Prop where
  /-- No token is lost, added or moved. -/
  whole : args = joined lead segs
  lead_data : IsData lead
  head_flag : ∀ seg ∈ segs, isFlagLike seg.1 = true
  run_data : ∀ seg ∈ segs, IsData seg.2

lemma joined_cons (lead : List String) (flag : String) (run : List String)
    (segs : List (String × List String)) :
    joined lead ((flag, run) :: segs) = lead ++ flag :: joined run segs := by
  simp [joined]

/-! ## One token at a time -/

lemma segments_cons_flag {flag : String} (hf : isFlagLike flag = true) (rest : List String) :
    segments (flag :: rest) = ([], (flag, (segments rest).1) :: (segments rest).2) := by
  simp [segments, hf]

lemma segments_cons_data {token : String} (ht : isFlagLike token = false) (rest : List String) :
    segments (token :: rest) = (token :: (segments rest).1, (segments rest).2) := by
  simp [segments, ht]

lemma segments_append_data {run : List String} (hr : IsData run) (rest : List String) :
    segments (run ++ rest) = (run ++ (segments rest).1, (segments rest).2) := by
  induction run with
  | nil => rfl
  | cons token run ih =>
      have ht : isFlagLike token = false := hr token (by simp)
      have hrun : IsData run := fun t h => hr t (by simp [h])
      rw [List.cons_append, segments_cons_data ht, ih hrun]
      rfl

/-- A flag starts a segment wherever it stands. -/
theorem segments_append_flag {flag : String} (hf : isFlagLike flag = true)
    (before rest : List String) :
    segments (before ++ flag :: rest)
      = ((segments before).1,
          (segments before).2 ++ (flag, (segments rest).1) :: (segments rest).2) := by
  induction before with
  | nil => rw [List.nil_append, segments_cons_flag hf]; rfl
  | cons token before ih =>
      rw [List.cons_append]
      cases ht : isFlagLike token with
      | true => rw [segments_cons_flag ht, segments_cons_flag ht, ih]; rfl
      | false => rw [segments_cons_data ht, segments_cons_data ht, ih]

/-- The data in front of the first flag. -/
theorem segments_fst (args : List String) :
    (segments args).1 = args.takeWhile (!isFlagLike ·) := by
  induction args with
  | nil => rfl
  | cons token rest ih =>
      cases ht : isFlagLike token with
      | true => rw [segments_cons_flag ht]; simp [ht]
      | false => rw [segments_cons_data ht]; simp [ht, ih]

/-! ## Existence and uniqueness -/

/-- What `segments` finds is a segmentation. -/
theorem segmented_segments (args : List String) :
    Segmented args (segments args).1 (segments args).2 := by
  induction args with
  | nil => exact ⟨rfl, by simp [segments, IsData], by simp [segments], by simp [segments]⟩
  | cons token rest ih =>
      obtain ⟨hwhole, hlead, hhead, hrun⟩ := ih
      cases ht : isFlagLike token with
      | true =>
          rw [segments_cons_flag ht]
          refine ⟨?_, by simp [IsData], ?_, ?_⟩
          · rw [joined_cons, List.nil_append, ← hwhole]
          · rintro seg (_ | ⟨_, hseg⟩)
            · exact ht
            · exact hhead seg hseg
          · rintro seg (_ | ⟨_, hseg⟩)
            · exact hlead
            · exact hrun seg hseg
      | false =>
          rw [segments_cons_data ht]
          refine ⟨?_, ?_, hhead, hrun⟩
          · rw [joined, List.cons_append, ← joined, ← hwhole]
          · rintro t (_ | ⟨_, ht'⟩)
            · exact ht
            · exact hlead t ht'

/-- Putting segments together and cutting again gives them back: the induction is on the segments,
each of which starts with a flag and so ends the run before it. -/
lemma segments_joined {lead : List String} {segs : List (String × List String)}
    (hlead : IsData lead) (hhead : ∀ seg ∈ segs, isFlagLike seg.1 = true)
    (hrun : ∀ seg ∈ segs, IsData seg.2) : segments (joined lead segs) = (lead, segs) := by
  induction segs generalizing lead with
  | nil => simpa [joined, segments] using segments_append_data hlead []
  | cons seg segs ih =>
      obtain ⟨flag, run⟩ := seg
      have hf : isFlagLike flag = true := hhead (flag, run) (by simp)
      have hr : IsData run := hrun (flag, run) (by simp)
      have htail := ih hr (fun s h => hhead s (by simp [h])) (fun s h => hrun s (by simp [h]))
      rw [joined_cons, segments_append_data hlead, segments_cons_flag hf, htail]
      simp

/-- **There is one segmentation, and `segments` finds it.** -/
theorem segments_eq_iff {args lead : List String} {segs : List (String × List String)} :
    segments args = (lead, segs) ↔ Segmented args lead segs := by
  constructor
  · intro h
    have hseg := segmented_segments args
    rwa [h] at hseg
  · rintro ⟨rfl, hlead, hhead, hrun⟩
    exact segments_joined hlead hhead hrun

/-- A flag among the arguments is the head of a segment. -/
lemma Segmented.flag_mem_iff {args lead : List String} {segs : List (String × List String)}
    (h : Segmented args lead segs) {flag : String} (hf : isFlagLike flag = true) :
    flag ∈ args ↔ ∃ seg ∈ segs, seg.1 = flag := by
  have hnot : ∀ run, IsData run → flag ∉ run := by
    intro run hrun hmem
    rw [hrun flag hmem] at hf
    exact absurd hf (by simp)
  rw [h.whole, joined, List.mem_append, List.mem_flatMap]
  constructor
  · rintro (hlead | ⟨seg, hseg, hmem⟩)
    · exact absurd hlead (hnot lead h.lead_data)
    · rcases List.mem_cons.mp hmem with heq | hrun
      · exact ⟨seg, hseg, heq.symm⟩
      · exact absurd hrun (hnot seg.2 (h.run_data seg hseg))
  · rintro ⟨seg, hseg, rfl⟩
    exact Or.inr ⟨seg, hseg, List.mem_cons_self⟩

/-- The data of a segment goes as far as there is data: what follows it is a flag or nothing. -/
theorem Segmented.run_maximal {args lead run : List String} {flag : String}
    {before after : List (String × List String)}
    (h : Segmented args lead (before ++ (flag, run) :: after)) :
    ∃ rest, args = joined lead before ++ flag :: rest
      ∧ run = rest.takeWhile (!isFlagLike ·) := by
  refine ⟨joined run after, ?_, ?_⟩
  · rw [h.whole]
    simp [joined]
  · have hafter : segments (joined run after) = (run, after) :=
      segments_joined (h.run_data (flag, run) (by simp))
        (fun s hs => h.head_flag s (by simp [hs])) (fun s hs => h.run_data s (by simp [hs]))
    rw [← segments_fst, hafter]

end Invocation

end Optline
