import Optline.Proofs.Access

/-!
# Options in another order

Validation judges each segment of an invocation by itself, and an accessor reads the first segment of
its flag and stops at the flag behind it.  So neither notices that segments change places, as long as
those of one flag keep their order, nor which data stands in front of them, if only there is enough.

* `Reordered` — segments in another order that keeps the order of those with the same flag.
* `run?`, **`lookup_eq_run?`** — the data behind the first occurrence of a flag is the run of the
  first segment with it.
* `ReadAlike`, `readAlike_of_run?` — what accessors return depends on this run alone, if it is not
  empty.
* **`option_order_irrelevant`** — invocations whose segments are reordered are accepted together and
  read alike.

An empty run is where an accessor looks beyond its segment: it takes the flag behind it for the value,
or finds that there is nothing.
-/

namespace Optline

namespace Invocation

/-! ## Segments that change places -/

/-- Segments in another order in which those of each flag follow one another as before. -/
structure Reordered (segs segs' : List (String × List String)) : Prop where
  perm : segs.Perm segs'
  kept : ∀ flag, segs.filter (·.1 == flag) = segs'.filter (·.1 == flag)

lemma lookup_eq_head?_filter (segs : List (String × List String)) (flag : String) :
    segs.lookup flag = (segs.filter (·.1 == flag)).head?.map (·.2) := by
  induction segs with
  | nil => rfl
  | cons seg segs ih =>
      rw [List.lookup_cons, List.filter_cons, BEq.comm]
      cases hflag : seg.1 == flag with
      | true => simp
      | false => simpa using ih

lemma Reordered.lookup_eq {segs segs' : List (String × List String)} (h : Reordered segs segs')
    (flag : String) : segs.lookup flag = segs'.lookup flag := by
  rw [lookup_eq_head?_filter, lookup_eq_head?_filter, h.kept flag]

/-! ## The segment of a flag -/

/-- The data behind the first occurrence of a flag. -/
def run? (tokens : List String) (flag : String) : Option (List String) :=
  (after? tokens flag).map (·.takeWhile (!isFlagLike ·))

section

variable {tokens lead : List String} {segs : List (String × List String)} {flag : String}

/-- **The data behind the first occurrence of a flag** is the run of the first segment with it. -/
theorem lookup_eq_run? (hcut : Segmented (arguments tokens) lead segs)
    (hf : isFlagLike flag = true) : segs.lookup flag = run? tokens flag := by
  cases hlookup : segs.lookup flag with
  | none =>
      rw [List.lookup_eq_none_iff] at hlookup
      have habsent : ¬ isUsed tokens flag = true := by
        rw [isUsed_iff, hcut.flag_mem_iff hf]
        rintro ⟨seg, hseg, rfl⟩
        simpa using hlookup seg hseg
      rw [isUsed_iff_after?, ← Option.isSome_iff_exists, Option.not_isSome_iff_eq_none] at habsent
      rw [run?, habsent, Option.map_none]
  | some run =>
      obtain ⟨before, behind, rfl, hbefore⟩ := List.lookup_eq_some_iff.mp hlookup
      obtain ⟨rest, hargs, hrun⟩ := hcut.run_maximal
      -- In front of this segment there are other flags and data only.
      have hfirst : flag ∉ joined lead before := by
        have hfront : Segmented (arguments ("" :: joined lead before)) lead before :=
          ⟨rfl, hcut.lead_data, fun seg hseg => hcut.head_flag seg (by simp [hseg]),
            fun seg hseg => hcut.run_data seg (by simp [hseg])⟩
        intro hmem
        obtain ⟨seg, hseg, rfl⟩ := (hfront.flag_mem_iff hf).mp hmem
        simpa using hbefore seg hseg
      rw [run?, after?_of_first hargs hfirst, hrun, Option.map_some]

end

/-! ## What accessors see -/

/-- All accessors return the same for a flag. -/
structure ReadAlike (tokens tokens' : List String) (flag : String) : Prop where
  used : isUsed tokens flag = isUsed tokens' flag
  bool : getBool tokens flag = getBool tokens' flag
  int : getInt tokens flag = getInt tokens' flag
  double : getDouble tokens flag = getDouble tokens' flag
  float : getFloat tokens flag = getFloat tokens' flag
  string : getString tokens flag = getString tokens' flag

section

variable {tokens tokens' : List String} {flag : String}

lemma exists_after?_of_run? {token : String} {run : List String}
    (h : run? tokens flag = some (token :: run)) :
    ∃ rest, after? tokens flag = some (token :: rest)
      ∧ (token :: rest).takeWhile (!isFlagLike ·) = token :: run := by
  obtain ⟨behind, hafter, hrun⟩ := Option.map_eq_some_iff.mp h
  obtain ⟨rest, hrest⟩ := List.takeWhile_prefix (l := behind) (!isFlagLike ·)
  rw [hrun, List.cons_append] at hrest
  rw [← hrest] at hafter hrun
  exact ⟨run ++ rest, hafter, hrun⟩

/-- An accessor that reads one token reads the first one of the run. -/
lemma getValue_congr {α : Type} (wanted : Wanted) (read? : String → Option α)
    (h : run? tokens flag = run? tokens' flag) (hne : run? tokens flag ≠ some []) :
    getValue wanted read? tokens flag = getValue wanted read? tokens' flag := by
  rcases hrun : run? tokens flag with _ | _ | ⟨token, run⟩
  · rw [hrun] at h
    simp only [getValue, Option.map_eq_none_iff.mp hrun, Option.map_eq_none_iff.mp h.symm]
  · exact absurd hrun hne
  · rw [hrun] at h
    obtain ⟨rest, hafter, -⟩ := exists_after?_of_run? hrun
    obtain ⟨rest', hafter', -⟩ := exists_after?_of_run? h.symm
    simp only [getValue, hafter, hafter']

/-- The text of an option ends where its run does, if not before. -/
lemma getString_congr (h : run? tokens flag = run? tokens' flag)
    (hne : run? tokens flag ≠ some []) : getString tokens flag = getString tokens' flag := by
  rcases hrun : run? tokens flag with _ | _ | ⟨token, run⟩
  · rw [hrun] at h
    simp only [getString, Option.map_eq_none_iff.mp hrun, Option.map_eq_none_iff.mp h.symm]
  · exact absurd hrun hne
  · rw [hrun] at h
    obtain ⟨rest, hafter, hdata⟩ := exists_after?_of_run? hrun
    obtain ⟨rest', hafter', hdata'⟩ := exists_after?_of_run? h.symm
    rw [getString_of_after hafter, getString_of_after hafter', takeWhile_endsText,
      takeWhile_endsText, hdata, hdata']

/-- Accessors depend on the run of a flag alone, if it is not empty. -/
theorem readAlike_of_run? (h : run? tokens flag = run? tokens' flag)
    (hne : run? tokens flag ≠ some []) : ReadAlike tokens tokens' flag where
  used := by
    have hused : ∀ ts, isUsed ts flag = (run? ts flag).isSome := fun ts => by
      rw [run?, Option.isSome_map, after?, Option.isSome_map, isUsed]
    rw [hused, hused, h]
  bool := getValue_congr _ _ h hne
  int := getValue_congr _ _ h hne
  double := getValue_congr _ _ h hne
  float := getValue_congr _ _ h hne
  string := getString_congr h hne

end

end Invocation

open Invocation

/-- **The order of options does not matter.**  Take two invocations whose segments are the same up to
an order that keeps the segments of each flag in sequence, with any data in front of them as long as
there is enough in both.  Then validation accepts both or neither; and for each flag that is absent or
has data behind its first occurrence all accessors return the same. -/
theorem option_order_irrelevant {spec : CommandSpec} {tokens tokens' lead lead' : List String}
    {segs segs' : List (String × List String)} (hcut : Segmented (arguments tokens) lead segs)
    (hcut' : Segmented (arguments tokens') lead' segs') (horder : Reordered segs segs')
    (henough : spec.required ≤ (data (arguments tokens)).length)
    (henough' : spec.required ≤ (data (arguments tokens')).length) :
    (validate spec tokens = .ok ↔ validate spec tokens' = .ok)
      ∧ ∀ flag, isFlagLike flag = true → segs.lookup flag ≠ some [] →
        ReadAlike tokens tokens' flag := by
  constructor
  · rw [validate_eq_ok_iff hcut, validate_eq_ok_iff hcut', and_iff_right henough,
      and_iff_right henough']
    exact ⟨fun h seg hseg => h seg (horder.perm.mem_iff.mpr hseg),
      fun h seg hseg => h seg (horder.perm.mem_iff.mp hseg)⟩
  · intro flag hf hne
    have hrun : run? tokens flag = run? tokens' flag := by
      rw [← lookup_eq_run? hcut hf, ← lookup_eq_run? hcut' hf, horder.lookup_eq]
    rw [lookup_eq_run? hcut hf] at hne
    exact readAlike_of_run? hrun hne

/-- Three options, two of them with the same flag, behind different data. -/
theorem option_order_irrelevant_repeated :
    let spec := CommandSpec.compile "cell" "<name> -n <int> -label <string>"
    let tokens := ["cell", "a", "-n", "5", "-label", "deep", "blue", "-n", "6"]
    let tokens' := ["cell", "b", "c", "-label", "deep", "blue", "-n", "5", "-n", "6"]
    let segs := [("-n", ["5"]), ("-label", ["deep", "blue"]), ("-n", ["6"])]
    let segs' := [("-label", ["deep", "blue"]), ("-n", ["5"]), ("-n", ["6"])]
    (Segmented (arguments tokens) ["a"] segs ∧ Segmented (arguments tokens') ["b", "c"] segs'
        ∧ Reordered segs segs' ∧ spec.required ≤ (data (arguments tokens)).length
        ∧ spec.required ≤ (data (arguments tokens')).length
        ∧ isFlagLike "-n" = true ∧ segs.lookup "-n" ≠ some [])
      ∧ (validate spec tokens = .ok ↔ validate spec tokens' = .ok)
      ∧ ReadAlike tokens tokens' "-n" := by
  intro spec tokens tokens' segs segs'
  have hcut : Segmented (arguments tokens) ["a"] segs := segments_eq_iff.mp (by decide +kernel)
  have hcut' : Segmented (arguments tokens') ["b", "c"] segs' :=
    segments_eq_iff.mp (by decide +kernel)
  have horder : Reordered segs segs' := by
    refine ⟨.swap _ _ _, fun flag => ?_⟩
    by_cases hn : "-n" = flag
    · subst hn
      rfl
    · by_cases hlabel : "-label" = flag <;> simp [segs, segs', hn, hlabel]
  have henough : spec.required ≤ (data (arguments tokens)).length := by decide +kernel
  have henough' : spec.required ≤ (data (arguments tokens')).length := by decide +kernel
  have hf : isFlagLike "-n" = true := by decide
  have hne : segs.lookup "-n" ≠ some [] := by decide
  obtain ⟨hok, hread⟩ := option_order_irrelevant hcut hcut' horder henough henough'
  exact ⟨⟨hcut, hcut', horder, henough, henough', hf, hne⟩, hok, hread "-n" hf hne⟩

/-- With no data behind a flag it matters which flag comes next, and whether one does. -/
example :
    getString ["cell", "-a", "-b"] "-a" = .ok ""
      ∧ getString ["cell", "-b", "-a"] "-a" = .error (.missingValue "-a" .string) :=
  ⟨rfl, rfl⟩

end Optline
