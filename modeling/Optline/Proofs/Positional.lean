import Mathlib.Data.List.Nodup
import Optline.Proofs.Verdict

/-!
# What positional arguments are bound to

A positional argument is bound to the token at its position among all tokens behind the name.  What
validation counts is the data, wherever it stands, so an accepted invocation has a token for every
positional argument; but the count takes in the data behind flags, and where it makes up for what is
missing in front of them, a positional argument falls on a flag.

* `positional?_of_mem` — the position of an argument is that of the first word that names it.
* `Segmented.lead_of_getElem?`, `Segmented.flag_of_getElem?` — what stands at a position in front of
  the first flag, and right behind the data there.
* **`accepted_binds_positionals`** — in an accepted invocation every positional argument is bound, and
  it is bound to data of its own if the data in front of the first flag reaches that far.
* `positional_bound_to_flag` — an accepted invocation whose positional arguments stand behind a flag.
-/

namespace Optline

open Invocation

/-! ## Positions -/

lemma positional?_of_mem {spec : CommandSpec} {tokens : List String} {word : String}
    (h : word ∈ spec.arguments) :
    positional? spec tokens word = (arguments tokens)[spec.arguments.idxOf word]? := by
  have hfind : spec.arguments.findIdx? (· == word) = some (spec.arguments.idxOf word) :=
    List.findIdx?_eq_some_iff_findIdx_eq.mpr ⟨List.idxOf_lt_length_of_mem h, rfl⟩
  rw [positional?, hfind, Option.bind_some, arguments, List.getElem?_drop, Nat.add_comm]

section

variable {args lead : List String} {segs : List (String × List String)}

/-- In front of the first flag stands leading data. -/
lemma Invocation.Segmented.lead_of_getElem? (h : Segmented args lead segs) {i : Nat} {token : String}
    (hi : i < lead.length) (htoken : args[i]? = some token) :
    lead[i]? = some token ∧ isFlagLike token = false := by
  rw [h.whole, joined, List.getElem?_append_left hi] at htoken
  exact ⟨htoken, h.lead_data token (List.mem_of_getElem? htoken)⟩

/-- Right behind the leading data stands a flag, if anything does. -/
lemma Invocation.Segmented.flag_of_getElem? (h : Segmented args lead segs) {token : String}
    (htoken : args[lead.length]? = some token) : isFlagLike token = true := by
  rw [h.whole, joined, List.getElem?_append_right le_rfl, Nat.sub_self] at htoken
  cases segs with
  | nil => simp at htoken
  | cons seg segs =>
      obtain rfl : seg.1 = token := by simpa using htoken
      exact h.head_flag seg List.mem_cons_self

end

/-! ## Accepted invocations -/

/-- In an accepted invocation every position of an argument has a token. -/
lemma exists_getElem?_of_ok {spec : CommandSpec} {tokens : List String}
    (h : validate spec tokens = .ok) {i : Nat} (hi : i < spec.required) :
    ∃ token, (arguments tokens)[i]? = some token := by
  obtain ⟨henough, -⟩ := (validate_eq_ok_iff (segmented_segments _)).mp h
  have hdata : (data (arguments tokens)).length ≤ (arguments tokens).length :=
    List.length_filter_le _ _
  exact ⟨_, List.getElem?_eq_getElem (lt_of_lt_of_le hi (henough.trans hdata))⟩

/-- **Every positional argument of an accepted invocation is bound.**  The one at position `i` is bound
to the leading data at this position if there is that much of it, and to the first flag if it comes
right behind the leading data.  So with names that are all different, no positional argument is bound
to a flag exactly if there is leading data for all of them. -/
theorem accepted_binds_positionals {spec : CommandSpec} {tokens lead : List String}
    {segs : List (String × List String)} (h : validate spec tokens = .ok)
    (hcut : Segmented (arguments tokens) lead segs) :
    (∀ word ∈ spec.arguments, ∃ token, positional? spec tokens word = some token
        ∧ (spec.arguments.idxOf word < lead.length →
          lead[spec.arguments.idxOf word]? = some token ∧ isFlagLike token = false)
        ∧ (spec.arguments.idxOf word = lead.length → isFlagLike token = true))
      ∧ (spec.arguments.Nodup →
        ((∀ word ∈ spec.arguments, ∀ token, positional? spec tokens word = some token →
            isFlagLike token = false)
          ↔ spec.required ≤ lead.length)) := by
  refine ⟨fun word hword => ?_, fun hnodup => ⟨fun hall => ?_, fun hle word hword token => ?_⟩⟩
  · obtain ⟨token, htoken⟩ := exists_getElem?_of_ok h (List.idxOf_lt_length_of_mem hword)
    refine ⟨token, by rw [positional?_of_mem hword, htoken],
      fun hi => hcut.lead_of_getElem? hi htoken, fun hi => hcut.flag_of_getElem? ?_⟩
    rw [← hi, htoken]
  · -- Otherwise the argument right behind the leading data is bound to a flag.
    by_contra hlt
    have hi : lead.length < spec.arguments.length := Nat.lt_of_not_le hlt
    have hmem : spec.arguments[lead.length] ∈ spec.arguments := List.getElem_mem hi
    obtain ⟨token, htoken⟩ := exists_getElem?_of_ok h hi
    have hbound : positional? spec tokens spec.arguments[lead.length] = some token := by
      rw [positional?_of_mem hmem, hnodup.idxOf_getElem, htoken]
    have hdata := hall _ hmem token hbound
    rw [hcut.flag_of_getElem? htoken] at hdata
    exact absurd hdata (by simp)
  · rw [positional?_of_mem hword]
    intro htoken
    have hi : spec.arguments.idxOf word < lead.length :=
      lt_of_lt_of_le (List.idxOf_lt_length_of_mem hword) hle
    exact (hcut.lead_of_getElem? hi htoken).2

/-- Two positional arguments in front of an option, and more data than they need. -/
theorem accepted_binds_positionals_leading :
    let spec := CommandSpec.compile "resize" "<width> <height> -color <string>"
    let tokens := ["resize", "10", "-5", "30", "-color", "red"]
    (validate spec tokens = .ok
        ∧ Segmented (arguments tokens) ["10", "-5", "30"] [("-color", ["red"])])
      ∧ (∃ token, positional? spec tokens "<height>" = some token
        ∧ ["10", "-5", "30"][spec.arguments.idxOf "<height>"]? = some token
        ∧ isFlagLike token = false) := by
  intro spec tokens
  have hok : validate spec tokens = .ok := by decide +kernel
  have hcut : Segmented (arguments tokens) ["10", "-5", "30"] [("-color", ["red"])] :=
    segments_eq_iff.mp (by decide +kernel)
  obtain ⟨token, htoken, hlead, -⟩ :=
    (accepted_binds_positionals hok hcut).1 "<height>" (by decide +kernel)
  exact ⟨⟨hok, hcut⟩, token, htoken, hlead (by decide +kernel)⟩

/-- Data behind a flag makes up for the positional arguments that are missing in front of it, and the
first of these is bound to the flag. -/
theorem positional_bound_to_flag :
    let spec := CommandSpec.compile "resize" "<width> <height> -color <string>"
    let tokens := ["resize", "-color", "red", "green"]
    validate spec tokens = .ok ∧ "<width>" ∈ spec.arguments
      ∧ positional? spec tokens "<width>" = some "-color" ∧ isFlagLike "-color" = true := by
  decide +kernel

end Optline
