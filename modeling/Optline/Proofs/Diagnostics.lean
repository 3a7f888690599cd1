import Mathlib.Data.List.Induction
import Mathlib.Data.List.Infix
import Mathlib.Data.Set.Function
import Optline.Proofs.Execution
import Optline.Proofs.SpecTokens

/-!
# Reports tell which invocation they are about

A report shows an invocation on one line, in which a token with a space stands in braces.  The line can
be read back as long as the braces of each token are balanced: the spaces between two tokens are then
those outside all braces, and braces were put around a token exactly if there is a space in it.

* `Balanced` — texts that close the braces that they open, and no others.
* `after_eq_count`, `Balanced.crosses` — the number of open braces is what the counts of braces say, so
  that a balanced text is scanned in one piece where it holds no separator, or stands within braces.
* `crosses_shownToken`, `pieces_fullName` — the line of an invocation is cut into its tokens as they are
  shown.
* `ReportedAs` — what a dispatcher calls an invocation where it reports on it.
* **`fullName_identifies`** — different invocations are called by different names, and the name of one
  without other blanks is cut like a specification into its tokens.
-/

namespace Optline

open Text

/-- Whether braces are balanced in a text: no beginning of it closes more than it opens, and it closes as
many as it opens. -/
structure Balanced (text : String) : Prop where
  count_le : ∀ front, front <+: text.toList → front.count '}' ≤ front.count '{'
  count_eq : text.toList.count '}' = text.toList.count '{'

instance (text : String) : Decidable (Balanced text) :=
  decidable_of_iff
    ((∀ front ∈ text.toList.inits, front.count '}' ≤ front.count '{')
      ∧ text.toList.count '}' = text.toList.count '{')
    ⟨fun h => ⟨fun front hfront => h.1 front ((List.mem_inits _ _).mpr hfront), h.2⟩,
      fun h => ⟨fun front hfront => h.count_le front ((List.mem_inits _ _).mp hfront), h.count_eq⟩⟩

/-! ## Balanced texts in one piece -/

section

variable {separates : Char → Bool} {depth : ℕ} {token : String}

lemma groupCutter_cuts_eq_false {c : Char} (h : depth ≠ 0 ∨ separates c = false) :
    (groupCutter separates).cuts depth c = false := by
  rw [← Bool.not_eq_true, groupCutter_cuts_iff]
  rintro ⟨hdepth, hc⟩
  rcases h with hopen | hkept
  · exact hopen hdepth
  · exact absurd (hc.symm.trans hkept) (by simp)

/-- How many braces are open, where no beginning of the text closes one that was not open.  The induction
is on the end of the text, so that its beginnings are those of the text in front. -/
lemma after_eq_count {cs : List Char}
    (h : ∀ front, front <+: cs → front.count '}' ≤ depth + front.count '{') :
    (groupCutter separates).after depth cs + cs.count '}' = depth + cs.count '{' := by
  induction cs using List.reverseRecOn with
  | nil => rfl
  | append_singleton cs c ih =>
      have hfront := ih fun front hbegins => h front (hbegins.trans (List.prefix_append cs [c]))
      have hwhole := h (cs ++ [c]) (List.prefix_refl _)
      have hafter : (groupCutter separates).after depth (cs ++ [c])
          = braceDepth ((groupCutter separates).after depth cs) c := Cutter.after_append _ _ _ _
      rw [hafter, braceDepth]
      by_cases hopening : c = '{'
      · subst hopening
        have hcloses : (cs ++ ['{']).count '}' = cs.count '}' := by simp
        have hopens : (cs ++ ['{']).count '{' = cs.count '{' + 1 := by simp
        rw [if_pos rfl, hcloses, hopens]
        omega
      · by_cases hclosing : c = '}'
        · subst hclosing
          have hcloses : (cs ++ ['}']).count '}' = cs.count '}' + 1 := by simp
          have hopens : (cs ++ ['}']).count '{' = cs.count '{' := by simp
          rw [hcloses, hopens] at hwhole ⊢
          rw [if_neg hopening, if_pos rfl]
          omega
        · simpa [hopening, hclosing] using hfront

/-- A balanced text leaves the braces around it open, and none of its own.  It is in one piece if it
stands within braces or has no separator. -/
lemma Balanced.crosses (h : Balanced token)
    (hkept : depth ≠ 0 ∨ ∀ c ∈ token.toList, separates c = false) :
    (groupCutter separates).Crosses depth token.toList depth := by
  have hopen : ∀ front, front <+: token.toList → front.count '}' ≤ depth + front.count '{' :=
    fun front hbegins => (h.count_le front hbegins).trans (Nat.le_add_left _ _)
  have hafter : (groupCutter separates).after depth token.toList = depth := by
    have hcount : (groupCutter separates).after depth token.toList + token.toList.count '}'
        = depth + token.toList.count '{' := after_eq_count hopen
    rw [h.count_eq] at hcount
    omega
  have hcrosses : (groupCutter separates).Crosses depth token.toList
      ((groupCutter separates).after depth token.toList) := by
    refine Cutter.crosses_of_forall fun front c back hsplit => groupCutter_cuts_eq_false ?_
    rcases hkept with hwithin | hnone
    · -- No beginning of the text closes the brace around it.
      have hbegins : front <+: token.toList := ⟨c :: back, hsplit.symm⟩
      have hle := h.count_le front hbegins
      have hcount : (groupCutter separates).after depth front + front.count '}'
          = depth + front.count '{' := after_eq_count fun more hmore => hopen more (hmore.trans hbegins)
      exact Or.inl (by omega)
    · exact Or.inr (hnone c (by simp [hsplit]))
  rwa [hafter] at hcrosses

end

/-! ## Tokens as they are shown -/

lemma shownToken_eq (token : String) :
    shownToken token
      = if ' ' ∈ token.toList then "\x7b" ++ token ++ "\x7d" else token := by
  simp [shownToken]

lemma shownToken_injective : Function.Injective shownToken := by
  have hspace : ∀ token, ' ' ∈ (shownToken token).toList ↔ ' ' ∈ token.toList := by
    intro token
    rw [shownToken_eq]
    split_ifs with h
    · simp [h]
    · rfl
  intro token token' h
  have hiff : ' ' ∈ token.toList ↔ ' ' ∈ token'.toList := by rw [← hspace, h, hspace]
  rw [shownToken_eq, shownToken_eq] at h
  by_cases hmem : ' ' ∈ token.toList
  · rw [if_pos hmem, if_pos (hiff.mp hmem)] at h
    simpa [← String.toList_inj] using h
  · rwa [if_neg hmem, if_neg (mt hiff.mpr hmem)] at h

section

variable {separates : Char → Bool} (hopening : separates '{' = false) (hclosing : separates '}' = false)

include hopening hclosing

/-- A token in which only spaces are separators is shown in one piece. -/
lemma crosses_shownToken {token : String} (h : Balanced token)
    (hspaces : ∀ c ∈ token.toList, separates c = true → c = ' ') :
    (groupCutter separates).Crosses 0 (shownToken token).toList 0 := by
  rw [shownToken_eq]
  split_ifs with hmem
  · have hchars : ("\x7b" ++ token ++ "\x7d").toList = '{' :: (token.toList ++ ['}']) := by simp
    have hwithin : (groupCutter separates).Crosses 1 token.toList 1 := h.crosses (Or.inl Nat.one_ne_zero)
    have hend : (groupCutter separates).Crosses 1 ['}'] 0 :=
      .cons (groupCutter_cuts_eq_false (Or.inr hclosing)) (.nil 0)
    rw [hchars]
    exact .cons (groupCutter_cuts_eq_false (Or.inr hopening)) (hwithin.append hend)
  · refine h.crosses (Or.inr fun c hc => ?_)
    rw [← Bool.not_eq_true]
    intro hseparates
    exact hmem (hspaces c hc hseparates ▸ hc)

/-- **The line of an invocation** is cut into its tokens as they are shown. -/
theorem pieces_fullName (hspace : separates ' ' = true) {tokens : List String} (hne : tokens ≠ [])
    (h : ∀ token ∈ tokens, Balanced token ∧ ∀ c ∈ token.toList, separates c = true → c = ' ') :
    (groupCutter separates).pieces 0 (fullName tokens).toList
      = tokens.map fun token => (shownToken token).toList := by
  have hchain : (groupCutter separates).Chain 0 (tokens.map fun token => (shownToken token).toList) := by
    refine Cutter.Chain.of_forall (by simpa using hne) ?_
    rw [List.forall_mem_map]
    exact fun token htoken =>
      crosses_shownToken hopening hclosing (h token htoken).1 (h token htoken).2
  rw [fullName, unwords, String.toList_intercalate, List.map_map]
  exact hchain.pieces_intercalate (cutsAtStart_groupCutter hopening hclosing) (c := ' ')
    (groupCutter_cuts_iff.mpr ⟨rfl, hspace⟩)

end

/-! ## Names of invocations -/

/-- The invocations that can be told by their names: there is a token, and the braces of each are
balanced. -/
def Nameable : Set (List String) :=
  {tokens | tokens ≠ [] ∧ ∀ token ∈ tokens, Balanced token}

lemma injOn_fullName : Set.InjOn fullName Nameable := by
  have hpieces : ∀ tokens ∈ Nameable,
      (groupCutter (· == ' ')).pieces 0 (fullName tokens).toList
        = (tokens.map shownToken).map String.toList := by
    rintro tokens ⟨hne, hbalanced⟩
    rw [List.map_map]
    exact pieces_fullName (by decide) (by decide) (by decide) hne fun token htoken =>
      ⟨hbalanced token htoken, fun c _ hc => by simpa using hc⟩
  intro tokens htokens tokens' htokens' hname
  have hshown : (tokens.map shownToken).map String.toList
      = (tokens'.map shownToken).map String.toList := by
    rw [← hpieces tokens htokens, hname, hpieces tokens' htokens']
  exact shownToken_injective.list_map
    ((Function.LeftInverse.injective fun _ => String.ofList_toList).list_map hshown)

section

variable {tokens : List String}
  (h : ∀ token ∈ tokens, Balanced token ∧ token ≠ "" ∧ ∀ c ∈ token.toList, isBlank c = true → c = ' ')

include h

lemma crosses_of_mem_shown : ∀ shown ∈ tokens.map shownToken, braceCutter.Crosses 0 shown.toList 0 := by
  rw [braceCutter_eq, List.forall_mem_map]
  exact fun token htoken =>
    crosses_shownToken (by decide) (by decide) (h token htoken).1 (h token htoken).2.2

lemma splitSpec_fullName : splitSpec (fullName tokens) = tokens.map shownToken := by
  refine splitSpec_unwords (spaced_of_forall ?_ (crosses_of_mem_shown h))
  rw [List.forall_mem_map]
  intro token htoken
  rw [shownToken_eq]
  split_ifs
  · simp [← String.toList_inj]
  · exact (h token htoken).2.1

lemma openBraces_fullName : openBraces (fullName tokens) = 0 :=
  openBraces_intercalate (by decide) fun shown hshown => (crosses_of_mem_shown h shown hshown).after_eq

end

/-! ## Reports -/

namespace Dispatcher

/-- What a dispatcher calls an invocation where it reports on it: in the notice that it was turned away,
and in the message that its command failed. -/
inductive ReportedAs (d : Dispatcher) (tokens : List String) : String → Prop
  | rejected {name diagnostic : String}
      (h : .rejected name diagnostic ∈ (d.execute tokens).notices) : ReportedAs d tokens name
  | failed {ran : List String} {fault : Fault} {name : String}
      (h : (d.execute tokens).result = .error (.failed ran fault))
      (hmessage : (DispatchError.failed ran fault).fault.message = "command failed: " ++ name) :
      ReportedAs d tokens name

/-- A notice is about the invocation that is turned away, and a failure about the one that is run. -/
lemma reports_execute (d : Dispatcher) (tokens : List String) :
    (∀ notice ∈ (d.execute tokens).notices, ∃ diagnostic,
        notice = .rejected (fullName tokens) diagnostic)
      ∧ ∀ ran fault, (d.execute tokens).result = .error (.failed ran fault) → ran = tokens := by
  cases tokens with
  | nil => simp [execute]
  | cons name rest =>
      by_cases hname : d.registry.Registers name
      · obtain ⟨e, he⟩ := Registry.exists_firstRegistered hname
        rcases ok_or_help_or_rejection (validate e.spec (name :: rest)) with
          hok | ⟨topic, hhelp⟩ | hrejection
        · rw [execute_of_ok he hok]
          refine ⟨by simp [run], fun ran fault hfailed => ?_⟩
          simp only [run] at hfailed
          split at hfailed
          · exact absurd hfailed (by simp)
          · exact (DispatchError.failed.inj (Except.error.inj hfailed)).1.symm
        · rw [execute_of_help he hhelp]
          simp
        · rw [execute_of_rejection he rfl hrejection]
          simp
      · rw [execute_of_unregistered hname]
        simp

lemma ReportedAs.eq_fullName {d : Dispatcher} {tokens : List String} {name : String}
    (h : d.ReportedAs tokens name) : name = fullName tokens := by
  obtain ⟨hnotices, hran⟩ := d.reports_execute tokens
  cases h with
  | rejected h =>
      obtain ⟨diagnostic, hnotice⟩ := hnotices _ h
      exact (Notice.rejected.inj hnotice).1
  | @failed ran fault name h hmessage =>
      have hfull : "command failed: " ++ fullName ran = "command failed: " ++ name := hmessage
      rw [← hran ran fault h]
      simpa [← String.toList_inj] using hfull.symm

end Dispatcher

/-- **Reports tell which invocation they are about.**  Two invocations with balanced tokens have one name
only if they are the same, and so reports on different ones differ, whichever dispatchers make them.  If
moreover no token is empty or has a blank other than the space, the name is cut like a specification into
the tokens, in braces where they have a space, and no brace is left open. -/
theorem fullName_identifies :
    Set.InjOn fullName Nameable
      ∧ (∀ (d d' : Dispatcher), ∀ tokens ∈ Nameable, ∀ tokens' ∈ Nameable, ∀ name,
        d.ReportedAs tokens name → d'.ReportedAs tokens' name → tokens = tokens')
      ∧ ∀ tokens : List String,
        (∀ token ∈ tokens,
          Balanced token ∧ token ≠ "" ∧ ∀ c ∈ token.toList, isBlank c = true → c = ' ') →
        splitSpec (fullName tokens)
            = tokens.map (fun token =>
              if ' ' ∈ token.toList then "\x7b" ++ token ++ "\x7d" else token)
          ∧ openBraces (fullName tokens) = 0 := by
  refine ⟨injOn_fullName, fun d d' tokens htokens tokens' htokens' name h h' => ?_,
    fun tokens h => ⟨?_, openBraces_fullName h⟩⟩
  · exact injOn_fullName htokens htokens' (h.eq_fullName.symm.trans h'.eq_fullName)
  · rw [splitSpec_fullName h]
    exact List.map_congr_left fun token _ => shownToken_eq token

/-- A token with a space and braces of its own, and one with braces and no space. -/
theorem fullName_identifies_nested :
    let tokens := ["set", "a \x7bb c\x7d", "\x7bd\x7d"]
    (tokens ∈ Nameable ∧ ∀ token ∈ tokens,
        Balanced token ∧ token ≠ "" ∧ ∀ c ∈ token.toList, isBlank c = true → c = ' ')
      ∧ fullName tokens = "set \x7ba \x7bb c\x7d\x7d \x7bd\x7d"
      ∧ (∀ tokens' ∈ Nameable, fullName tokens' = fullName tokens → tokens' = tokens)
      ∧ splitSpec (fullName tokens) = ["set", "\x7ba \x7bb c\x7d\x7d", "\x7bd\x7d"] := by
  intro tokens
  have hbalanced : ∀ token ∈ tokens, Balanced token ∧ token ≠ "" := by decide +kernel
  have hblanks : ∀ token ∈ tokens, ∀ c ∈ token.toList, isBlank c = true → c = ' ' := by
    simp [tokens, isBlank]
  have htokens : ∀ token ∈ tokens,
      Balanced token ∧ token ≠ "" ∧ ∀ c ∈ token.toList, isBlank c = true → c = ' ' :=
    fun token htoken => ⟨(hbalanced token htoken).1, (hbalanced token htoken).2, hblanks token htoken⟩
  have hnameable : tokens ∈ Nameable := ⟨by decide, fun token htoken => (htokens token htoken).1⟩
  obtain ⟨hinjective, -, hcut⟩ := fullName_identifies
  exact ⟨⟨hnameable, htokens⟩, by decide +kernel,
    fun tokens' htokens' hname => hinjective htokens' hnameable hname, (hcut tokens htokens).1⟩

/-- Two invocations with one name: the tokens of the first close braces that they have not opened. -/
example : fullName ["echo", "\x7ba", "b\x7d"] = fullName ["echo", "a b"] := by decide +kernel

end Optline
