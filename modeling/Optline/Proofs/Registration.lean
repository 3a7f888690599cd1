import Mathlib.Data.List.Forall2
import Mathlib.Tactic.Lemma
import Optline.Manifest
import Optline.Proofs.Blank
import Optline.Proofs.Execution

/-!
# What a manifest registers

A manifest adds commands behind the built-in ones and never replaces any, so what a name leads to is
settled by the first entry that has it.  One command that has no name, or that names a handler which
does not exist, spoils the whole manifest; a name that has passed the check for this is never blank,
which is all that the registry itself asks for.

* `ManifestCommand.Declares` — the entry that a command of a manifest stands for.
* `ManifestCommand.IsSound`, `ManifestCommand.Offends` — commands that can be registered, and what is
  wrong with the others.
* `registerAll_of_sound`, `registerAll_of_offends` — sound commands are registered in their order, up
  to the first one that offends.
* **`entries_of_registry`** — the registry of a manifest is the built-in commands and then, in their
  order, those that the manifest declares.
* **`manifest_registers_in_order`** — which manifests have a registry, what it holds, and what is
  wrong with the other manifests.
-/

namespace Optline

/-! ## The registry alone -/

namespace Registry

variable {η : Type}

/-- A name that is not blank is all that it takes to be registered. -/
lemma register_of_named {name : String} (h : Text.isBlankText name = false) (r : Registry η)
    (raw : String) (handler : η) :
    ∃ notices, r.register name raw handler
      = .ok (r.append ⟨CommandSpec.compile name raw, handler⟩, notices) := by
  rw [register, h]
  exact ⟨_, rfl⟩

/-- Registers commands one after the other, each with the notices that arise from it. -/
def registerEach (r : Registry η) :
    List (String × String × η) → Except RegistrationError (Registry η × List (List Notice))
  | [] => .ok (r, [])
  | (name, raw, handler) :: rest =>
    match r.register name raw handler with
    | .error e => .error e
    | .ok (r', notices) =>
      (registerEach r' rest).map fun (last, more) => (last, notices :: more)

lemma registerEach_of_named {cs : List (String × String × η)}
    (h : ∀ c ∈ cs, Text.isBlankText c.1 = false) (r : Registry η) :
    ∃ notices, r.registerEach cs
      = .ok (⟨r.entries ++ cs.map fun c => ⟨CommandSpec.compile c.1 c.2.1, c.2.2⟩⟩, notices) := by
  induction cs generalizing r with
  | nil => exact ⟨[], by simp [registerEach]⟩
  | cons c cs ih =>
      obtain ⟨name, raw, handler⟩ := c
      obtain ⟨notices, hregister⟩ := register_of_named (h _ List.mem_cons_self) r raw handler
      obtain ⟨more, hrest⟩ := ih (fun c hc => h c (List.mem_cons_of_mem _ hc))
        (r.append ⟨CommandSpec.compile name raw, handler⟩)
      refine ⟨notices :: more, ?_⟩
      rw [registerEach, hregister]
      simp only [hrest, Except.map]
      simp [append]

/-- An entry that a name leads to stays the one when commands are added. -/
lemma FirstRegistered.append {before after : List (Entry η)} {name : String} {e : Entry η}
    (h : (Registry.mk before).FirstRegistered name e) :
    (Registry.mk (before ++ after)).FirstRegistered name e := by
  obtain ⟨front, back, hentries, hname, hfront⟩ := h
  obtain rfl : before = front ++ e :: back := hentries
  exact ⟨front, back ++ after, by simp, hname, hfront⟩

end Registry

/-- The built-in commands are what registering them one after the other gives. -/
lemma registerEach_builtins :
    ∃ notices, (Registry.mk []).registerEach builtins = .ok (builtinRegistry, notices) :=
  Registry.registerEach_of_named (by decide) ⟨[]⟩

/-! ## Commands of a manifest -/

lemma handler?_isSome_iff {name : String} : (handler? name).isSome = true ↔ name ∈ handlerNames := by
  unfold handler?
  split_ifs <;> simp_all [handlerNames]

namespace ManifestCommand

/-- Whether an entry is what a command of a manifest stands for. -/
structure Declares (c : ManifestCommand) (e : Entry Handler) : Prop where
  spec : e.spec = CommandSpec.compile (Text.trimmed c.name) c.spec
  handler : handler? (c.handler.getD defaultHandler) = some e.handler

/-- Whether a command of a manifest can be registered: it has a name, and the handler that it names,
if it names one, exists. -/
structure IsSound (c : ManifestCommand) : Prop where
  named : Text.trimmed c.name ≠ ""
  known : ∀ name ∈ c.handler, name ∈ handlerNames

/-- What is wrong with a command that a manifest declares as number `index`.  The handler of a
command without a name is of no interest. -/
inductive Offends (c : ManifestCommand) (index : Nat) : ManifestError → Prop
  | unnamed (h : Text.trimmed c.name = "") : Offends c index (.emptyName index)
  | unknown {handler : String} (hname : Text.trimmed c.name ≠ "") (h : c.handler = some handler)
      (hunknown : handler ∉ handlerNames) :
      Offends c index (.unknownHandler (Text.trimmed c.name) handler)

variable {c : ManifestCommand} {index : Nat} {error : ManifestError}

/-- A trimmed name is blank only if it is empty. -/
lemma isBlankText_trimmed (h : Text.trimmed c.name ≠ "") :
    Text.isBlankText (Text.trimmed c.name) = false := by
  rw [← Text.trimmed_trimmed, ne_eq, Text.trimmed_eq_empty_iff] at h
  simpa using h

lemma sound_or_offends (c : ManifestCommand) (index : Nat) :
    c.IsSound ∨ ∃ error, c.Offends index error := by
  by_cases hname : Text.trimmed c.name = ""
  · exact Or.inr ⟨_, .unnamed hname⟩
  · by_cases hknown : ∀ name ∈ c.handler, name ∈ handlerNames
    · exact Or.inl ⟨hname, hknown⟩
    · push Not at hknown
      obtain ⟨handler, hhandler, hunknown⟩ := hknown
      exact Or.inr ⟨_, .unknown hname hhandler hunknown⟩

lemma IsSound.exists_handler (h : c.IsSound) :
    ∃ handler, handler? (c.handler.getD defaultHandler) = some handler := by
  rw [← Option.isSome_iff_exists, handler?_isSome_iff]
  cases hhandler : c.handler with
  | none => decide
  | some name => exact h.known name hhandler

lemma register_of_sound (h : c.IsSound) (index : Nat) (r : Registry Handler) :
    ∃ e notices, c.Declares e ∧ c.register index r = .ok (r.append e, notices) := by
  obtain ⟨handler, hhandler⟩ := h.exists_handler
  obtain ⟨notices, hregister⟩ :=
    Registry.register_of_named (isBlankText_trimmed h.named) r c.spec handler
  refine ⟨⟨CommandSpec.compile (Text.trimmed c.name) c.spec, handler⟩, notices,
    ⟨rfl, hhandler⟩, ?_⟩
  simp only [register, h.named, if_false, hhandler, hregister]

lemma register_of_offends (h : c.Offends index error) (r : Registry Handler) :
    c.register index r = .error error := by
  cases h with
  | unnamed h => simp only [register, h, if_true]
  | @unknown handler hname h hunknown =>
      have hnone : handler? handler = none := by
        rw [← Option.not_isSome_iff_eq_none, handler?_isSome_iff]
        exact hunknown
      simp only [register, hname, if_false, h, Option.getD_some, hnone]

end ManifestCommand

/-! ## All commands of a manifest -/

open ManifestCommand

variable {m : Manifest} {cs before after : List ManifestCommand} {c : ManifestCommand}
  {error : ManifestError}

/-- Sound commands are registered in their order. -/
theorem registerAll_of_sound (h : ∀ c ∈ cs, c.IsSound) (index : Nat) (r : Registry Handler) :
    ∃ added notices, List.Forall₂ Declares cs added
      ∧ registerAll index r cs = .ok (⟨r.entries ++ added⟩, notices) := by
  induction cs generalizing index r with
  | nil => exact ⟨[], [], .nil, by simp [registerAll]⟩
  | cons c cs ih =>
      obtain ⟨e, notices, hdeclares, hregister⟩ :=
        register_of_sound (h c List.mem_cons_self) index r
      obtain ⟨added, more, hadded, hrest⟩ :=
        ih (fun b hb => h b (List.mem_cons_of_mem _ hb)) (index + 1) (r.append e)
      refine ⟨e :: added, notices ++ more, .cons hdeclares hadded, ?_⟩
      rw [registerAll, hregister]
      simp only [hrest, Except.map]
      simp [Registry.append]

/-- The first command that offends ends it, whatever stands behind that command. -/
theorem registerAll_of_offends {index : Nat} (hbefore : ∀ b ∈ before, b.IsSound)
    (h : c.Offends (index + before.length) error) (r : Registry Handler) :
    registerAll index r (before ++ c :: after) = .error error := by
  induction before generalizing index r with
  | nil =>
      rw [List.length_nil, Nat.add_zero] at h
      rw [List.nil_append, registerAll, register_of_offends h]
  | cons b before ih =>
      obtain ⟨e, notices, -, hregister⟩ :=
        register_of_sound (hbefore b List.mem_cons_self) index r
      have hoffends : c.Offends (index + 1 + before.length) error := by
        rwa [List.length_cons, Nat.add_comm before.length, ← Nat.add_assoc] at h
      have hrest := ih (fun b' hb' => hbefore b' (List.mem_cons_of_mem _ hb')) hoffends (r.append e)
      rw [List.cons_append, registerAll, hregister]
      simp only [hrest, Except.map]

lemma sound_or_first_offends (cs : List ManifestCommand) (index : Nat) :
    (∀ c ∈ cs, c.IsSound) ∨ ∃ before c after error, cs = before ++ c :: after
      ∧ (∀ b ∈ before, b.IsSound) ∧ c.Offends (index + before.length) error := by
  induction cs generalizing index with
  | nil => exact Or.inl (by simp)
  | cons c cs ih =>
      rcases c.sound_or_offends index with hc | ⟨error, herror⟩
      · rcases ih (index + 1) with hcs | ⟨before, d, after, error, rfl, hbefore, herror⟩
        · exact Or.inl (List.forall_mem_cons.mpr ⟨hc, hcs⟩)
        · refine Or.inr ⟨c :: before, d, after, error, rfl,
            List.forall_mem_cons.mpr ⟨hc, hbefore⟩, ?_⟩
          rwa [List.length_cons, Nat.add_comm before.length, ← Nat.add_assoc]
      · exact Or.inr ⟨[], c, cs, error, rfl, by simp, herror⟩

lemma exists_declares_of_mem {added : List (Entry Handler)}
    (h : List.Forall₂ Declares cs added) {e : Entry Handler} (he : e ∈ added) :
    ∃ c ∈ cs, c.Declares e := by
  induction h with
  | nil => simp at he
  | cons hc _ ih =>
      rcases List.mem_cons.mp he with rfl | hrest
      · exact ⟨_, List.mem_cons_self, hc⟩
      · obtain ⟨c, hmem, hdeclares⟩ := ih hrest
        exact ⟨c, List.mem_cons_of_mem _ hmem, hdeclares⟩

/-! ## The registry of a manifest -/

lemma exists_registry_iff :
    (∃ r notices, m.registry = .ok (r, notices)) ↔ ∀ c ∈ m.commands, c.IsSound := by
  constructor
  · rintro ⟨r, notices, h⟩
    rcases sound_or_first_offends m.commands 0 with hsound |
      ⟨before, c, after, error, hsplit, hbefore, herror⟩
    · exact hsound
    · rw [Manifest.registry, hsplit, registerAll_of_offends hbefore herror] at h
      exact absurd h (by simp)
  · intro h
    obtain ⟨added, notices, -, hregistry⟩ := registerAll_of_sound h 0 builtinRegistry
    exact ⟨_, notices, hregistry⟩

lemma registry_eq_error_iff :
    m.registry = .error error ↔ ∃ before c after, m.commands = before ++ c :: after
      ∧ (∀ b ∈ before, b.IsSound) ∧ c.Offends before.length error := by
  constructor
  · intro h
    rcases sound_or_first_offends m.commands 0 with hsound |
      ⟨before, c, after, first, hsplit, hbefore, hfirst⟩
    · obtain ⟨r, notices, hregistry⟩ := exists_registry_iff.mpr hsound
      rw [hregistry] at h
      exact absurd h (by simp)
    · have hregistry : m.registry = .error first := by
        rw [Manifest.registry, hsplit, registerAll_of_offends hbefore hfirst]
      obtain rfl : first = error := Except.error.inj (hregistry.symm.trans h)
      exact ⟨before, c, after, hsplit, hbefore, by rwa [Nat.zero_add] at hfirst⟩
  · rintro ⟨before, c, after, hsplit, hbefore, herror⟩
    rw [Manifest.registry, hsplit,
      registerAll_of_offends hbefore (by rwa [Nat.zero_add])]

/-- **A manifest only adds commands.**  Its registry holds the built-in commands and then, in their
order, those that it declares. -/
theorem entries_of_registry {r : Registry Handler} {notices : List Notice}
    (h : m.registry = .ok (r, notices)) :
    ∃ added, List.Forall₂ Declares m.commands added
      ∧ r.entries = builtinRegistry.entries ++ added := by
  have hsound : ∀ c ∈ m.commands, c.IsSound := exists_registry_iff.mp ⟨r, notices, h⟩
  obtain ⟨added, notices', hadded, hregistry⟩ := registerAll_of_sound hsound 0 builtinRegistry
  rw [Manifest.registry, hregistry] at h
  obtain ⟨rfl, -⟩ : Registry.mk (builtinRegistry.entries ++ added) = r ∧ _ := by simpa using h
  exact ⟨added, hadded, rfl⟩

lemma builtin_or_declared {r : Registry Handler} {notices : List Notice}
    (h : m.registry = .ok (r, notices)) {e : Entry Handler} (he : e ∈ r.entries) :
    e ∈ builtinRegistry.entries ∨ ∃ c ∈ m.commands, c.Declares e := by
  obtain ⟨added, hadded, hentries⟩ := entries_of_registry h
  rw [hentries, List.mem_append] at he
  exact he.imp_right (exists_declares_of_mem hadded)

/-- **What becomes of a manifest.**  It has a registry if and only if all its commands are sound.
Then the registry holds the built-in commands and those of the manifest in their order, a name leads
to the first entry that has it, and so nothing that is added takes a name from an entry before it.
Otherwise the error is that of the first command that offends.  The registry is never asked to take a
command without a name, neither from the manifest nor among those that are built in. -/
theorem manifest_registers_in_order (m : Manifest) :
    ((∃ r notices, m.registry = .ok (r, notices)) ↔ ∀ c ∈ m.commands, c.IsSound)
      ∧ (∀ r notices, m.registry = .ok (r, notices) →
        (∃ added, List.Forall₂ Declares m.commands added
          ∧ r.entries = builtinRegistry.entries ++ added)
        ∧ (∀ name e, r.lookup? name = some e ↔ r.FirstRegistered name e)
        ∧ ∀ before after, r.entries = before ++ after → ∀ name e,
          (Registry.mk before).lookup? name = some e → r.lookup? name = some e)
      ∧ (∀ error, m.registry = .error error ↔ ∃ before c after, m.commands = before ++ c :: after
        ∧ (∀ b ∈ before, b.IsSound) ∧ c.Offends before.length error)
      ∧ (∀ reason, m.registry ≠ .error (.unregistrable reason))
      ∧ ∃ notices, (Registry.mk []).registerEach builtins = .ok (builtinRegistry, notices) := by
  refine ⟨exists_registry_iff, fun r notices h => ⟨entries_of_registry h, ?_, ?_⟩,
    fun error => registry_eq_error_iff, fun reason h => ?_, registerEach_builtins⟩
  · exact fun name e => Registry.lookup?_eq_some_iff
  · intro before after hentries name e he
    obtain ⟨entries⟩ := r
    obtain rfl : entries = before ++ after := hentries
    rw [Registry.lookup?_eq_some_iff] at he ⊢
    exact he.append
  · obtain ⟨before, c, after, -, -, herror⟩ := registry_eq_error_iff.mp h
    cases herror

/-- A manifest whose first command that offends has neither a name nor a handler that exists. -/
example : Manifest.registry
    { commands := [⟨" cell ", "<x>", none⟩, ⟨"\t ", "", some "launch"⟩, ⟨"", "", none⟩] }
    = .error (.emptyName 1) := by
  rfl

end Optline
