import Optline.Proofs.Readings
import Optline.Proofs.Settings

/-!
# Profiling only watches

Whether commands are reported, and from which time on, are settings, and every handler gets to see
them.  Of all handlers that a manifest can lead to, `profile` alone says what they are, and it says so
in its output only: it succeeds whatever they are.  So two sessions with the same commands that
differ in their settings, in their clocks and in what they read off the memory run the same commands,
stop at the same places and give the same answers, apart from the reports and that one output.  They
go on doing so when a command switches reporting on in one of them, or off.

* `IgnoresSettings` — handlers whose result does not depend on the settings.
* `Dispatch.unprofiled` — an answer without what profiling adds to it.
* `Dispatcher.SameCommands` — dispatchers that profiling alone can tell apart.
* **`profiling_only_watches`** — their answers to any lines and scripts are the same.
-/

namespace Optline

/-! ## Handlers -/

/-- Whether the result of a handler is the same under all settings. -/
def IgnoresSettings (h : Handler) : Prop :=
  ∀ call settings, (h { call with settings }).result = (h call).result

lemma ignoresSettings_sleep : IgnoresSettings Builtin.sleep := by
  intro call settings
  unfold Builtin.sleep
  dsimp only
  split
  · rfl
  · rfl

lemma ignoresSettings_sum : IgnoresSettings Builtin.sum := by
  intro call settings
  have hnumber : ∀ placeholder,
      Builtin.number { call with settings } placeholder = Builtin.number call placeholder := by
    intro placeholder
    unfold Builtin.number
    dsimp only
  unfold Builtin.sum Builtin.replyWith
  simp only [hnumber]

lemma ignoresSettings_of_handler? {name : String} {h : Handler} (hname : handler? name = some h) :
    IgnoresSettings h := by
  unfold handler? at hname
  split_ifs at hname
  all_goals
    obtain rfl := Option.some.inj hname
    exact fun _ _ => rfl

lemma ignoresSettings_of_mem_builtin {e : Entry Handler} (he : e ∈ builtinRegistry.entries)
    (hname : e.spec.name ≠ "profile") : IgnoresSettings e.handler := by
  obtain ⟨⟨name, raw, handler⟩, hmem, rfl⟩ := List.mem_map.mp he
  simp only [builtins, List.mem_cons, Prod.mk.injEq, List.not_mem_nil, or_false] at hmem
  rcases hmem with ⟨-, -, rfl⟩ | ⟨-, -, rfl⟩ | ⟨-, -, rfl⟩ | ⟨rfl, -, -⟩ | ⟨-, -, rfl⟩
  · exact fun _ _ => rfl
  · exact ignoresSettings_sum
  · exact ignoresSettings_sleep
  · exact absurd rfl hname
  · exact fun _ _ => rfl

/-- Whether the name `profile` leads to the built-in command, and no other name to a handler whose
result depends on the settings. -/
structure OnlyProfileTells (r : Registry Handler) : Prop where
  profile : r.FirstRegistered "profile" profileEntry
  others : ∀ {name e}, r.FirstRegistered name e → name ≠ "profile" → IgnoresSettings e.handler

/-- Nothing that a manifest declares depends on the settings, whatever its name is. -/
theorem onlyProfileTells_of_registry {m : Manifest} {r : Registry Handler} {notices : List Notice}
    (h : m.registry = .ok (r, notices)) : OnlyProfileTells r := by
  refine ⟨(onlyProfileSwitches_of_registry h).profile, fun {name e} he hname => ?_⟩
  obtain ⟨hmem, rfl⟩ := he.mem
  rcases builtin_or_declared h hmem with hbuiltin | ⟨c, -, hc⟩
  · exact ignoresSettings_of_mem_builtin hbuiltin hname
  · exact ignoresSettings_of_handler? hc.handler

/-! ## Without what profiling adds -/

/-- An answer without its report, and without the output if it is that of `profile`. -/
def Dispatch.unprofiled : Dispatch → Dispatch
  | .completed command output _ =>
    .completed command (if command = "profile" then "" else output) none
  | .help command text => .help command text
  | .rejected command outcome message below => .rejected command outcome message below

namespace Dispatcher

variable {d d' : Dispatcher} {name : String} {rest : List String} {e : Entry Handler}

/-- Whether two dispatchers have the same commands, of which `profile` alone tells the settings.  All
else about them, their settings included, is left open. -/
structure SameCommands (d d' : Dispatcher) : Prop where
  registry : d.registry = d'.registry
  only : OnlyProfileTells d.registry

/-- The reports of two runs may differ; apart from that they have the same answer. -/
lemma run_alike (h : SameCommands d d') (he : d.registry.FirstRegistered name e) :
    (d.run e (name :: rest)).Alike Dispatch.unprofiled SameCommands
      (d'.run e (name :: rest)) := by
  refine ⟨?_, rfl, ⟨h.registry, h.only⟩⟩
  simp only [run, ← h.registry, List.headD_cons]
  by_cases hname : name = "profile"
  · subst hname
    obtain rfl := he.unique h.only.profile
    rfl
  · -- The two calls differ in the settings only.
    have hresult := h.only.others he hname
      ⟨name :: rest, e.spec, d.registry.specs, d'.settings⟩ d.settings
    dsimp only at hresult
    rw [hresult]
    cases (e.handler ⟨name :: rest, e.spec, d.registry.specs, d'.settings⟩).result with
    | ok output => simp only [Except.map, Dispatch.unprofiled]
    | error fault => rfl

lemma isSimulation_sameCommands : IsSimulation Dispatch.unprofiled SameCommands := by
  refine isSimulation_of_run (fun a => ?_) SameCommands.registry run_alike
  cases a <;> rfl

/-- **Profiling only watches.**  Two dispatchers with the commands of a manifest, whatever their
settings, their counters and what they read are, give the same answers to any lines and scripts, one
after the other, and fail in the same way at the same places: up to the reports of the answers and
the output of `profile`. -/
theorem profiling_only_watches {m : Manifest} {r : Registry Handler} {notices : List Notice}
    (h : m.registry = .ok (r, notices)) {d d' : Dispatcher} (hd : d.registry = r)
    (hd' : d'.registry = r) (inputs : List Input) :
    (d.responses inputs).map (Except.map (List.map Dispatch.unprofiled))
      = (d'.responses inputs).map (Except.map (List.map Dispatch.unprofiled)) := by
  have hsame : SameCommands d d' :=
    ⟨hd.trans hd'.symm, by rw [hd]; exact onlyProfileTells_of_registry h⟩
  exact isSimulation_sameCommands.responses hsame inputs

/-- A session that reports and one that does not, a command of the manifest that goes by the name
`profile`, and a script that switches reporting off before it fails. -/
theorem profiling_only_watches_switched :
    let m : Manifest :=
      { commands := [⟨"profile", "-enable <string>", some "echo"⟩, ⟨"cell", "<name> -x <int>", none⟩] }
    let inputs : List Input :=
      [.line "profile", .script "echo -text a; profile -enable false; nope",
        .script "cell u1 -x 5; cell u1 -x z", .line "# c"]
    let watched (r : Registry Handler) : Dispatcher :=
      { registry := r, settings := { noiseFloor := 0 }, observe := fun _ => { overhead := 7 } }
    let unwatched (r : Registry Handler) : Dispatcher :=
      { registry := r, settings := { profile := false }, usage := { current := 9 } }
    let reported (d : Dispatcher) : List (Option (List Bool)) :=
      (d.responses inputs).map fun result => result.toOption.map (·.map (·.report?.isSome))
    ∃ r notices, m.registry = .ok (r, notices)
      ∧ reported (watched r) = [some [true], none, some [false, false], some []]
      ∧ reported (unwatched r) = [some [false], none, some [false, false], some []]
      ∧ ((watched r).responses inputs).map (Except.map (List.map Dispatch.unprofiled))
        = ((unwatched r).responses inputs).map (Except.map (List.map Dispatch.unprofiled)) := by
  intro m inputs watched unwatched reported
  have hreported : m.registry.toOption.map (fun result => (reported (watched result.1),
        reported (unwatched result.1)))
      = some ([some [true], none, some [false, false], some []],
        [some [false], none, some [false, false], some []]) := by decide +kernel
  cases h : m.registry with
  | error e =>
      rw [h] at hreported
      exact absurd hreported (by simp [Except.toOption])
  | ok result =>
      obtain ⟨r, notices⟩ := result
      rw [h] at hreported
      obtain ⟨hwatched, hunwatched⟩ := Prod.mk.inj (Option.some.inj hreported)
      have hsame : (watched r).registry = r := rfl
      have hsame' : (unwatched r).registry = r := rfl
      exact ⟨r, notices, rfl, hwatched, hunwatched, profiling_only_watches h hsame hsame' inputs⟩

end Dispatcher

end Optline
