import Optline.Proofs.Access
import Optline.Proofs.CommandLine
import Optline.Proofs.Execution
import Optline.Proofs.Registration

/-!
# Settings over a session

Of all handlers that a manifest can lead to, `profile` alone changes the settings, and only whether
commands are reported.  It reads the truth value of `-enable` whatever its case; validation admits
`true` and `false` in lower case only, so in an accepted invocation the two agree on the word right
behind the first `-enable`.

* `KeepsSettings` — handlers that leave the settings alone.
* `profileSwitch?` — the value to which a command line switches reporting.
* `Dispatcher.feed` — the dispatcher after any number of lines.
* **`settings_after_lines`** — the settings after a session are those before it, with the switches
  of its lines made one after the other.
-/

namespace Optline

open Invocation

/-! ## Handlers -/

/-- Whether a handler leaves the settings as it finds them, whatever becomes of it. -/
def KeepsSettings (h : Handler) : Prop :=
  ∀ call, (h call).settings = call.settings

lemma keepsSettings_sleep : KeepsSettings Builtin.sleep := by
  intro call
  unfold Builtin.sleep
  split
  · rfl
  · rfl

lemma keepsSettings_of_handler? {name : String} {h : Handler} (hname : handler? name = some h) :
    KeepsSettings h := by
  unfold handler? at hname
  split_ifs at hname
  all_goals
    obtain rfl := Option.some.inj hname
    exact fun _ => rfl

lemma name_compile (name raw : String) : (CommandSpec.compile name raw).name = name := rfl

/-- The built-in command that switches reporting. -/
def profileEntry : Entry Handler :=
  ⟨CommandSpec.compile "profile" "-enable true|false", Builtin.profile⟩

lemma keepsSettings_of_mem_builtin {e : Entry Handler} (he : e ∈ builtinRegistry.entries)
    (hname : e.spec.name ≠ "profile") : KeepsSettings e.handler := by
  obtain ⟨⟨name, raw, handler⟩, hmem, rfl⟩ := List.mem_map.mp he
  simp only [builtins, List.mem_cons, Prod.mk.injEq, List.not_mem_nil, or_false] at hmem
  rcases hmem with ⟨-, -, rfl⟩ | ⟨-, -, rfl⟩ | ⟨-, -, rfl⟩ | ⟨rfl, -, -⟩ | ⟨-, -, rfl⟩
  · exact fun _ => rfl
  · exact fun _ => rfl
  · exact keepsSettings_sleep
  · exact absurd rfl hname
  · exact fun _ => rfl

/-! ## Registries -/

/-- Whether the name `profile` leads to the built-in command, and no other name to a handler that
changes the settings. -/
structure OnlyProfileSwitches (r : Registry Handler) : Prop where
  profile : r.FirstRegistered "profile" profileEntry
  others : ∀ {name e}, r.FirstRegistered name e → name ≠ "profile" → KeepsSettings e.handler

/-- Nothing that a manifest declares changes the settings, whatever its name is. -/
theorem onlyProfileSwitches_of_registry {m : Manifest} {r : Registry Handler}
    {notices : List Notice} (h : m.registry = .ok (r, notices)) : OnlyProfileSwitches r := by
  constructor
  · obtain ⟨added, -, hentries⟩ := entries_of_registry h
    have hlookup : builtinRegistry.lookup? "profile" = some profileEntry := by
      simp [Registry.lookup?, builtinRegistry, builtins, name_compile, profileEntry]
    obtain ⟨entries⟩ := r
    obtain rfl : entries = builtinRegistry.entries ++ added := hentries
    exact (Registry.lookup?_eq_some_iff.mp hlookup).append
  · intro name e he hname
    obtain ⟨hmem, rfl⟩ := he.mem
    rcases builtin_or_declared h hmem with hbuiltin | ⟨c, -, hc⟩
    · exact keepsSettings_of_mem_builtin hbuiltin hname
    · exact keepsSettings_of_handler? hc.handler

/-! ## Reading a switch -/

/-- The words for the two truth values. -/
def boolWord (b : Bool) : String :=
  if b then "true" else "false"

/-- The truth value that a word names, in lower case only. -/
def switchWord? (word : String) : Option Bool :=
  if word = "true" then some true else if word = "false" then some false else none

lemma switchWord?_eq_some_iff {word : String} {b : Bool} :
    switchWord? word = some b ↔ word = boolWord b := by
  unfold switchWord? boolWord
  by_cases htrue : word = "true"
  · cases b <;> simp [htrue]
  · by_cases hfalse : word = "false"
    · cases b <;> simp [hfalse]
    · cases b <;> simp [htrue, hfalse]

lemma bool?_boolWord (b : Bool) : bool? (boolWord b) = some b := by
  cases b with
  | false => decide
  | true => decide

lemma bool?_of_isFlagLike {token : String} (h : isFlagLike token = true) : bool? token = none := by
  obtain ⟨c, cs, hchars, -⟩ := isFlagLike_iff.mp h
  have hhead : token.toList.map Char.toLower = '-' :: (c :: cs).map Char.toLower := by
    rw [hchars]
    rfl
  simp [bool?, hhead]

/-- In an accepted invocation the word behind `-enable` is read as it is written: a flag there is no
truth value, and data there belongs to the enumeration. -/
lemma bool?_eq_switchWord? {tokens tail : List String} {word : String}
    (h : validate profileEntry.spec tokens = .ok)
    (hafter : after? tokens "-enable" = some (word :: tail)) :
    bool? word = switchWord? word := by
  cases hswitch : switchWord? word with
  | some b => rw [switchWord?_eq_some_iff.mp hswitch, bool?_boolWord]
  | none =>
      -- Otherwise the word is a flag, or it is in the run that validation has checked.
      cases hflag : isFlagLike word with
      | true => exact bool?_of_isFlagLike hflag
      | false =>
          obtain ⟨before, hargs, -⟩ := after?_eq_some_iff.mp hafter
          have hfirst : profileEntry.spec.FirstDeclared "-enable" ⟨"-enable", "true|false"⟩ :=
            option?_eq_some_iff.mp (by decide +kernel)
          have hcompiled : (OptionSpec.mk "-enable" "true|false").compiled
              = .enumeration [boolWord true, boolWord false] := by decide +kernel
          have haccepts := accepts_run_of_ok h (by decide) hfirst hargs
          rw [hcompiled, List.takeWhile_cons_of_pos (by simp [hflag]), Constraint.accepts,
            List.all_cons, Bool.and_eq_true, List.contains_iff_mem, List.mem_pair] at haccepts
          obtain ⟨b, hword⟩ : ∃ b, word = boolWord b :=
            haccepts.1.elim (fun h => ⟨true, h⟩) fun h => ⟨false, h⟩
          rw [switchWord?_eq_some_iff.mpr hword] at hswitch
          exact absurd hswitch (by simp)

/-- Settings with a switch made, if there is one. -/
def Settings.switched (s : Settings) (switch : Option Bool) : Settings :=
  { s with profile := switch.getD s.profile }

lemma settings_profile {call : Call} (h : validate profileEntry.spec call.tokens = .ok) :
    (Builtin.profile call).settings
      = call.settings.switched
        ((after? call.tokens "-enable").bind fun rest => rest.head?.bind switchWord?) := by
  unfold Builtin.profile
  cases hafter : after? call.tokens "-enable" with
  | none => simp [getBool, getValue, hafter, Settings.switched]
  | some rest =>
      cases rest with
      | nil => simp [getBool, getValue_of_last hafter, Settings.switched]
      | cons word tail =>
          have hword := bool?_eq_switchWord? h hafter
          simp only [getBool, getValue, hafter, hword, Option.bind_some, List.head?_cons]
          cases switchWord? word with
          | none => rfl
          | some b => rfl

/-! ## Switches -/

/-- The value to which an invocation switches reporting: that of the word right behind the first
`-enable`, if the invocation is one of `profile` that validation accepts. -/
def profileSwitchOf? (tokens : List String) : Option Bool :=
  if tokens.head? = some "profile" ∧ validate profileEntry.spec tokens = .ok then
    (after? tokens "-enable").bind fun rest => rest.head?.bind switchWord?
  else none

lemma profileSwitchOf?_eq_some_iff {tokens : List String} {b : Bool} :
    profileSwitchOf? tokens = some b
      ↔ ∃ before rest, tokens = "profile" :: (before ++ "-enable" :: boolWord b :: rest)
        ∧ "-enable" ∉ before ∧ validate profileEntry.spec tokens = .ok := by
  unfold profileSwitchOf?
  constructor
  · intro h
    split_ifs at h with hprofile
    obtain ⟨hhead, hok⟩ := hprofile
    obtain ⟨rest, hafter, hrest⟩ := Option.bind_eq_some_iff.mp h
    obtain ⟨word, hword, hswitch⟩ := Option.bind_eq_some_iff.mp hrest
    obtain ⟨before, hargs, hfirst⟩ := after?_eq_some_iff.mp hafter
    obtain ⟨args, rfl⟩ := List.head?_eq_some_iff.mp hhead
    obtain ⟨tail, rfl⟩ := List.head?_eq_some_iff.mp hword
    obtain rfl := switchWord?_eq_some_iff.mp hswitch
    obtain rfl : args = before ++ "-enable" :: boolWord b :: tail := hargs
    exact ⟨before, tail, rfl, hfirst, hok⟩
  · rintro ⟨before, rest, rfl, hfirst, hok⟩
    have hafter : after? ("profile" :: (before ++ "-enable" :: boolWord b :: rest)) "-enable"
        = some (boolWord b :: rest) := after?_of_first rfl hfirst
    rw [if_pos ⟨rfl, hok⟩, hafter]
    exact switchWord?_eq_some_iff.mpr rfl

/-- The value to which a command line switches reporting. -/
def profileSwitch? (line : String) : Option Bool :=
  (lineTokens? line).bind profileSwitchOf?

namespace Dispatcher

variable {d : Dispatcher}

/-! ## Invocations -/

/-- What one invocation does to the settings. -/
theorem settings_execute (hd : OnlyProfileSwitches d.registry) (tokens : List String) :
    (d.execute tokens).dispatcher.settings = d.settings.switched (profileSwitchOf? tokens) := by
  rcases d.idle_or_runsOnce tokens with hidle | ⟨name, rest, e, rfl, he, hok, hruns⟩
  · have hnone : profileSwitchOf? tokens = none := by
      rw [Option.eq_none_iff_forall_ne_some]
      intro b hb
      obtain ⟨before, rest, rfl, -, hok⟩ := profileSwitchOf?_eq_some_iff.mp hb
      exact hidle.not_runsOnce (runsOnce_of_ok hd.profile hok)
    rw [hidle.unchanged, hnone]
    rfl
  · rw [hruns.settings]
    by_cases hname : name = "profile"
    · subst hname
      obtain rfl := he.unique hd.profile
      rw [profileSwitchOf?, if_pos ⟨rfl, hok⟩]
      exact settings_profile hok
    · have hnone : profileSwitchOf? (name :: rest) = none := by simp [profileSwitchOf?, hname]
      rw [hnone]
      exact hd.others he hname _

/-- A handler that changes the settings succeeds. -/
theorem settings_execute_of_not_completed (hd : OnlyProfileSwitches d.registry)
    {tokens : List String}
    (h : ∀ command output report,
      (d.execute tokens).result ≠ .ok (.completed command output report)) :
    (d.execute tokens).dispatcher.settings = d.settings := by
  rcases d.idle_or_runsOnce tokens with hidle | ⟨name, rest, e, rfl, he, hok, hruns⟩
  · rw [hidle.unchanged]
  · rw [hruns.settings]
    by_cases hname : name = "profile"
    · subst hname
      obtain rfl := he.unique hd.profile
      obtain ⟨report, hresult⟩ := hruns.completed _ rfl
      exact absurd hresult (h _ _ _)
    · exact hd.others he hname _

/-! ## Lines -/

/-- The dispatcher after command lines, each of which is given to it whatever became of those
before. -/
def feed (d : Dispatcher) (lines : List String) : Dispatcher :=
  lines.foldl (fun d line => (d.executeLine line).dispatcher) d

lemma registry_executeLine (d : Dispatcher) (line : String) :
    (d.executeLine line).dispatcher.registry = d.registry := by
  cases htokens : lineTokens? line with
  | none => rw [executeLine_of_no_tokens htokens]
  | some tokens => rw [executeLine_of_tokens htokens, registry_execute]

lemma settings_executeLine (hd : OnlyProfileSwitches d.registry) (line : String) :
    (d.executeLine line).dispatcher.settings = d.settings.switched (profileSwitch? line) := by
  rw [profileSwitch?]
  cases htokens : lineTokens? line with
  | none => rw [executeLine_of_no_tokens htokens]; rfl
  | some tokens => rw [executeLine_of_tokens htokens, settings_execute hd]; rfl

lemma registry_feed (d : Dispatcher) (lines : List String) : (d.feed lines).registry = d.registry := by
  induction lines generalizing d with
  | nil => rfl
  | cons line lines ih =>
      rw [feed, List.foldl_cons, ← feed, ih, registry_executeLine]

lemma settings_feed (hd : OnlyProfileSwitches d.registry) (lines : List String) :
    (d.feed lines).settings
      = { d.settings with
          profile := lines.foldl (fun p line => (profileSwitch? line).getD p) d.settings.profile } := by
  induction lines generalizing d with
  | nil => rfl
  | cons line lines ih =>
      have hnext : OnlyProfileSwitches (d.executeLine line).dispatcher.registry := by
        rwa [registry_executeLine]
      rw [feed, List.foldl_cons, ← feed, ih hnext, settings_executeLine hd]
      rfl

lemma settings_executeLine_of_not_completed (hd : OnlyProfileSwitches d.registry) {line : String}
    (h : ∀ command output report,
      (d.executeLine line).result ≠ .ok (some (.completed command output report))) :
    (d.executeLine line).dispatcher.settings = d.settings := by
  cases htokens : lineTokens? line with
  | none => rw [executeLine_of_no_tokens htokens]
  | some tokens =>
      rw [executeLine_of_tokens htokens] at h ⊢
      refine settings_execute_of_not_completed hd fun command output report hresult => ?_
      exact h command output report (by rw [hresult]; rfl)

/-- **Settings over a session.**  Whatever the manifest declares and whatever the lines are, the
noise floor stays, and whether commands are reported changes by the switches of the lines, one after
the other.  A line is a switch if it is an accepted invocation of `profile` with `true` or `false`
right behind the first `-enable`; a line that fails, is turned away or shows help never is. -/
theorem settings_after_lines {m : Manifest} {r : Registry Handler} {notices : List Notice}
    (h : m.registry = .ok (r, notices)) {d : Dispatcher} (hd : d.registry = r)
    (lines : List String) :
    (d.feed lines).settings
        = { d.settings with
            profile :=
              lines.foldl (fun p line => (profileSwitch? line).getD p) d.settings.profile }
      ∧ (∀ line b, profileSwitch? line = some b
        ↔ ∃ before rest,
          lineTokens? line = some ("profile" :: (before ++ "-enable" :: boolWord b :: rest))
          ∧ "-enable" ∉ before
          ∧ validate profileEntry.spec ("profile" :: (before ++ "-enable" :: boolWord b :: rest))
            = .ok)
      ∧ ∀ line, (∀ command output report, ((d.feed lines).executeLine line).result
          ≠ .ok (some (.completed command output report))) →
        ((d.feed lines).executeLine line).dispatcher.settings = (d.feed lines).settings := by
  have hprofile : OnlyProfileSwitches d.registry := by
    rw [hd]
    exact onlyProfileSwitches_of_registry h
  refine ⟨settings_feed hprofile lines, fun line b => ?_, fun line hline => ?_⟩
  · rw [profileSwitch?, Option.bind_eq_some_iff]
    constructor
    · rintro ⟨tokens, htokens, hswitch⟩
      obtain ⟨before, rest, rfl, hfirst, hok⟩ := profileSwitchOf?_eq_some_iff.mp hswitch
      exact ⟨before, rest, htokens, hfirst, hok⟩
    · rintro ⟨before, rest, htokens, hfirst, hok⟩
      exact ⟨_, htokens, profileSwitchOf?_eq_some_iff.mpr ⟨before, rest, rfl, hfirst, hok⟩⟩
  · refine settings_executeLine_of_not_completed ?_ hline
    rwa [registry_feed]

/-- A manifest with a command named `profile` of its own, and lines that switch, that look as if
they did, and that have nothing to do with it. -/
theorem settings_after_lines_shadowed :
    let m : Manifest :=
      { commands := [⟨"profile", "-enable <string>", some "noop"⟩, ⟨"cell", "<name>", none⟩] }
    let lines := ["profile -enable false", "profile -enable TRUE", "cell u1", "profile -h",
      "profile -enable -enable true", "nope", "# profile -enable true"]
    ∃ r notices, m.registry = .ok (r, notices)
      ∧ (feed { registry := r, settings := {} } lines).settings
        = { profile := false, noiseFloor := 10 } := by
  intro m lines
  have hsome : m.registry.toOption.isSome = true := by decide +kernel
  obtain ⟨⟨r, notices⟩, h⟩ : ∃ result, m.registry = .ok result := by
    cases hregistry : m.registry with
    | error e =>
        rw [hregistry] at hsome
        exact absurd hsome (by simp [Except.toOption])
    | ok result => exact ⟨result, rfl⟩
  have hfold : lines.foldl (fun p line => (profileSwitch? line).getD p) true = false := by
    decide +kernel
  have hd : (Dispatcher.mk r {} {} 0 0 fun _ => {}).registry = r := rfl
  obtain ⟨hsettings, -, -⟩ := settings_after_lines h hd lines
  refine ⟨r, notices, h, hsettings.trans ?_⟩
  rw [hfold]

end Dispatcher

end Optline
