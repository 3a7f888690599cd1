import Optline.Proofs.Breakdown
import Optline.Proofs.Registration

/-!
# Notices of a registration

Whatever a specification asks for, a command with a name is registered; what the text does not get as it
was written is told in notices.  They arise while the text is read, and this file says what they are by
what has come of the text: by its compiled constraints, and by how its tokens break down.

* `Constraint.defects` — what is wrong with a compiled constraint.
* `dueNotices` — the notices that a registration calls for after others.
* `notices_compile` — what is told while a text is read is what is wrong with what has come of it.
* `notices_registerEach` — what each command of a run is told, by the commands in front of it.
* `IsTakenWhole` — texts that leave nothing to be told.
* **`registrations_are_reported`** — these are the notices that are due, and a command without any has
  all that its text declares.
-/

namespace Optline

open Text

/-! ## What is wrong -/

/-- The name that a slot takes for a type although it is none. -/
def Slot.unknownType? : Slot → Option String
  | .typed (.unknown name) => some name
  | _ => none

/-- What is wrong with a compiled constraint of a given text: it is malformed, or some of its slots are
of types that do not exist. -/
def Constraint.defects (text : String) : Constraint → List Notice
  | .malformed => [.openConstraint text]
  | .sequence slots => (slots.filterMap Slot.unknownType?).map fun name => .unknownType name text
  | _ => []

/-- What is wrong with an option. -/
def OptionSpec.defects (o : OptionSpec) : List Notice :=
  o.compiled.defects (trimmed o.constraint)

section

variable {η : Type}

/-- The notices that the registration of a command calls for after others: about the first of those with
the same name, an open group, the options in their order, and a minus to no purpose. -/
def dueNotices (earlier : List (String × String × η)) (name raw : String) : List Notice :=
  ((earlier.find? (·.1 == name)).map fun first => .duplicateCommand name first.2.1 raw).toList
    ++ (if 0 < openBraces raw then [.openSpec raw] else [])
    ++ (CommandSpec.compile name raw).options.flatMap OptionSpec.defects
    ++ bif (Breakdown.ofTokens (splitSpec raw)).endsInMinus then [.danglingMinus raw] else []

end

/-! ## The text of a command -/

lemma notice?_eq (text : String) (slot : Slot) :
    slot.notice? text = slot.unknownType?.map fun name => .unknownType name text := by
  cases slot with
  | typed type => cases type <;> rfl
  | literal spellings => rfl

lemma notices_ofWords (text : String) (words : List String) :
    (Constraint.ofWords text words).2 = (Constraint.ofWords text words).1.defects text := by
  have hslots : ∀ slots : List Slot, slots.filterMap (Slot.notice? text)
      = (Constraint.sequence slots).defects text := by
    intro slots
    rw [Constraint.defects, List.map_filterMap, funext (notice?_eq text)]
  unfold Constraint.ofWords
  split
  next word =>
    split_ifs
    · rfl
    · rw [← hslots, List.filterMap_cons, List.filterMap_nil]
      cases Slot.notice? text (Slot.ofWord word) <;> rfl
    · rfl
  · exact hslots _

/-- The notices of a constraint can be read off its compiled form. -/
lemma notices_read (raw : String) :
    (Constraint.read raw).2 = (Constraint.compile raw).defects (trimmed raw) := by
  unfold Constraint.compile Constraint.read
  dsimp only
  split
  · rfl
  · split_ifs <;> rfl
  · exact notices_ofWords _ _

/-- A minus to no purpose is found where the breakdown of the tokens has one. -/
lemma contains_danglingMinus (b : Breakdown) :
    (marks b.tokens).contains .danglingMinus = b.endsInMinus := by
  induction b using Breakdown.parts_induction with
  | bare d => cases d <;> rfl
  | word w h b ih =>
      rw [Breakdown.tokens_consWord, marks_cons_word h, List.contains_cons, ih]
      rfl
  | opener o b ih =>
      rw [Breakdown.tokens_consOpener, Breakdown.marks_append_opener, List.contains_cons, ih]
      rfl

/-- What is told while a text is read is what is wrong with what has come of it. -/
theorem notices_compile (name raw : String) :
    (CommandSpec.read name raw).2
      = (if 0 < openBraces raw then [.openSpec raw] else [])
        ++ (CommandSpec.compile name raw).options.flatMap OptionSpec.defects
        ++ bif (Breakdown.ofTokens (splitSpec raw)).endsInMinus then [.danglingMinus raw] else [] := by
  have hminus := contains_danglingMinus (Breakdown.ofTokens (splitSpec raw))
  rw [Breakdown.tokens_ofTokens] at hminus
  have hdangling : danglingNotices raw
      = bif (Breakdown.ofTokens (splitSpec raw)).endsInMinus then [.danglingMinus raw] else [] := by
    rw [danglingNotices, hminus, Bool.cond_eq_ite]
  have hoptions : (fun o : OptionSpec => (Constraint.read o.constraint).2) = OptionSpec.defects :=
    funext fun o => notices_read o.constraint
  rw [← hdangling, ← hoptions]
  rfl

/-! ## One registration after the other -/

namespace Registry

variable {η : Type} {cs : List (String × String × η)}

/-- The registry of commands that are registered in their order. -/
def ofCommands (cs : List (String × String × η)) : Registry η :=
  ⟨cs.map fun c => ⟨CommandSpec.compile c.1 c.2.1, c.2.2⟩⟩

lemma duplicateNotices_ofCommands (cs : List (String × String × η)) (name raw : String) :
    (ofCommands cs).duplicateNotices name raw
      = ((cs.find? (·.1 == name)).map fun first => .duplicateCommand name first.2.1 raw).toList := by
  have hlookup : (ofCommands cs).lookup? name
      = (cs.find? (·.1 == name)).map fun c => ⟨CommandSpec.compile c.1 c.2.1, c.2.2⟩ :=
    List.find?_map ..
  rw [duplicateNotices, hlookup]
  cases cs.find? (·.1 == name) <;> rfl

/-- One more command behind others: it stands at the end, and what is told is what is due. -/
lemma register_ofCommands {name : String} (h : isBlankText name = false)
    (cs : List (String × String × η)) (raw : String) (handler : η) :
    (ofCommands cs).register name raw handler
      = .ok (ofCommands (cs ++ [(name, raw, handler)]), dueNotices cs name raw) := by
  have hentries : (ofCommands cs).append ⟨CommandSpec.compile name raw, handler⟩
      = ofCommands (cs ++ [(name, raw, handler)]) := by
    simp [append, ofCommands]
  rw [← hentries, dueNotices, ← duplicateNotices_ofCommands, List.append_assoc, List.append_assoc,
    ← List.append_assoc (if 0 < openBraces raw then _ else _), ← notices_compile, register, h]
  rfl

/-- Every command of a run meets the commands in front of it, and those before the run. -/
theorem notices_registerEach (h : ∀ c ∈ cs, isBlankText c.1 = false)
    (earlier : List (String × String × η)) :
    ∃ notices, (ofCommands earlier).registerEach cs = .ok (ofCommands (earlier ++ cs), notices)
      ∧ notices.length = cs.length
      ∧ ∀ before name raw handler after, cs = before ++ (name, raw, handler) :: after →
        notices[before.length]? = some (dueNotices (earlier ++ before) name raw) := by
  induction cs generalizing earlier with
  | nil => exact ⟨[], by simp [registerEach], rfl, by simp⟩
  | cons c cs ih =>
      obtain ⟨name, raw, handler⟩ := c
      obtain ⟨hnamed, hrest⟩ := List.forall_mem_cons.mp h
      obtain ⟨notices, heach, hlength, hnotices⟩ := ih hrest (earlier ++ [(name, raw, handler)])
      refine ⟨dueNotices earlier name raw :: notices, ?_, by simp [hlength], ?_⟩
      · rw [registerEach, register_ofCommands hnamed]
        simp only [heach, Except.map, List.append_assoc, List.singleton_append]
      · intro before name' raw' handler' after hsplit
        cases before with
        | nil =>
            obtain ⟨⟨rfl, rfl, rfl⟩, rfl⟩ : (name = name' ∧ raw = raw' ∧ handler = handler')
              ∧ cs = after := by simpa using hsplit
            simp
        | cons b before =>
            obtain ⟨rfl, rfl⟩ := List.cons_eq_cons.mp hsplit
            simpa using hnotices before name' raw' handler' after rfl

end Registry

/-! ## Nothing to tell -/

/-- Whether a specification has a use for each token of a list: it is a word of the positional
arguments, the opener of an option or a word of its constraint. -/
def CommandSpec.Keeps (spec : CommandSpec) (tokens : List String) : Prop :=
  ∃ (lead : List String) (options : List OptionTokens), (∀ w ∈ lead, IsWord w)
    ∧ tokens = lead ++ options.flatMap OptionTokens.tokens
    ∧ spec.argumentPattern = unwords lead ∧ spec.options = options.map OptionTokens.spec

/-- A text of which a command has all that it declares: no constraint is malformed, every type that
a slot names exists, and every token has its use. -/
structure IsTakenWhole (name raw : String) : Prop where
  wellFormed : ∀ o ∈ (CommandSpec.compile name raw).options, o.compiled ≠ .malformed
  known : ∀ o ∈ (CommandSpec.compile name raw).options, ∀ slots, o.compiled = .sequence slots →
    ∀ type, Slot.typed (.unknown type) ∉ slots
  kept : (CommandSpec.compile name raw).Keeps (splitSpec raw)

lemma unknownType?_eq_some_iff {slot : Slot} {name : String} :
    slot.unknownType? = some name ↔ slot = .typed (.unknown name) := by
  cases slot with
  | typed type => cases type <;> simp [Slot.unknownType?]
  | literal spellings => simp [Slot.unknownType?]

lemma defects_eq_nil_iff {text : String} {constraint : Constraint} :
    constraint.defects text = [] ↔ constraint ≠ .malformed
      ∧ ∀ slots, constraint = .sequence slots → ∀ type, Slot.typed (.unknown type) ∉ slots := by
  cases constraint with
  | sequence slots =>
      have hunknown : (∀ slot ∈ slots, slot.unknownType? = none)
          ↔ ∀ type, Slot.typed (.unknown type) ∉ slots := by
        simp only [Option.eq_none_iff_forall_ne_some, ne_eq, unknownType?_eq_some_iff]
        exact ⟨fun h type hmem => h _ hmem type rfl, fun h slot hmem type heq => h type (heq ▸ hmem)⟩
      simp [Constraint.defects, hunknown]
  | _ => simp [Constraint.defects]

/-- Every token is kept unless the last one is a minus to no purpose. -/
lemma keeps_iff (name raw : String) :
    (CommandSpec.compile name raw).Keeps (splitSpec raw)
      ↔ (Breakdown.ofTokens (splitSpec raw)).endsInMinus = false := by
  constructor
  · rintro ⟨lead, options, hlead, htokens, -, -⟩
    have hbreakdown : (Breakdown.mk lead options false hlead).tokens = splitSpec raw := by
      simp [Breakdown.tokens, htokens]
    rw [← hbreakdown, Breakdown.ofTokens_tokens]
  · intro h
    have htokens := Breakdown.tokens_ofTokens (splitSpec raw)
    have hparts := Breakdown.readParts_eq htokens
    refine ⟨_, _, (Breakdown.ofTokens (splitSpec raw)).lead_data, ?_, congrArg Prod.fst hparts,
      congrArg Prod.snd hparts⟩
    rw [Breakdown.tokens, h] at htokens
    simpa using htokens.symm

variable {η : Type}

/-- When nothing is due: the name is new, no group is open, and the text is taken whole. -/
lemma dueNotices_eq_nil_iff {earlier : List (String × String × η)} {name raw : String} :
    dueNotices earlier name raw = []
      ↔ (∀ c ∈ earlier, c.1 ≠ name) ∧ openBraces raw = 0 ∧ IsTakenWhole name raw := by
  have hdefects : (CommandSpec.compile name raw).options.flatMap OptionSpec.defects = []
      ↔ ∀ o ∈ (CommandSpec.compile name raw).options, o.compiled ≠ .malformed
        ∧ ∀ slots, o.compiled = .sequence slots → ∀ type, Slot.typed (.unknown type) ∉ slots := by
    rw [List.flatMap_eq_nil_iff]
    exact forall₂_congr fun o _ => defects_eq_nil_iff
  have hminus : (bif (Breakdown.ofTokens (splitSpec raw)).endsInMinus then
      [Notice.danglingMinus raw] else []) = []
      ↔ (Breakdown.ofTokens (splitSpec raw)).endsInMinus = false := by
    cases (Breakdown.ofTokens (splitSpec raw)).endsInMinus <;> simp
  rw [dueNotices, List.append_eq_nil_iff, List.append_eq_nil_iff, List.append_eq_nil_iff, hdefects,
    hminus, ← keeps_iff name raw]
  constructor
  · rintro ⟨⟨⟨hnew, hopen⟩, hoptions⟩, hkept⟩
    exact ⟨by simpa using hnew, by simpa using hopen,
      ⟨fun o ho => (hoptions o ho).1, fun o ho => (hoptions o ho).2, hkept⟩⟩
  · rintro ⟨hnew, hopen, hwhole⟩
    exact ⟨⟨⟨by simpa using hnew, by simp [hopen]⟩,
      fun o ho => ⟨hwhole.wellFormed o ho, hwhole.known o ho⟩⟩, hwhole.kept⟩

/-- **Nothing is read in a weaker way without a notice.**  When commands with names are registered one
after the other, from none on, each registration is told the notices that are due after those before
it, and no others.  There are none if and only if the name is new, no group of the text is open, and
all that the text declares is taken: no constraint is malformed, no slot is of an unknown type, and no
token is lost. -/
theorem registrations_are_reported {cs : List (String × String × η)}
    (h : ∀ c ∈ cs, isBlankText c.1 = false) :
    ∃ r notices, (Registry.mk []).registerEach cs = .ok (r, notices)
      ∧ r.entries = cs.map (fun c => ⟨CommandSpec.compile c.1 c.2.1, c.2.2⟩)
      ∧ notices.length = cs.length
      ∧ ∀ before name raw handler after, cs = before ++ (name, raw, handler) :: after →
        notices[before.length]? = some (dueNotices before name raw)
        ∧ (Breakdown.ofTokens (splitSpec raw)).tokens = splitSpec raw
        ∧ (dueNotices before name raw = []
          ↔ (∀ c ∈ before, c.1 ≠ name) ∧ openBraces raw = 0 ∧ IsTakenWhole name raw) := by
  obtain ⟨notices, heach, hlength, hnotices⟩ := Registry.notices_registerEach h []
  refine ⟨Registry.ofCommands cs, notices, heach, rfl, hlength, ?_⟩
  intro before name raw handler after hsplit
  exact ⟨hnotices before name raw handler after hsplit, Breakdown.tokens_ofTokens _,
    dueNotices_eq_nil_iff⟩

/-- The second of two commands of one name.  Of the types that it names one does not exist, one of its
constraints goes on behind its braces, and of the minuses at its end the first promotes the second and
the last promotes nothing. -/
theorem registrations_are_reported_shadowed :
    (∀ c ∈ [("draw", "<x> <y>", 0), ("draw", "<x> -color <hue> <int> -mode \x7ba\x7db - - -", 1)],
        isBlankText c.1 = false)
      ∧ ∃ r notices, (Registry.mk []).registerEach
          [("draw", "<x> <y>", 0), ("draw", "<x> -color <hue> <int> -mode \x7ba\x7db - - -", 1)]
          = .ok (r, notices)
        ∧ r.entries.length = 2
        ∧ notices[0]? = some []
        ∧ notices[1]? = some
          [.duplicateCommand "draw" "<x> <y>" "<x> -color <hue> <int> -mode \x7ba\x7db - - -",
            .unknownType "hue" "<hue> <int>", .openConstraint "\x7ba\x7db",
            .danglingMinus "<x> -color <hue> <int> -mode \x7ba\x7db - - -"] := by
  have hnamed : ∀ c ∈ [("draw", "<x> <y>", 0),
      ("draw", "<x> -color <hue> <int> -mode \x7ba\x7db - - -", 1)], isBlankText c.1 = false := by
    decide +kernel
  obtain ⟨r, notices, heach, hentries, -, hnotices⟩ := registrations_are_reported hnamed
  refine ⟨hnamed, r, notices, heach, by rw [hentries]; rfl, ?_, ?_⟩
  · refine (hnotices [] _ _ _ _ rfl).1.trans ?_
    decide +kernel
  · refine (hnotices [_] _ _ _ _ rfl).1.trans ?_
    decide +kernel

end Optline
