import Optline.Builtin
import Optline.Proofs.Access

/-!
# The handler that describes its invocation

`describe` asks every declared option that is given for its value, with the accessor that fits its
constraint, and fails where an accessor fails.  An accepted invocation ought to be enough for it to
succeed.  Three things stand in the way: an integer of any size passes validation, and the accessor
reads 64 bits; the literal `{}` passes without a word, and the accessor wants a token; and an option
behind another one with the same flag, or with a flag that is data to validation, is not checked at
all and still asked for.

* `Readable` — what an accessor needs to find behind a flag.
* `Misread` — the options of an accepted invocation whose value cannot be read.
* **`describe_completes_iff`** — an accepted invocation is described if and only if there is none.
-/

namespace Optline

open Invocation

/-! ## Success -/

lemma exists_map_eq_ok_iff {ε α β : Type} {g : α → β} {e : Except ε α} :
    (∃ y, e.map g = .ok y) ↔ ∃ x, e = .ok x := by
  cases e with
  | error e => simp [Except.map]
  | ok x => simp [Except.map]

lemma exists_mapM_eq_ok_iff {ε α β : Type} {f : α → Except ε β} {xs : List α} :
    (∃ ys, xs.mapM f = .ok ys) ↔ ∀ x ∈ xs, ∃ y, f x = .ok y := by
  induction xs with
  | nil => simp [pure, Except.pure]
  | cons x xs ih =>
      rw [List.mapM_cons, List.forall_mem_cons, ← ih]
      cases f x with
      | error e => simp [bind, Except.bind]
      | ok y =>
          cases xs.mapM f with
          | error e => simp [bind, Except.bind]
          | ok ys => simp [bind, Except.bind, pure, Except.pure]

namespace Invocation

section

variable {tokens rest : List String} {flag : String}

lemma exists_getValue_iff {α : Type} {wanted : Wanted} {read? : String → Option α}
    (h : after? tokens flag = some rest) :
    (∃ value, getValue wanted read? tokens flag = .ok value)
      ↔ ∃ token value, rest.head? = some token ∧ read? token = some value := by
  cases rest with
  | nil => simp [getValue_of_last h]
  | cons token rest =>
      cases hread : read? token with
      | none => simp [getValue_of_none h hread, hread]
      | some value => simp [getValue_of_some h hread, hread]

lemma exists_getString_iff (h : after? tokens flag = some rest) :
    (∃ text, getString tokens flag = .ok text) ↔ rest ≠ [] := by
  cases rest with
  | nil => simp [getString_of_last h]
  | cons token rest => simp [getString_of_after h]

end

end Invocation

/-! ## One option -/

/-- Whether the tokens behind a flag hold what the accessor for its constraint reads.  To reduce it
for an option would mean to compile the text of the constraint. -/
@[irreducible]
def Readable (rest : List String) : Constraint → Prop
  | .empty => True
  | .enumeration _ => True
  | .sequence [.typed .int] => ∃ token n, rest.head? = some token ∧ int64? token = some n
  | .sequence [.typed .double] => ∃ token, rest.head? = some token ∧ isDecimalText token = true
  | .sequence [.typed .float] => ∃ token, rest.head? = some token ∧ isDecimalText token = true
  | _ => rest ≠ []

lemma exists_readDecimal_iff {α : Type} {read? : String → Option α} {rest : List String}
    (h : ∀ {text}, isDecimalText text = true → ∃ x, read? text = some x) :
    (∃ token x, rest.head? = some token
        ∧ (if isDecimalText token then read? token else none) = some x)
      ↔ ∃ token, rest.head? = some token ∧ isDecimalText token = true := by
  constructor
  · rintro ⟨token, x, hhead, hx⟩
    split_ifs at hx with htoken
    exact ⟨token, hhead, htoken⟩
  · rintro ⟨token, hhead, htoken⟩
    obtain ⟨x, hx⟩ := h htoken
    exact ⟨token, x, hhead, by rw [if_pos htoken, hx]⟩

/-- The value of a given option is described if and only if it can be read. -/
theorem exists_describedValue_iff {tokens rest : List String} {o : OptionSpec}
    (h : after? tokens o.flag = some rest) :
    (∃ text, Builtin.describedValue tokens o = .ok text) ↔ Readable rest o.compiled := by
  unfold Builtin.describedValue
  split
  next hc => simp [hc, Readable]
  next hc =>
    rw [hc, exists_map_eq_ok_iff, getInt, exists_getValue_iff h, Readable]
  next hc =>
    rw [hc, exists_map_eq_ok_iff, getDouble, exists_getValue_iff h, Readable]
    exact exists_readDecimal_iff exists_read64?
  next hc =>
    rw [hc, exists_map_eq_ok_iff, getFloat, exists_getValue_iff h, Readable]
    exact exists_readDecimal_iff exists_read32?
  next hc =>
    rw [hc]
    cases getString tokens o.flag <;> simp [Readable]
  next hempty hint hdouble hfloat henum =>
    rw [exists_getString_iff h, Readable] <;> assumption

/-- What validation accepts can be read, apart from an empty literal without a token and from an
integer of more than 64 bits. -/
theorem eq_of_accepts_of_not_readable {rest : List String} {c : Constraint}
    (h : c.accepts (rest.takeWhile (!isFlagLike ·)) = true) (hc : c ≠ .sequence [])
    (hread : ¬ Readable rest c) :
    (c = .literal "" ∧ rest = [])
      ∨ (c = .sequence [.typed .int] ∧ ∃ token tail n, rest = token :: tail
          ∧ Decimal.integer? token = some n ∧ (n < -2 ^ 63 ∨ 2 ^ 63 ≤ n)) := by
  fun_cases Readable rest c
  case case1 => simp [Readable] at hread
  case case2 => simp [Readable] at hread
  case case3 =>
    rw [Readable] at hread
    obtain ⟨token, tail, rfl, -, htoken⟩ := exists_token_of_accepts h
    obtain ⟨n, hn⟩ := isIntegerText_iff.mp htoken
    refine Or.inr ⟨rfl, token, tail, n, rfl, hn, ?_⟩
    have hwide : ¬ (-2 ^ 63 ≤ n ∧ n < 2 ^ 63) := by
      rw [← exists_int64?_iff hn]
      rintro ⟨m, hm⟩
      exact hread ⟨token, m, rfl, hm⟩
    omega
  case case4 =>
    rw [Readable] at hread
    obtain ⟨token, tail, rfl, -, htoken⟩ := exists_token_of_accepts h
    exact absurd ⟨token, rfl, htoken⟩ hread
  case case5 =>
    rw [Readable] at hread
    obtain ⟨token, tail, rfl, -, htoken⟩ := exists_token_of_accepts h
    exact absurd ⟨token, rfl, htoken⟩ hread
  case case6 hempty henum _ _ _ =>
    -- Here any token would do, so what is left are the constraints that pass without one.
    rw [Readable] at hread <;> try assumption
    obtain rfl : rest = [] := not_not.mp hread
    rcases Constraint.accepts_nil_iff.mp h with rfl | rfl | ⟨spellings, rfl⟩ | rfl
    · exact absurd rfl hempty
    · exact Or.inl ⟨rfl, rfl⟩
    · exact absurd rfl (henum spellings)
    · exact absurd rfl hc

/-! ## Options of an accepted invocation -/

/-- The options whose value cannot be read although the invocation is accepted. -/
inductive Misread (spec : CommandSpec) (tokens : List String) (o : OptionSpec) : Prop
  /-- The token behind the flag is an integer of more than 64 bits. -/
  | wideInteger {token : String} {rest : List String} {n : Int}
      (hafter : after? tokens o.flag = some (token :: rest))
      (hc : o.compiled = .sequence [.typed .int]) (hn : Decimal.integer? token = some n)
      (hwide : n < -2 ^ 63 ∨ 2 ^ 63 ≤ n) : Misread spec tokens o
  /-- The literal is empty, and nothing stands behind the flag. -/
  | emptyLiteral (hafter : after? tokens o.flag = some []) (hc : o.compiled = .literal "") :
      Misread spec tokens o
  /-- Validation takes the flag for data or goes by another option, and what stands behind the flag
  happens not to suit this one. -/
  | unchecked {rest : List String} (hafter : after? tokens o.flag = some rest)
      (hnot : isFlagLike o.flag = false ∨ ¬ spec.FirstDeclared o.flag o)
      (hread : ¬ Readable rest o.compiled) : Misread spec tokens o

lemma Misread.exists_not_readable {spec : CommandSpec} {tokens : List String} {o : OptionSpec}
    (h : Misread spec tokens o) :
    ∃ rest, after? tokens o.flag = some rest ∧ ¬ Readable rest o.compiled := by
  cases h with
  | @wideInteger token rest n hafter hc hn hwide =>
      refine ⟨token :: rest, hafter, ?_⟩
      rw [hc, Readable]
      rintro ⟨t, m, ht, hm⟩
      obtain rfl : token = t := Option.some.inj ht
      have hbounds := (exists_int64?_iff hn).mp ⟨m, hm⟩
      omega
  | emptyLiteral hafter hc =>
      refine ⟨[], hafter, ?_⟩
      simp [hc, Readable]
  | unchecked hafter _ hread => exact ⟨_, hafter, hread⟩

lemma misread_of_not_readable {spec : CommandSpec} {tokens rest : List String} {o : OptionSpec}
    (h : validate spec tokens = .ok) (hafter : after? tokens o.flag = some rest)
    (hread : ¬ Readable rest o.compiled) : Misread spec tokens o := by
  by_cases hchecked : isFlagLike o.flag = true ∧ spec.FirstDeclared o.flag o
  · obtain ⟨before, hargs, -⟩ := after?_eq_some_iff.mp hafter
    have haccepts : o.compiled.accepts (rest.takeWhile (!isFlagLike ·)) = true :=
      accepts_run_of_ok h hchecked.1 hchecked.2 hargs
    have hslots : o.compiled ≠ .sequence [] := Constraint.compile_ne_sequence_nil _
    rcases eq_of_accepts_of_not_readable haccepts hslots hread
      with ⟨hc, rfl⟩ | ⟨hc, token, tail, n, rfl, hn, hwide⟩
    · exact .emptyLiteral hafter hc
    · exact .wideInteger hafter hc hn hwide
  · refine .unchecked hafter ?_ hread
    rwa [not_and_or, Bool.not_eq_true] at hchecked

/-! ## The handler -/

lemma exists_describe_iff {call : Call} :
    (∃ output, (Builtin.describe call).result = .ok output)
      ↔ ∀ o ∈ call.spec.options, ∀ rest, after? call.tokens o.flag = some rest →
        Readable rest o.compiled := by
  have hresult : (∃ output, (Builtin.describe call).result = .ok output)
      ↔ ∃ texts, Builtin.describedOptions call = .ok texts := by
    unfold Builtin.describe Builtin.replyWith
    cases Builtin.describedOptions call with
    | error e => simp
    | ok texts => simp
  rw [hresult, Builtin.describedOptions, exists_mapM_eq_ok_iff]
  simp only [List.mem_filter, exists_map_eq_ok_iff]
  constructor
  · intro h o ho rest hafter
    rw [← exists_describedValue_iff hafter]
    exact h o ⟨ho, isUsed_iff_after?.mpr ⟨rest, hafter⟩⟩
  · rintro h o ⟨ho, hused⟩
    obtain ⟨rest, hafter⟩ := isUsed_iff_after?.mp hused
    rw [exists_describedValue_iff hafter]
    exact h o ho rest hafter

/-- **An accepted invocation is described if and only if no option of it is misread.** -/
theorem describe_completes_iff {call : Call} (h : validate call.spec call.tokens = .ok) :
    (∃ output, (Builtin.describe call).result = .ok output)
      ↔ ∀ o ∈ call.spec.options, ¬ Misread call.spec call.tokens o := by
  rw [exists_describe_iff]
  constructor
  · intro hall o ho hmisread
    obtain ⟨rest, hafter, hread⟩ := hmisread.exists_not_readable
    exact hread (hall o ho rest hafter)
  · intro hnone o ho rest hafter
    by_contra hread
    exact hnone o ho (misread_of_not_readable h hafter hread)

/-- An integer that fits and an enumeration without a word are not misread. -/
theorem describe_completes_iff_placed :
    let call : Call :=
      { tokens := ["cell", "u1", "-layer", "-7", "-side"]
        spec := CommandSpec.compile "cell" "<name> -layer <int> -side top|bottom"
        commands := []
        settings := {} }
    validate call.spec call.tokens = .ok
      ∧ (Builtin.describe call).result = .ok "cell: <name>=u1 -layer=-7 -side="
      ∧ ∀ o ∈ call.spec.options, ¬ Misread call.spec call.tokens o := by
  intro call
  have h : validate call.spec call.tokens = .ok := by decide +kernel
  have hresult : (Builtin.describe call).result = .ok "cell: <name>=u1 -layer=-7 -side=" := by
    decide +kernel
  exact ⟨h, hresult, (describe_completes_iff h).mp ⟨_, hresult⟩⟩

/-- An accepted invocation for each kind of misread option: an integer that is too large, an empty
literal, a second option with the same flag, and a flag that begins with a digit. -/
theorem accepted_not_described :
    let call (raw : String) (tokens : List String) : Call :=
      { tokens, spec := CommandSpec.compile "c" raw, commands := [], settings := {} }
    ∀ fact ∈ [
        (call "-n <int>" ["c", "-n", "9223372036854775808"],
          "An integer value is expected for option -n, got '9223372036854775808'"),
        (call "-a {}" ["c", "-a"], "A string value is expected for option -a"),
        (call "-a <string> -a <int>" ["c", "-a", "x"],
          "An integer value is expected for option -a, got 'x'"),
        (call "- 3d <int>" ["c", "-3d", "x"],
          "An integer value is expected for option -3d, got 'x'")],
      validate fact.1.spec fact.1.tokens = .ok
        ∧ (Builtin.describe fact.1).result = .error ⟨fact.2, []⟩ := by
  decide +kernel

end Optline
