import Mathlib.Data.List.Basic
import Mathlib.Tactic.Lemma
import Optline.Display.Style

/-!
# Texts and their escape sequences

What a text is shown as is not settled by its parts alone: an escape at the end of one part and a bracket
at the beginning of the next one are a sequence together.  So parts are compared with whatever may stand
behind them.

* `EscapeFree` — a text without the escape character; it is shown as it is.
* `ShownAs` — what a text is shown as, wherever it stands.
* `ShownAs.append`, `ShownAs.intercalate` — such texts side by side.
* **`shownAs_color`** — a text in color is shown as the text.
-/

namespace Optline.Display

/-- Whether a text has no escape character. -/
def EscapeFree (text : String) : Prop :=
  '\x1b' ∉ text.toList

instance (text : String) : Decidable (EscapeFree text) :=
  inferInstanceAs (Decidable ('\x1b' ∉ text.toList))

/-- Whether `text` is shown as `shown`, and what stands behind it as if it stood alone. -/
def ShownAs (text shown : String) : Prop :=
  ∀ rest, stripFrom false (text.toList ++ rest) = shown.toList ++ stripFrom false rest

/-! ## The scan -/

lemma stripFrom_cons {c : Char} (hc : c ≠ '\x1b') (cs : List Char) :
    stripFrom false (c :: cs) = c :: stripFrom false cs := by
  rw [stripFrom]
  intro _ hescape
  exact absurd hescape hc

lemma stripFrom_sublist (inside : Bool) (cs : List Char) : (stripFrom inside cs).Sublist cs := by
  fun_induction stripFrom inside cs with
  | case1 => exact .refl _
  | case2 c cs ih => exact ih.cons c
  | case3 cs ih => exact (ih.cons '[').cons '\x1b'
  | case4 c cs _ ih => exact ih.cons_cons c

lemma mem_of_mem_stripFrom {inside : Bool} {cs : List Char} {c : Char} (h : c ∈ stripFrom inside cs) :
    c ∈ cs :=
  (stripFrom_sublist inside cs).subset h

/-- A sequence goes on up to its first letter. -/
lemma stripFrom_parameters {parameters : List Char} (h : ∀ c ∈ parameters, c.isAlpha = false)
    {final : Char} (hfinal : final.isAlpha = true) (rest : List Char) :
    stripFrom true (parameters ++ final :: rest) = stripFrom false rest := by
  induction parameters with
  | nil => simp [stripFrom, hfinal]
  | cons c parameters ih =>
      have hc : c.isAlpha = false := h c List.mem_cons_self
      simpa [stripFrom, hc] using ih fun d hd => h d (List.mem_cons_of_mem _ hd)

/-! ## What texts are shown as -/

section

variable {text text' shown shown' : String}

lemma EscapeFree.shownAs (h : EscapeFree text) : ShownAs text text := by
  intro rest
  unfold EscapeFree at h
  generalize text.toList = cs at h ⊢
  induction cs with
  | nil => rfl
  | cons c cs ih =>
      rw [List.mem_cons, not_or] at h
      rw [List.cons_append, stripFrom_cons (Ne.symm h.1), ih h.2, List.cons_append]

namespace ShownAs

lemma stripFrom_eq (h : ShownAs text shown) : stripFrom false text.toList = shown.toList := by
  have hend := h []
  rwa [List.append_nil, stripFrom, List.append_nil] at hend

lemma stripEscapes_eq (h : ShownAs text shown) : stripEscapes text = shown := by
  rw [stripEscapes, h.stripFrom_eq, String.ofList_toList]

lemma displayWidth_eq (h : ShownAs text shown) : displayWidth text = shown.length := by
  rw [displayWidth, h.stripFrom_eq, String.length_toList]

lemma append (h : ShownAs text shown) (h' : ShownAs text' shown') :
    ShownAs (text ++ text') (shown ++ shown') := by
  intro rest
  rw [String.toList_append, String.toList_append, List.append_assoc, h, h', List.append_assoc]

lemma between {left right : String} (hleft : EscapeFree left) (hright : EscapeFree right)
    (h : ShownAs text shown) : ShownAs (left ++ text ++ right) (left ++ shown ++ right) :=
  (hleft.shownAs.append h).append hright.shownAs

lemma displayWidth_between {left right : String} (hleft : EscapeFree left) (hright : EscapeFree right)
    (h : ShownAs text shown) :
    displayWidth (left ++ text ++ right) = left.length + displayWidth text + right.length := by
  rw [(h.between hleft hright).displayWidth_eq, h.displayWidth_eq, String.length_append,
    String.length_append]

lemma intercalate {sep : String} (hsep : EscapeFree sep) {texts shown : List String}
    (h : List.Forall₂ ShownAs texts shown) :
    ShownAs (sep.intercalate texts) (sep.intercalate shown) := by
  induction h with
  | nil => exact fun _ => rfl
  | cons hfirst hrest ih =>
      cases hrest with
      | nil => simpa using hfirst
      | cons _ _ =>
          rw [String.intercalate_cons_cons, String.intercalate_cons_cons]
          exact (hfirst.append hsep.shownAs).append ih

end ShownAs

lemma displayWidth_of_escapeFree (h : EscapeFree text) : displayWidth text = text.length :=
  h.shownAs.displayWidth_eq

/-! ## Color -/

lemma color_of_plain {style : Style} (h : style.useColor = false) (role : Role) (text : String) :
    color role text style = text := by
  rw [color, h]
  rfl

lemma not_isAlpha_of_mem_code {role : Role} {c : Char} (hc : c ∈ role.code.toList) :
    c.isAlpha = false := by
  have hall : role.code.toList.all (!·.isAlpha) = true := by
    cases role <;> decide
  simpa using List.all_eq_true.mp hall c hc

/-- **A text in color is shown as the text.** -/
theorem shownAs_color (h : ShownAs text shown) (role : Role) (style : Style) :
    ShownAs (color role text style) shown := by
  intro rest
  rw [color]
  split_ifs
  · have hchars : ("\x1b[" ++ role.code ++ "m" ++ text ++ "\x1b[0m").toList ++ rest
        = '\x1b' :: '[' :: (role.code.toList ++ 'm' :: (text.toList
          ++ '\x1b' :: '[' :: (['0'] ++ 'm' :: rest))) := by
      simp
    rw [hchars, stripFrom, stripFrom_parameters (fun c => not_isAlpha_of_mem_code) rfl, h, stripFrom,
      stripFrom_parameters (List.forall_mem_singleton.mpr rfl) rfl]
  · exact h rest

end

end Optline.Display
