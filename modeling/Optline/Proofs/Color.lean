import Optline.Display.Answer
import Optline.Proofs.Escapes
import Optline.Proofs.Table

/-!
# Color only adds escapes

A banner is measured when its title is colored already, so its rules could depend on color; that they do
not is `displayWidth_bannerInner`.  A table is cut to its widths first, and its lines are colored as they
are.  Reports and messages are trimmed behind their pictogram before the color is put around them.

* `escapeFree_reportText`, `escapeFree_marked` — what the library puts together from texts without escapes
  has none either.
* `shownAs_banner`, `shownAs_table`, `shownAs_answerText` — what is written in color is shown as what is
  written without.
* `IsBox`, `inColumns` — the parts of a banner, which are equally wide, and a table in given columns.
* **`color_only_adds_escapes`** — without its escapes, everything is what it is without color.
-/

namespace Optline.Display

open Text

/-! ## Texts that are put together -/

section

variable {text text' : String}

lemma escapeFree_append : EscapeFree (text ++ text') ↔ EscapeFree text ∧ EscapeFree text' := by
  rw [EscapeFree, String.toList_append, List.mem_append, not_or]
  rfl

lemma EscapeFree.trimmedStart (h : EscapeFree text) : EscapeFree (trimmedStart text) := by
  rw [EscapeFree, Text.trimmedStart, String.toList_ofList]
  exact fun hmem => h ((List.dropWhile_sublist isBlank).subset hmem)

lemma escapeFree_repeated {c : Char} (hc : c ≠ '\x1b') (n : ℕ) : EscapeFree (repeated c n) := by
  rw [EscapeFree, repeated, String.toList_ofList]
  exact fun hmem => hc (List.eq_of_mem_replicate hmem).symm

lemma escapeFree_toString (n : ℕ) : EscapeFree (toString n) := by
  rw [EscapeFree, Nat.toString_eq_repr, Nat.repr, String.toList_ofList]
  intro hmem
  exact absurd (Nat.isDigit_of_mem_toDigits (by decide) (by decide) hmem) (by decide)

lemma escapeFree_toString_int (n : ℤ) : EscapeFree (toString n) := by
  cases n with
  | ofNat n => exact escapeFree_toString n
  | negSucc n => exact escapeFree_append.mpr ⟨by decide, escapeFree_toString n.succ⟩

lemma escapeFree_pointed (n : ℕ) : EscapeFree (Decimal.pointed n) := by
  have hcents : EscapeFree (toString (n % 100)) := escapeFree_toString _
  simp only [Decimal.pointed, escapeFree_append, escapeFree_toString, true_and]
  refine ⟨by decide, ?_⟩
  split_ifs
  · exact escapeFree_append.mpr ⟨by decide, hcents⟩
  · exact hcents

lemma escapeFree_twoPlaces (x : Float) : EscapeFree (Decimal.twoPlaces x) := by
  rw [Decimal.twoPlaces]
  split
  · decide
  · decide
  · decide
  · refine escapeFree_append.mpr ⟨?_, escapeFree_pointed _⟩
    split_ifs <;> decide

lemma escapeFree_reportText {report : Report} (h : EscapeFree report.command) :
    EscapeFree report.text := by
  cases hcpu : report.cpuSecs <;>
    simp only [Report.text, hcpu, escapeFree_append, h, escapeFree_twoPlaces, escapeFree_toString,
      escapeFree_toString_int] <;>
    decide

lemma escapeFree_marked (p : Pictogram) (h : EscapeFree text) (style : Style) :
    EscapeFree (marked p text style) := by
  have hpictogram : EscapeFree (p.text style) := by
    unfold Pictogram.text
    split_ifs
    · cases p <;> decide
    · decide
  rw [marked]
  refine EscapeFree.trimmedStart ?_
  simp only [escapeFree_append, hpictogram, h]
  decide

end

/-- The style without color. -/
def Style.plain (style : Style) : Style :=
  { style with useColor := false }

/-! ## Banners -/

/-- The parts of a box: two rules and what stands between them. -/
def boxParts (rule inner : String) : List String :=
  ["┌" ++ rule ++ "┐", "│ " ++ inner ++ " │", "└" ++ rule ++ "┘"]

/-- Whether a text is a box around `inner`, the parts of which are equally wide. -/
structure IsBox (rule inner text : String) : Prop where
  parts : text = "\n".intercalate (boxParts rule inner)
  width : ∃ w, ∀ part ∈ boxParts rule inner, displayWidth part = w

/-- What stands in the box of a banner. -/
def bannerInner (title : String) (subtitle : Option String) (style : Style) : String :=
  match subtitle with
  | some sub => " " ++ color .primary title style ++ "  " ++ color .secondary sub style ++ " "
  | none => " " ++ color .primary title style ++ " "

section Banner

variable {rule inner shown title : String} {subtitle : Option String}

lemma banner_eq (title : String) (subtitle : Option String) (style : Style) :
    banner title subtitle style = "\n".intercalate
      (boxParts (repeated '─' (displayWidth (bannerInner title subtitle style) + 2))
        (bannerInner title subtitle style)) := by
  rw [← String.toList_inj]
  cases subtitle <;> simp [banner, boxParts, bannerInner]

lemma shownAs_boxParts (hrule : EscapeFree rule) (h : ShownAs inner shown) :
    List.Forall₂ ShownAs (boxParts rule inner) (boxParts rule shown) := by
  refine .cons ?_ (.cons ?_ (.cons ?_ .nil))
  · exact hrule.shownAs.between (by decide) (by decide)
  · exact h.between (by decide) (by decide)
  · exact hrule.shownAs.between (by decide) (by decide)

lemma displayWidth_boxParts (h : ShownAs inner shown) :
    ∀ part ∈ boxParts (repeated '─' (displayWidth inner + 2)) inner,
      displayWidth part = displayWidth inner + 4 := by
  have hfree : EscapeFree (repeated '─' (displayWidth inner + 2)) :=
    escapeFree_repeated (by decide) _
  have hrule : displayWidth (repeated '─' (displayWidth inner + 2)) = displayWidth inner + 2 := by
    rw [displayWidth_of_escapeFree hfree, repeated, String.length_ofList, List.length_replicate]
  intro part hpart
  simp only [boxParts, List.mem_cons, List.not_mem_nil, or_false] at hpart
  -- The rules are as long as what they enclose, and a blank on either side of it.
  rcases hpart with rfl | rfl | rfl
  · rw [hfree.shownAs.displayWidth_between (by decide) (by decide), hrule]
    show 1 + (displayWidth inner + 2) + 1 = displayWidth inner + 4
    omega
  · rw [h.displayWidth_between (by decide) (by decide)]
    show 2 + displayWidth inner + 2 = displayWidth inner + 4
    omega
  · rw [hfree.shownAs.displayWidth_between (by decide) (by decide), hrule]
    show 1 + (displayWidth inner + 2) + 1 = displayWidth inner + 4
    omega

section

variable (htitle : EscapeFree title) (hsub : ∀ sub ∈ subtitle, EscapeFree sub)

include htitle hsub

lemma shownAs_bannerInner (style : Style) :
    ShownAs (bannerInner title subtitle style) (bannerInner title subtitle style.plain) := by
  have hcolor : ShownAs (color .primary title style) title := shownAs_color htitle.shownAs _ _
  cases subtitle with
  | none => exact hcolor.between (by decide) (by decide)
  | some sub =>
      have hsub' : ShownAs (color .secondary sub style) sub := shownAs_color (hsub sub rfl).shownAs _ _
      have hblank : ShownAs " " " " := EscapeFree.shownAs (by decide)
      exact ((hcolor.between (by decide) (by decide)).append hsub').append hblank

lemma displayWidth_bannerInner (style : Style) :
    displayWidth (bannerInner title subtitle style)
      = displayWidth (bannerInner title subtitle style.plain) := by
  rw [(shownAs_bannerInner htitle hsub style).displayWidth_eq]
  exact (shownAs_bannerInner htitle hsub style.plain).displayWidth_eq.symm

lemma isBox_banner (style : Style) :
    IsBox (repeated '─' (displayWidth (bannerInner title subtitle style.plain) + 2))
      (bannerInner title subtitle style) (banner title subtitle style) := by
  rw [← displayWidth_bannerInner htitle hsub style]
  exact ⟨banner_eq title subtitle style, _,
    displayWidth_boxParts (shownAs_bannerInner htitle hsub style)⟩

lemma shownAs_banner (style : Style) :
    ShownAs (banner title subtitle style) (banner title subtitle style.plain) := by
  have hrule := escapeFree_repeated (c := '─') (by decide)
    (displayWidth (bannerInner title subtitle style.plain) + 2)
  rw [(isBox_banner htitle hsub style).parts, (isBox_banner htitle hsub style.plain).parts]
  exact .intercalate (by decide) (shownAs_boxParts hrule (shownAs_bannerInner htitle hsub style))

end

end Banner

/-! ## Tables -/

/-- A table in columns of given widths. -/
def inColumns (widths : List ℕ) (headers : List String) (rows : List (List String)) (style : Style) :
    String :=
  "\n".intercalate (color .accent (tableRow widths headers) style
    :: color .dim (tableRule widths) style
    :: rows.map fun row => tableRow widths (cellsOf headers.length row))

section Table

variable {style : Style} {headers : List String} {rows : List (List String)}

lemma table_eq_inColumns (hne : headers ≠ []) :
    table headers rows style
      = inColumns (columnWidths headers rows style.width) headers rows style := by
  rw [table_eq hne, tableLine, cellsOf_length]
  rfl

lemma escapeFree_tableLine {terminal : ℕ} {row : List String} (h : ∀ cell ∈ row, EscapeFree cell) :
    EscapeFree (tableLine headers rows terminal row) :=
  not_mem_tableLine (by decide) (by decide) h

lemma shownAs_table (hheaders : ∀ header ∈ headers, EscapeFree header)
    (hrows : ∀ row ∈ rows, ∀ cell ∈ row, EscapeFree cell) :
    ShownAs (table headers rows style) (table headers rows style.plain) := by
  by_cases hne : headers = []
  · subst hne
    exact fun _ => rfl
  · have hrule : EscapeFree (tableRule (columnWidths headers rows style.width)) :=
      not_mem_tableRule (by decide) (by decide) _
    rw [table_eq hne, table_eq_of_plain hne rfl]
    refine ShownAs.intercalate (by decide) (.cons ?_ (.cons ?_ ?_))
    · exact shownAs_color (escapeFree_tableLine hheaders).shownAs _ _
    · exact shownAs_color hrule.shownAs _ _
    · rw [List.forall₂_map_left_iff, List.forall₂_map_right_iff, List.forall₂_same]
      exact fun row hrow => (escapeFree_tableLine (hrows row hrow)).shownAs

end Table

/-! ## Answers -/

/-- The texts that an answer comes with, as far as they are shown. -/
def textsOf : Dispatch → List String
  | .completed _ output report => output :: (report.map Report.command).toList
  | .help _ text => [text]
  | .rejected _ _ message help => [message, help]

lemma shownAs_answerText {answer : Dispatch} {style : Style}
    (h : ∀ text ∈ textsOf answer, EscapeFree text) :
    ShownAs (answerText answer style) (answerText answer style.plain) := by
  cases answer with
  | completed command output report =>
      have houtput : ShownAs output output := (h output List.mem_cons_self).shownAs
      cases report with
      | none => exact houtput
      | some report =>
          have hmarked : EscapeFree (marked .clock report.text style) :=
            escapeFree_marked _ (escapeFree_reportText (h _ (by simp [textsOf]))) style
          have hbreak : EscapeFree (if output = "" then "" else "\n") := by
            split_ifs <;> decide
          exact (houtput.append hbreak.shownAs).append (shownAs_color hmarked.shownAs _ _)
  | help command text => exact (h text List.mem_cons_self).shownAs
  | rejected command outcome message help =>
      have hmarked : EscapeFree (marked .reject message style) :=
        escapeFree_marked _ (h message List.mem_cons_self) style
      have hhelp : ShownAs help help := (h help (by simp [textsOf])).shownAs
      exact ((shownAs_color hmarked.shownAs _ _).append (EscapeFree.shownAs (by decide))).append hhelp

/-! ## All that is shown -/

/-- **Color only adds escapes.**  Without its escapes a banner, a table or an answer is what it is without
color.  The rules of a banner and the columns of a table are the same to begin with, and the parts of a
banner are equally wide. -/
theorem color_only_adds_escapes (style : Style) :
    (∀ (title : String) (subtitle : Option String), EscapeFree title →
      (∀ sub ∈ subtitle, EscapeFree sub) →
        stripEscapes (banner title subtitle style) = banner title subtitle style.plain
          ∧ ∃ rule inner shown, IsBox rule inner (banner title subtitle style)
            ∧ IsBox rule shown (banner title subtitle style.plain))
      ∧ (∀ (headers : List String) (rows : List (List String)),
        (∀ header ∈ headers, EscapeFree header) → (∀ row ∈ rows, ∀ cell ∈ row, EscapeFree cell) →
          stripEscapes (table headers rows style) = table headers rows style.plain
            ∧ (headers ≠ [] → ∃ widths, table headers rows style = inColumns widths headers rows style
              ∧ table headers rows style.plain = inColumns widths headers rows style.plain))
      ∧ ∀ answer : Dispatch, (∀ text ∈ textsOf answer, EscapeFree text) →
        stripEscapes (answerText answer style) = answerText answer style.plain := by
  refine ⟨fun title subtitle htitle hsub => ?_, fun headers rows hheaders hrows => ?_,
    fun answer h => (shownAs_answerText h).stripEscapes_eq⟩
  · exact ⟨(shownAs_banner htitle hsub style).stripEscapes_eq, _, _, _, isBox_banner htitle hsub style,
      isBox_banner htitle hsub style.plain⟩
  · refine ⟨(shownAs_table hheaders hrows).stripEscapes_eq, fun hne => ?_⟩
    exact ⟨_, table_eq_inColumns hne, table_eq_inColumns hne⟩

/-- A banner, a table with a cell that is cut, and an answer, in color. -/
theorem color_only_adds_escapes_colored :
    let style : Style := { useColor := true, useEmoji := true, width := 8 }
    let rejection : Dispatch := .rejected "c" (.argumentCount 1 0) "Insufficient arguments" "Command: c"
    (EscapeFree "optline" ∧ (∀ sub ∈ some "shell", EscapeFree sub)
        ∧ (∀ header ∈ ["NAME", "N"], EscapeFree header)
        ∧ (∀ row ∈ [["abcdefgh", "1"]], ∀ cell ∈ row, EscapeFree cell)
        ∧ ∀ text ∈ textsOf rejection, EscapeFree text)
      ∧ stripEscapes (banner "optline" (some "shell") style)
        = banner "optline" (some "shell") style.plain
      ∧ stripEscapes (table ["NAME", "N"] [["abcdefgh", "1"]] style)
        = table ["NAME", "N"] [["abcdefgh", "1"]] style.plain
      ∧ stripEscapes (answerText rejection style) = answerText rejection style.plain := by
  intro style rejection
  obtain ⟨hbanner, htable, hanswer⟩ := color_only_adds_escapes style
  have htitle : EscapeFree "optline" := by decide
  have hsub : ∀ sub ∈ some "shell", EscapeFree sub := by decide
  have hheaders : ∀ header ∈ ["NAME", "N"], EscapeFree header := by decide
  have hrows : ∀ row ∈ [["abcdefgh", "1"]], ∀ cell ∈ row, EscapeFree cell := by decide
  have htexts : ∀ text ∈ textsOf rejection, EscapeFree text := by decide
  exact ⟨⟨htitle, hsub, hheaders, hrows, htexts⟩, (hbanner _ _ htitle hsub).1,
    (htable _ _ hheaders hrows).1, hanswer _ htexts⟩

end Optline.Display
