import Mathlib.Algebra.Ring.Nat
import Mathlib.Data.List.DropRight
import Mathlib.Data.List.Forall2
import Mathlib.Data.List.Induction
import Optline.Display.Layout
import Optline.Proofs.Escapes

/-!
# Tables in columns

A table is text, so what can be said of it is said of its lines: which cells they join, and how wide each
cell is.  A column has one width for all lines.  That width is the one its longest text needs, and only
the widest column may have less, or, if it is narrower than a cut needs, more.

* `IsCell`, `IsLine`, `IsAligned` — a text in a column, a row of texts, a table of rows.
* `isLongest_fullWidths` — where the widths come from; `isCell_fit` and `isLine_tableRow` say what is done
  with them.
* **`table_aligned`** — all lines have the same columns, and no column is cut but the widest one.
* **`table_fits_iff`** — which tables are not wider than their terminal; `second_wide_column` is one that
  is, because only one of its columns gives way.
-/

namespace Optline.Display

open Text

/-! ## The widest column -/

section Widest

lemma exists_lastWidest {widths : List ℕ} (h : widths ≠ []) :
    ∃ widest, widths[lastWidest widths]? = some widest ∧ ∀ w ∈ widths, w ≤ widest := by
  induction widths with
  | nil => exact absurd rfl h
  | cons first rest ih =>
      rw [lastWidest]
      split_ifs with hlater
      · obtain ⟨later, hmem, hle⟩ := List.any_eq_true.mp hlater
        obtain ⟨widest, hwidest, hmax⟩ := ih (List.ne_nil_of_mem hmem)
        have hfirst : first ≤ widest := (of_decide_eq_true hle).trans (hmax later hmem)
        exact ⟨widest, by simpa using hwidest, by simpa [hfirst] using hmax⟩
      · have hrest : ∀ w ∈ rest, w < first := by simpa using hlater
        refine ⟨first, rfl, fun w hw => ?_⟩
        rcases List.mem_cons.mp hw with rfl | hmem
        · exact le_refl _
        · exact (hrest w hmem).le

lemma totalWidth_eq (widths : List ℕ) :
    totalWidth widths = widths.sum + 2 * (widths.length - 1) := rfl

lemma sum_modify {widths : List ℕ} {i w : ℕ} (h : widths[i]? = some w) (f : ℕ → ℕ) :
    (widths.modify i f).sum + w = widths.sum + f w := by
  induction widths generalizing i with
  | nil => simp at h
  | cons first rest ih =>
      cases i with
      | zero =>
          obtain rfl : first = w := by simpa using h
          simp
          omega
      | succ i =>
          have hrest := ih (i := i) (by simpa using h)
          simp only [List.modify_succ_cons, List.sum_cons]
          omega

variable {terminal : ℕ} {full : List ℕ} {j v w : ℕ}

lemma fittedWidths_cases (hfull : full[j]? = some w)
    (hfitted : (fittedWidths terminal full)[j]? = some v) :
    v = w ∨ j = lastWidest full ∧ terminal < totalWidth full ∧ leastWidth ≤ v := by
  rw [fittedWidths] at hfitted
  split_ifs at hfitted with hwide
  · rw [List.getElem?_modify, hfull] at hfitted
    split_ifs at hfitted with hwidest
    -- The widest column has room for a cut afterwards even if it had none before.
    · obtain rfl := Option.some.inj hfitted
      exact Or.inr ⟨hwidest.symm, hwide, le_max_left _ _⟩
    · exact Or.inl (Option.some.inj hfitted).symm
  · rw [hfull] at hfitted
    exact Or.inl (Option.some.inj hfitted).symm

lemma length_fittedWidths (terminal : ℕ) (full : List ℕ) :
    (fittedWidths terminal full).length = full.length := by
  rw [fittedWidths]
  split_ifs
  · rw [List.length_modify]
  · rfl

end Widest

/-! ## The width of a column -/

/-- The texts of a column: its header and the cells below it, where one that is missing is empty. -/
def columnTexts (headers : List String) (rows : List (List String)) (j : ℕ) : List String :=
  (headers :: rows).map (·[j]?.getD "")

/-- Whether the longest texts have `w` characters. -/
def IsLongest (texts : List String) (w : ℕ) : Prop :=
  (∀ text ∈ texts, text.length ≤ w) ∧ ∃ text ∈ texts, text.length = w

lemma IsLongest.concat {texts : List String} {w : ℕ} (h : IsLongest texts w) (text : String) :
    IsLongest (texts ++ [text]) (max w text.length) := by
  obtain ⟨hbound, longest, hmem, hlongest⟩ := h
  constructor
  · intro t ht
    rcases List.mem_append.mp ht with hold | hnew
    · exact (hbound t hold).trans (le_max_left _ _)
    · rw [List.mem_singleton.mp hnew]
      exact le_max_right _ _
  · rcases le_total text.length w with hshort | hlong
    · exact ⟨longest, List.mem_append_left _ hmem, by rw [hlongest, max_eq_left hshort]⟩
    · exact ⟨text, by simp, (max_eq_right hlong).symm⟩

section Columns

variable {headers row : List String} {rows : List (List String)} {j n : ℕ}

lemma length_cellsOf (n : ℕ) (row : List String) : (cellsOf n row).length = n := by
  simp [cellsOf]

lemma getElem?_cellsOf (hj : j < n) : (cellsOf n row)[j]? = some (row[j]?.getD "") := by
  rw [cellsOf, List.getElem?_take_of_lt hj]
  by_cases hrow : j < row.length
  · rw [List.getElem?_append_left hrow, List.getElem?_eq_getElem hrow]
    rfl
  · have hmissing : row[j]? = none := List.getElem?_eq_none (by omega)
    have hfilled : (List.replicate n "")[j - row.length]? = some "" := by
      rw [List.getElem?_replicate, if_pos (by omega)]
    rw [List.getElem?_append_right (by omega), hfilled, hmissing]
    rfl

lemma cellsOf_length (headers : List String) : cellsOf headers.length headers = headers := by
  rw [cellsOf, List.take_left']
  rfl

lemma fullWidths_concat (headers : List String) (rows : List (List String)) (row : List String) :
    fullWidths headers (rows ++ [row])
      = (fullWidths headers rows).zipWith max ((cellsOf headers.length row).map displayWidth) := by
  rw [fullWidths, List.foldl_concat]
  rfl

lemma length_fullWidths (headers : List String) (rows : List (List String)) :
    (fullWidths headers rows).length = headers.length := by
  induction rows using List.reverseRecOn with
  | nil => simp [fullWidths]
  | append_singleton rows row ih => simp [fullWidths_concat, ih, length_cellsOf]

/-- The full width of a column is that of its longest texts. -/
lemma isLongest_fullWidths (hrows : ∀ row ∈ rows, ∀ cell ∈ row, EscapeFree cell) {w : ℕ}
    (h : (fullWidths headers rows)[j]? = some w) : IsLongest (columnTexts headers rows j) w := by
  -- From the end, since the widths so far are those of the rows in front.
  induction rows using List.reverseRecOn generalizing w with
  | nil =>
      rw [fullWidths, List.foldl_nil, List.getElem?_map] at h
      obtain ⟨header, hheader, rfl⟩ := Option.map_eq_some_iff.mp h
      simp [columnTexts, IsLongest, hheader]
  | append_singleton rows row ih =>
      rw [fullWidths_concat, List.getElem?_zipWith_eq_some] at h
      obtain ⟨above, width, habove, hwidth, rfl⟩ := h
      obtain ⟨hrow, hold⟩ : (∀ cell ∈ row, EscapeFree cell)
          ∧ ∀ r ∈ rows, ∀ cell ∈ r, EscapeFree cell := by
        simpa [or_imp, forall_and, and_comm] using hrows
      have hj : j < headers.length := by
        rw [← length_fullWidths headers rows]
        exact (List.getElem?_eq_some_iff.mp habove).1
      have hcell : EscapeFree (row[j]?.getD "") := by
        cases hget : row[j]? with
        | none => decide
        | some cell => exact hrow cell (List.mem_of_getElem? hget)
      rw [List.getElem?_map, getElem?_cellsOf hj, Option.map_some, Option.some.injEq,
        displayWidth_of_escapeFree hcell] at hwidth
      rw [← hwidth]
      have hcolumn : columnTexts headers (rows ++ [row]) j
          = columnTexts headers rows j ++ [row[j]?.getD ""] := by
        simp [columnTexts]
      rw [hcolumn]
      exact (ih hold habove).concat _

end Columns

/-! ## Cells -/

/-- Whether `cell` holds `text` in `width` characters: filled up with blanks if it fits, and otherwise
cut, with an ellipsis behind what is left of it. -/
inductive IsCell (text : String) (width : ℕ) : String → Prop
  | padded (h : text.length ≤ width) : IsCell text width (text ++ repeated ' ' (width - text.length))
  | cut {kept behind : String} (h : width < text.length) (htext : text = kept ++ behind)
      (hkept : kept.length + 1 = width) : IsCell text width (kept ++ "…")

lemma IsCell.length_eq {text cell : String} {width : ℕ} (h : IsCell text width cell) :
    cell.length = width := by
  cases h with
  | padded h =>
      rw [String.length_append, repeated, String.length_ofList, List.length_replicate]
      omega
  | cut _ _ hkept =>
      rw [String.length_append, ← hkept]
      rfl

lemma isCell_fit {text : String} {width : ℕ} (hfree : EscapeFree text)
    (h : text.length ≤ width ∨ 0 < width) : IsCell text width (fit text width) := by
  simp only [fit, displayWidth_of_escapeFree hfree, hfree.shownAs.stripFrom_eq]
  split_ifs with hfits
  · exact .padded hfits
  · have hparts : text = String.ofList (text.toList.take (width - 1))
        ++ String.ofList (text.toList.drop (width - 1)) := by
      rw [← String.ofList_append, List.take_append_drop, String.ofList_toList]
    refine .cut (by omega) hparts ?_
    rw [String.length_ofList, List.length_take, String.length_toList]
    omega

/-! ## Lines -/

/-- Whether `line` shows a row of texts in columns: missing texts are empty, further ones do not count,
and the blanks at the end are left out. -/
def IsLine (widths : List ℕ) (row : List String) (line : String) : Prop :=
  ∃ cells : List String, cells.length = widths.length
    ∧ (∀ j w : ℕ, widths[j]? = some w → ∃ cell, cells[j]? = some cell ∧ IsCell (row[j]?.getD "") w cell)
    ∧ line = trimmedEnd (separator.intercalate cells)

lemma length_intercalate_separator (texts : List String) :
    (separator.intercalate texts).length = totalWidth (texts.map String.length) := by
  induction texts with
  | nil => rfl
  | cons text texts ih =>
      cases texts with
      | nil => simp [totalWidth_eq]
      | cons next rest =>
          have hlength : separator.length = 2 := rfl
          rw [String.intercalate_cons_cons, String.length_append, String.length_append, ih, hlength,
            totalWidth_eq, totalWidth_eq]
          simp only [List.map_cons, List.sum_cons, List.length_cons]
          omega

lemma length_trimmedEnd_le (text : String) : (trimmedEnd text).length ≤ text.length := by
  rw [trimmedEnd, String.length_ofList, ← String.length_toList]
  exact (List.rdropWhile_prefix isBlank text.toList).length_le

section Line

variable {widths : List ℕ} {row : List String} {line : String}

lemma IsLine.length_le (h : IsLine widths row line) : line.length ≤ totalWidth widths := by
  obtain ⟨cells, hlength, hcells, rfl⟩ := h
  have hwidths : cells.map String.length = widths := by
    refine List.ext_getElem? fun j => ?_
    rw [List.getElem?_map]
    cases hw : widths[j]? with
    | none =>
        have hnone : cells[j]? = none := by
          rw [List.getElem?_eq_none_iff] at hw ⊢
          omega
        rw [hnone]
        rfl
    | some w =>
        obtain ⟨cell, hcell, hshown⟩ := hcells j w hw
        rw [hcell, Option.map_some, hshown.length_eq]
  calc (trimmedEnd (separator.intercalate cells)).length
      ≤ (separator.intercalate cells).length := length_trimmedEnd_le _
    _ = totalWidth widths := by rw [length_intercalate_separator, hwidths]

lemma length_tableRule (widths : List ℕ) : (tableRule widths).length = totalWidth widths := by
  rw [tableRule, length_intercalate_separator, List.map_map]
  congr 1
  conv_rhs => rw [← List.map_id widths]
  refine List.map_congr_left fun w _ => ?_
  simp [repeated]

lemma isLine_tableRow (hfree : ∀ cell ∈ row, EscapeFree cell)
    (h : ∀ j w : ℕ, widths[j]? = some w → (row[j]?.getD "").length ≤ w ∨ 0 < w) :
    IsLine widths row (tableRow widths (cellsOf widths.length row)) := by
  refine ⟨(cellsOf widths.length row).zipWith fit widths, ?_, fun j w hw => ?_, rfl⟩
  · rw [List.length_zipWith, length_cellsOf, min_self]
  · have hj : j < widths.length := (List.getElem?_eq_some_iff.mp hw).1
    refine ⟨fit (row[j]?.getD "") w, ?_, isCell_fit ?_ (h j w hw)⟩
    · rw [List.getElem?_zipWith_eq_some]
      exact ⟨_, w, getElem?_cellsOf hj, hw, rfl⟩
    · cases hget : row[j]? with
      | none => decide
      | some cell => exact hfree cell (List.mem_of_getElem? hget)

lemma not_mem_intercalate {c : Char} {sep : String} (hsep : c ∉ sep.toList) {texts : List String}
    (h : ∀ text ∈ texts, c ∉ text.toList) : c ∉ (sep.intercalate texts).toList := by
  induction texts with
  | nil => simp
  | cons text texts ih =>
      have hrest := ih fun t ht => h t (List.mem_cons_of_mem _ ht)
      cases texts with
      | nil => simpa using h text List.mem_cons_self
      | cons next rest =>
          rw [String.intercalate_cons_cons, String.toList_append, String.toList_append,
            List.mem_append, List.mem_append]
          rintro ((htext | hmem) | hmem)
          · exact h text List.mem_cons_self htext
          · exact hsep hmem
          · exact hrest hmem

/-- Lines have no characters but those of their cells, blanks and ellipses. -/
lemma not_mem_tableRow {c : Char} (hblank : c ≠ ' ') (hdots : c ≠ '…') {cells : List String}
    (h : ∀ cell ∈ cells, c ∉ cell.toList) : c ∉ (tableRow widths cells).toList := by
  have hfit : ∀ cell ∈ cells.zipWith fit widths, c ∉ cell.toList := by
    intro shown hshown
    obtain ⟨j, hj⟩ := List.mem_iff_getElem?.mp hshown
    obtain ⟨cell, w, hcell, -, rfl⟩ := List.getElem?_zipWith_eq_some.mp hj
    have hc := h cell (List.mem_of_getElem? hcell)
    simp only [fit]
    split_ifs
    · simp [repeated, hc, hblank]
    · have hkept : c ∉ (stripFrom false cell.toList).take (w - 1) :=
        fun hmem => hc (mem_of_mem_stripFrom (List.mem_of_mem_take hmem))
      simp [hkept, hdots]
  have hcells : c ∉ (separator.intercalate (cells.zipWith fit widths)).toList :=
    not_mem_intercalate (by simp [separator, hblank]) hfit
  rw [tableRow, trimmedEnd, String.toList_ofList]
  exact fun hmem => hcells ((List.rdropWhile_prefix isBlank _).subset hmem)

lemma not_mem_tableRule {c : Char} (hblank : c ≠ ' ') (hdash : c ≠ '-') (widths : List ℕ) :
    c ∉ (tableRule widths).toList := by
  refine not_mem_intercalate (by simp [separator, hblank]) fun text htext => ?_
  obtain ⟨w, -, rfl⟩ := List.mem_map.mp htext
  simp [repeated, hdash]

end Line

/-! ## Tables -/

/-- Whether `text` is a table in columns of the given widths, the texts of which take up to `full`
characters. -/
structure IsAligned (headers : List String) (rows : List (List String)) (full widths : List ℕ)
    (text : String) : Prop where
  full_length : full.length = headers.length
  longest : ∀ j w : ℕ, full[j]? = some w → IsLongest (columnTexts headers rows j) w
  widths_length : widths.length = headers.length
  lines : ∃ first below, IsLine widths headers first ∧ List.Forall₂ (IsLine widths) rows below
    ∧ text = "\n".intercalate (first :: separator.intercalate (widths.map (repeated '-')) :: below)

/-- Whether a column is too narrow for one of its texts. -/
def CutsColumn (headers : List String) (rows : List (List String)) (widths : List ℕ) (j : ℕ) : Prop :=
  ∃ w, widths[j]? = some w ∧ ∃ text ∈ columnTexts headers rows j, w < text.length

/-- The widths of the columns on a terminal. -/
def columnWidths (headers : List String) (rows : List (List String)) (terminal : ℕ) : List ℕ :=
  fittedWidths terminal (fullWidths headers rows)

/-- The line of a row, or of the headers. -/
def tableLine (headers : List String) (rows : List (List String)) (terminal : ℕ) (row : List String) :
    String :=
  tableRow (columnWidths headers rows terminal) (cellsOf headers.length row)

/-- The lines of a table without color. -/
def plainLines (headers : List String) (rows : List (List String)) (terminal : ℕ) : List String :=
  tableLine headers rows terminal headers :: tableRule (columnWidths headers rows terminal)
    :: rows.map (tableLine headers rows terminal)

section Table

variable {headers row : List String} {rows : List (List String)} {style : Style} {terminal j v : ℕ}

lemma length_columnWidths (headers : List String) (rows : List (List String)) (terminal : ℕ) :
    (columnWidths headers rows terminal).length = headers.length := by
  rw [columnWidths, length_fittedWidths, length_fullWidths]

/-- Color is put around whole lines only. -/
lemma table_eq (hne : headers ≠ []) :
    table headers rows style = "\n".intercalate
      (color .accent (tableLine headers rows style.width headers) style
        :: color .dim (tableRule (columnWidths headers rows style.width)) style
        :: rows.map (tableLine headers rows style.width)) := by
  have hempty : headers.isEmpty = false := by simpa using hne
  simp only [table, tableLines, tableLine, columnWidths, hempty, cellsOf_length]
  rfl

lemma table_eq_of_plain (hne : headers ≠ []) (hplain : style.useColor = false) :
    table headers rows style = "\n".intercalate (plainLines headers rows style.width) := by
  rw [table_eq hne, color_of_plain hplain, color_of_plain hplain, plainLines]

lemma forall_mem_plainLines {p : String → Prop} :
    (∀ line ∈ plainLines headers rows terminal, p line)
      ↔ (∀ row ∈ headers :: rows, p (tableLine headers rows terminal row))
        ∧ p (tableRule (columnWidths headers rows terminal)) := by
  simp only [plainLines, List.forall_mem_cons, List.forall_mem_map]
  tauto

section

variable (hrows : ∀ row ∈ rows, ∀ cell ∈ row, EscapeFree cell)

include hrows

/-- A column takes all its texts in, or it is the widest one, gives way to the terminal and still has room
for an ellipsis. -/
lemma columnWidths_cases (hv : (columnWidths headers rows terminal)[j]? = some v) :
    (∀ text ∈ columnTexts headers rows j, text.length ≤ v)
      ∨ j = lastWidest (fullWidths headers rows) ∧ terminal < totalWidth (fullWidths headers rows)
        ∧ leastWidth ≤ v := by
  have hj : j < (fullWidths headers rows).length := by
    rw [length_fullWidths, ← length_columnWidths headers rows terminal]
    exact (List.getElem?_eq_some_iff.mp hv).1
  have hfull := List.getElem?_eq_getElem hj
  rcases fittedWidths_cases hfull hv with rfl | hcut
  · exact Or.inl (isLongest_fullWidths hrows hfull).1
  · exact Or.inr hcut

lemma CutsColumn.widest (h : CutsColumn headers rows (columnWidths headers rows terminal) j) :
    j = lastWidest (fullWidths headers rows) ∧ terminal < totalWidth (fullWidths headers rows) := by
  obtain ⟨v, hv, text, htext, hlong⟩ := h
  rcases columnWidths_cases hrows hv with hfits | ⟨hwidest, hterminal, -⟩
  · exact absurd (hfits text htext) (by omega)
  · exact ⟨hwidest, hterminal⟩

lemma isLine_tableLine (hheaders : ∀ header ∈ headers, EscapeFree header)
    (hrow : row ∈ headers :: rows) :
    IsLine (columnWidths headers rows terminal) row (tableLine headers rows terminal row) := by
  have hfree : ∀ cell ∈ row, EscapeFree cell := by
    rcases List.mem_cons.mp hrow with rfl | hmem
    · exact hheaders
    · exact hrows row hmem
  rw [tableLine, ← length_columnWidths headers rows terminal]
  refine isLine_tableRow hfree fun j v hv => ?_
  rcases columnWidths_cases hrows hv with hfits | ⟨-, -, hleast⟩
  · exact Or.inl (hfits _ (List.mem_map_of_mem hrow))
  · exact Or.inr (Nat.lt_of_lt_of_le (by decide) hleast)

end

lemma fullWidths_ne_nil (hne : headers ≠ []) (rows : List (List String)) :
    fullWidths headers rows ≠ [] := by
  rw [← List.length_pos_iff, length_fullWidths]
  exact List.length_pos_iff.mpr hne

/-- **Tables are aligned, and cut only where they must.**  All lines of a table have columns of the same
widths, and each cell is as wide as its column.  A column that is too narrow for one of its texts is the
widest one, and there is none if the columns fit the terminal with their full widths. -/
theorem table_aligned (hne : headers ≠ []) (hplain : style.useColor = false)
    (hheaders : ∀ header ∈ headers, EscapeFree header)
    (hrows : ∀ row ∈ rows, ∀ cell ∈ row, EscapeFree cell) :
    ∃ full widths : List ℕ, IsAligned headers rows full widths (table headers rows style)
      ∧ (∀ i j, CutsColumn headers rows widths i → CutsColumn headers rows widths j → i = j)
      ∧ (∀ j w : ℕ, CutsColumn headers rows widths j → full[j]? = some w → ∀ v ∈ full, v ≤ w)
      ∧ (full.sum + 2 * (full.length - 1) ≤ style.width →
        ∀ j, ¬ CutsColumn headers rows widths j) := by
  refine ⟨fullWidths headers rows, columnWidths headers rows style.width,
    ⟨length_fullWidths headers rows, fun j w hw => isLongest_fullWidths hrows hw,
      length_columnWidths headers rows style.width, _, _,
      isLine_tableLine hrows hheaders List.mem_cons_self, ?_, table_eq_of_plain hne hplain⟩, ?_, ?_, ?_⟩
  · rw [List.forall₂_map_right_iff, List.forall₂_same]
    exact fun row hrow => isLine_tableLine hrows hheaders (List.mem_cons_of_mem _ hrow)
  · intro i j hi hj
    rw [(hi.widest hrows).1, (hj.widest hrows).1]
  · intro j w hcut hw
    obtain ⟨widest, hwidest, hmax⟩ := exists_lastWidest (fullWidths_ne_nil hne rows)
    rw [(hcut.widest hrows).1, hwidest] at hw
    obtain rfl := Option.some.inj hw
    exact hmax
  · intro hfits j hcut
    rw [← totalWidth_eq] at hfits
    exact absurd (hcut.widest hrows).2 (by omega)

/-- A table with rows that are too short or too long, and a column that is cut. -/
theorem table_aligned_ragged :
    let headers := ["NAME", "N"]
    let rows := [["abcdefghij", "1", "more"], [], ["x "]]
    let style : Style := { width := 12 }
    (headers ≠ [] ∧ style.useColor = false ∧ (∀ header ∈ headers, EscapeFree header)
        ∧ ∀ row ∈ rows, ∀ cell ∈ row, EscapeFree cell)
      ∧ table headers rows style = "NAME       N\n---------  -\nabcdefgh…  1\n\nx"
      ∧ ∃ full widths : List ℕ, IsAligned headers rows full widths (table headers rows style)
        ∧ ∀ i j, CutsColumn headers rows widths i → CutsColumn headers rows widths j → i = j := by
  intro headers rows style
  have hne : headers ≠ [] := by decide
  have hheaders : ∀ header ∈ headers, EscapeFree header := by decide
  have hrows : ∀ row ∈ rows, ∀ cell ∈ row, EscapeFree cell := by decide
  have hplain : style.useColor = false := rfl
  obtain ⟨full, widths, haligned, hone, -⟩ := table_aligned hne hplain hheaders hrows
  exact ⟨⟨hne, hplain, hheaders, hrows⟩, by decide +kernel, full, widths, haligned, hone⟩

/-! ## Tables on a terminal -/

/-- The lines of a text. -/
def linesOf (text : String) : List (List Char) :=
  text.toList.splitOn '\n'

lemma linesOf_intercalate {lines : List String} (hne : lines ≠ [])
    (h : ∀ line ∈ lines, '\n' ∉ line.toList) :
    linesOf ("\n".intercalate lines) = lines.map String.toList := by
  have hnewline : "\n".toList = ['\n'] := rfl
  rw [linesOf, String.toList_intercalate, hnewline, List.splitOn_intercalate]
  · simpa using h
  · simpa using hne

lemma totalWidth_fittedWidths_le_iff {widest : ℕ} {full : List ℕ}
    (h : full[lastWidest full]? = some widest) :
    totalWidth (fittedWidths terminal full) ≤ terminal
      ↔ full.sum - widest + min leastWidth widest + 2 * (full.length - 1) ≤ terminal := by
  have hle := sum_modify h fun _ => 0
  have hsum := sum_modify h fun w => max leastWidth (w - (totalWidth full - terminal))
  rw [fittedWidths]
  split_ifs with hwide
  · rw [totalWidth_eq] at hwide
    rw [totalWidth_eq, List.length_modify]
    simp only [totalWidth_eq, leastWidth] at hsum ⊢
    omega
  · rw [totalWidth_eq] at hwide ⊢
    omega

lemma not_mem_tableLine {c : Char} (hblank : c ≠ ' ') (hdots : c ≠ '…')
    (h : ∀ cell ∈ row, c ∉ cell.toList) : c ∉ (tableLine headers rows terminal row).toList := by
  refine not_mem_tableRow hblank hdots fun cell hcell => ?_
  rcases List.mem_append.mp (List.mem_of_mem_take hcell) with hmem | hmissing
  · exact h cell hmem
  · rw [List.eq_of_mem_replicate hmissing]
    simp

section

variable (hne : headers ≠ []) (hplain : style.useColor = false)
  (hheaders : ∀ header ∈ headers, EscapeFree header ∧ '\n' ∉ header.toList)
  (hrows : ∀ row ∈ rows, ∀ cell ∈ row, EscapeFree cell ∧ '\n' ∉ cell.toList)

include hne hplain hheaders hrows

lemma forall_linesOf_table_iff :
    (∀ line ∈ linesOf (table headers rows style), line.length ≤ terminal)
      ↔ totalWidth (columnWidths headers rows style.width) ≤ terminal := by
  have hcells : ∀ row ∈ headers :: rows, ∀ cell ∈ row, EscapeFree cell ∧ '\n' ∉ cell.toList := by
    simpa using And.intro hheaders hrows
  have hnewline : ∀ line ∈ plainLines headers rows style.width, '\n' ∉ line.toList := by
    rw [forall_mem_plainLines]
    refine ⟨fun row hrow => ?_, not_mem_tableRule (by decide) (by decide) _⟩
    exact not_mem_tableLine (by decide) (by decide) fun cell hcell => (hcells row hrow cell hcell).2
  have hlines : plainLines headers rows style.width ≠ [] := List.cons_ne_nil _ _
  rw [table_eq_of_plain hne hplain, linesOf_intercalate hlines hnewline, List.forall_mem_map,
    forall_mem_plainLines]
  simp only [String.length_toList, length_tableRule]
  -- No line is longer than the rule.
  refine ⟨And.right, fun hfits => ⟨fun row hrow => ?_, hfits⟩⟩
  have hline : IsLine _ row (tableLine headers rows style.width row) :=
    isLine_tableLine (fun r hr cell hcell => (hrows r hr cell hcell).1)
      (fun header hmem => (hheaders header hmem).1) hrow
  exact hline.length_le.trans hfits

/-- **When a table fits the terminal.**  No line is longer than the terminal is wide if and only if there
is room for all columns with their full widths but the widest one, of which four characters have to fit,
or as many as there are. -/
theorem table_fits_iff :
    ∃ (full : List ℕ) (widest : ℕ), full.length = headers.length
      ∧ (∀ j w : ℕ, full[j]? = some w → IsLongest (columnTexts headers rows j) w)
      ∧ widest ∈ full ∧ (∀ w ∈ full, w ≤ widest)
      ∧ ((∀ line ∈ linesOf (table headers rows style), line.length ≤ style.width)
        ↔ full.sum - widest + min 4 widest + 2 * (full.length - 1) ≤ style.width) := by
  obtain ⟨widest, hwidest, hmax⟩ := exists_lastWidest (fullWidths_ne_nil hne rows)
  refine ⟨fullWidths headers rows, widest, length_fullWidths headers rows, fun j w hw =>
    isLongest_fullWidths (fun row hrow cell hcell => (hrows row hrow cell hcell).1) hw,
    List.mem_of_getElem? hwidest, hmax, ?_⟩
  rw [forall_linesOf_table_iff hne hplain hheaders hrows, columnWidths,
    totalWidth_fittedWidths_le_iff hwidest, leastWidth]

end

/-- A table that just fits its terminal. -/
theorem table_fits_iff_narrow :
    let headers := ["A", "B"]
    let rows := [["abcde", "fghij"]]
    let style : Style := { width := 11 }
    (headers ≠ [] ∧ style.useColor = false
        ∧ (∀ header ∈ headers, EscapeFree header ∧ '\n' ∉ header.toList)
        ∧ ∀ row ∈ rows, ∀ cell ∈ row, EscapeFree cell ∧ '\n' ∉ cell.toList)
      ∧ ∃ (full : List ℕ) (widest : ℕ), widest ∈ full
        ∧ ((∀ line ∈ linesOf (table headers rows style), line.length ≤ style.width)
          ↔ full.sum - widest + min 4 widest + 2 * (full.length - 1) ≤ style.width) := by
  intro headers rows style
  have hne : headers ≠ [] := by decide
  have hheaders : ∀ header ∈ headers, EscapeFree header ∧ '\n' ∉ header.toList := by decide
  have hrows : ∀ row ∈ rows, ∀ cell ∈ row, EscapeFree cell ∧ '\n' ∉ cell.toList := by decide
  have hplain : style.useColor = false := rfl
  obtain ⟨full, widest, -, -, hwidest, -, hfits⟩ := table_fits_iff hne hplain hheaders hrows
  exact ⟨⟨hne, hplain, hheaders, hrows⟩, full, widest, hwidest, hfits⟩

/-- There is room for four characters of each column, and the table is wider than the terminal. -/
theorem second_wide_column :
    ∃ (headers : List String) (rows : List (List String)) (style : Style), headers ≠ []
      ∧ (∀ header ∈ headers, EscapeFree header ∧ '\n' ∉ header.toList)
      ∧ (∀ row ∈ rows, ∀ cell ∈ row, EscapeFree cell ∧ '\n' ∉ cell.toList)
      ∧ style.useColor = false ∧ 4 * headers.length + 2 * (headers.length - 1) ≤ style.width
      ∧ ∃ line ∈ linesOf (table headers rows style), style.width < line.length :=
  ⟨["A", "B"], [["abcde", "fghij"]], { width := 10 }, by decide, by decide, by decide, rfl,
    by decide, by decide +kernel⟩

end Table

end Optline.Display
