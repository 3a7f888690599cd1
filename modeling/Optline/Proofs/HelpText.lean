import Optline.Help
import Optline.Proofs.CanonicalText

/-!
# Help that can be read back

Help writes every option that it shows as it was declared: the flag, and then the text of the
constraint.  What stands between two options is a single space or, where a row ends, a line break and
the blanks under the label, and no option leaves a brace open; so to a reader of specifications the
rows are one text, and the tokens of that text are those of the options, one option after the other.
A flag that only a lone minus makes a flag is the exception: help writes it without the minus.

* `IsWording`, `OptionSpec.IsDeclarable` — words and options that are read as they are written.
* **`readParts_of_tokens`** — a text with the tokens of some words and then of some options declares
  these.
* `isWording_pattern`, `isDeclarable_of_mem_compile` — what a specification consists of.
* **`splitSpec_optionLines`** — the tokens of the rows of a help text.
* **`help_read_back`** — what a help text shows, read as a specification.
-/

namespace Optline

open Text

/-! ## Words and options that are read as they are written -/

/-- Whether a text consists of words that a specification takes for words, with single spaces between
them and all braces closed. -/
structure IsWording (text : String) : Prop where
  closed : openBraces text = 0
  data : ∀ word ∈ splitSpec text, word ≠ "-" ∧ isFlagLike word = false
  joined : unwords (splitSpec text) = text

/-- Whether an option is declared by its flag and its constraint, as they are. -/
structure OptionSpec.IsDeclarable (o : OptionSpec) : Prop where
  flagLike : isFlagLike o.flag = true
  flag_closed : openBraces o.flag = 0
  flag_token : splitSpec o.flag = [o.flag]
  wording : IsWording o.constraint

/-- The tokens that declare an option whose flag looks like one. -/
def OptionSpec.tokens (o : OptionSpec) : List String :=
  o.flag :: splitSpec o.constraint

/-! ## Reading -/

lemma marks_words {ws : List String} (h : ∀ w ∈ ws, w ≠ "-" ∧ isFlagLike w = false)
    (rest : List String) : marks (ws ++ rest) = ws.map .word ++ marks rest := by
  induction ws with
  | nil => rfl
  | cons w ws ih =>
      rw [List.cons_append, marks_cons_word (h w List.mem_cons_self),
        ih fun v hv => h v (List.mem_cons_of_mem _ hv)]
      rfl

lemma groupMarks_words (ws : List String) (ms : List Mark) :
    groupMarks (ws.map .word ++ ms) = (ws ++ (groupMarks ms).1, (groupMarks ms).2) := by
  induction ws with
  | nil => rfl
  | cons w ws ih => rw [List.map_cons, List.cons_append, groupMarks, ih, List.cons_append]

/-- The tokens of options are grouped as the options are. -/
lemma groupMarks_tokens {options : List OptionSpec} (h : ∀ o ∈ options, o.IsDeclarable) :
    groupMarks (marks (options.flatMap OptionSpec.tokens))
      = ([], options.map fun o => (o.flag, splitSpec o.constraint)) := by
  induction options with
  | nil => rfl
  | cons o options ih =>
      have ho := h o List.mem_cons_self
      have hrest := ih fun p hp => h p (List.mem_cons_of_mem _ hp)
      obtain ⟨c, cs, hflag, -⟩ := isFlagLike_iff.mp ho.flagLike
      have hread := marks_flagTokens ⟨c, cs, hflag⟩
        (splitSpec o.constraint ++ options.flatMap OptionSpec.tokens)
      rw [flagTokens, if_pos ho.flagLike, List.singleton_append] at hread
      rw [List.flatMap_cons, OptionSpec.tokens, List.cons_append, hread,
        marks_words ho.wording.data, groupMarks, groupMarks_words, hrest]
      simp

/-- **A text with the tokens of words and of options** declares these words and options. -/
theorem readParts_of_tokens {text pattern : String} {options : List OptionSpec}
    (hpattern : IsWording pattern) (hoptions : ∀ o ∈ options, o.IsDeclarable)
    (h : splitSpec text = splitSpec pattern ++ options.flatMap OptionSpec.tokens) :
    readParts text = (pattern, options) := by
  have hsame : ∀ o ∈ options, (⟨o.flag, unwords (splitSpec o.constraint)⟩ : OptionSpec) = o :=
    fun o ho => by rw [(hoptions o ho).wording.joined]
  rw [readParts, h, marks_words hpattern.data, groupMarks_words, groupMarks_tokens hoptions]
  simp only [List.append_nil, hpattern.joined, List.map_map, Function.comp_def]
  rw [List.map_congr_left hsame, List.map_id']

/-! ## What a specification consists of -/

section Compiled

variable {name raw : String}

/-- Words of a text that closes all braces, joined by single spaces. -/
lemma isWording_unwords (hclosed : openBraces raw = 0) {ws : List String}
    (h : ∀ w ∈ ws, Mark.word w ∈ marks (splitSpec raw)) : IsWording (unwords ws) := by
  have hcrosses : ∀ w ∈ ws, braceCutter.Crosses 0 w.toList 0 :=
    fun w hw => crosses_of_mem_splitSpec hclosed (word_mem_marks (h w hw)).1
  have hne : ∀ w ∈ ws, w ≠ "" :=
    fun w hw => (spaced_splitSpec raw).ne_empty w (word_mem_marks (h w hw)).1
  have htokens : splitSpec (unwords ws) = ws := splitSpec_unwords (spaced_of_forall hne hcrosses)
  refine ⟨openBraces_intercalate (by decide) fun w hw => (hcrosses w hw).after_eq, ?_, ?_⟩
  · rw [htokens]
    exact fun w hw => (word_mem_marks (h w hw)).2
  · rw [htokens]

lemma isWording_pattern (hclosed : openBraces raw = 0) :
    IsWording (CommandSpec.compile name raw).argumentPattern :=
  isWording_unwords hclosed fun _ hw => word_mem_of_mem_groupMarks (Or.inl hw)

lemma isDeclarable_of_mem_compile (hminus : "-" ∉ splitSpec raw) (hclosed : openBraces raw = 0)
    {o : OptionSpec} (h : o ∈ (CommandSpec.compile name raw).options) : o.IsDeclarable := by
  obtain ⟨group, hgroup, rfl⟩ := List.mem_map.mp h
  obtain ⟨hmem, hlike⟩ := flag_mem_marks hminus (flag_mem_of_mem_groupMarks hgroup)
  have hcrosses := crosses_of_mem_splitSpec hclosed hmem
  have htoken := splitSpec_unwords (.single ((spaced_splitSpec raw).ne_empty _ hmem) hcrosses)
  refine ⟨hlike, hcrosses.after_eq, by simpa [unwords] using htoken, ?_⟩
  exact isWording_unwords hclosed fun _ hw =>
    word_mem_of_mem_groupMarks (Or.inr ⟨group, hgroup, hw⟩)

end Compiled

/-! ## Rows -/

lemma rowsOf_ne_nil (x : OptionSpec × Nat) (xs : List (OptionSpec × Nat)) :
    rowsOf (x :: xs) ≠ [] := by
  cases xs with
  | nil => simp [rowsOf]
  | cons y ys =>
      rw [rowsOf]
      split_ifs
      · simp
      · simpa [List.modifyHead_eq_nil_iff] using rowsOf_ne_nil y ys

/-- Rows keep the options that are put into them, and their order. -/
lemma flatten_rowsOf (xs : List (OptionSpec × Nat)) : (rowsOf xs).flatten = xs.map (·.1) := by
  fun_induction rowsOf xs with
  | case1 => rfl
  | case2 => rfl
  | case3 o i p j rest rows hbreak ih => simpa using ih
  | case4 o i p j rest rows hbreak ih =>
      -- The option goes to the head of the first row, which there is because there are options left.
      obtain ⟨row, more, hrows⟩ := List.exists_cons_of_ne_nil (rowsOf_ne_nil (p, j) rest)
      rw [hrows] at ih
      have hextended : rows.modifyHead (o :: ·) = (o :: row) :: more := by
        simp only [rows, hrows, List.modifyHead_cons]
      rw [hextended, List.map_cons, ← ih]
      rfl

/-- The rows of a help text hold the options that are not hidden. -/
lemma flatten_optionRows (options : List OptionSpec) :
    (optionRows options).flatten = options.filter (!·.isHidden) := by
  have hoptions : options = options.zipIdx.map (·.1) := by simp
  conv_rhs => rw [hoptions, List.filter_map]
  rw [optionRows, flatten_rowsOf]
  rfl

/-! ## The tokens of a help text -/

lemma OptionSpec.shown_eq (o : OptionSpec) : o.shown = unwords (o.flag :: phrase o.constraint) := by
  rw [OptionSpec.shown, phrase]
  split_ifs <;> simp [unwords, String.intercalate_cons_cons]

/-- The texts that show an option close all braces. -/
lemma OptionSpec.IsDeclarable.closed {o : OptionSpec} (h : o.IsDeclarable) :
    ∀ text ∈ o.flag :: phrase o.constraint, openBraces text = 0 := by
  intro text htext
  rcases List.mem_cons.mp htext with rfl | hmem
  · exact h.flag_closed
  · rw [phrase] at hmem
    split_ifs at hmem
    · simp at hmem
    · rw [List.mem_singleton.mp hmem]
      exact h.wording.closed

lemma splitSpec_phrase (text : String) : (phrase text).flatMap splitSpec = splitSpec text := by
  rw [phrase]
  split_ifs with h
  · rw [h]
    rfl
  · simp

lemma openBraces_shown {o : OptionSpec} (h : o.IsDeclarable) : openBraces o.shown = 0 := by
  rw [OptionSpec.shown_eq]
  exact openBraces_intercalate (by decide) h.closed

lemma splitSpec_shown {o : OptionSpec} (h : o.IsDeclarable) : splitSpec o.shown = o.tokens := by
  rw [OptionSpec.shown_eq, unwords, splitSpec_intercalate (by decide) (by decide) h.closed,
    List.flatMap_cons, splitSpec_phrase, h.flag_token]
  rfl

section Row

variable {row : List OptionSpec} {entries : List String}

lemma closed_row (h : ∀ o ∈ row, o.IsDeclarable) (hentries : ∀ text ∈ entries, openBraces text = 0) :
    ∀ text ∈ row.map OptionSpec.shown ++ entries, openBraces text = 0 := by
  intro text htext
  rcases List.mem_append.mp htext with hrow | hentry
  · obtain ⟨o, ho, rfl⟩ := List.mem_map.mp hrow
    exact openBraces_shown (h o ho)
  · exact hentries text hentry

/-- A row of options, and other entries behind it. -/
lemma splitSpec_row (h : ∀ o ∈ row, o.IsDeclarable)
    (hentries : ∀ text ∈ entries, openBraces text = 0) :
    splitSpec (unwords (row.map OptionSpec.shown ++ entries))
      = row.flatMap OptionSpec.tokens ++ entries.flatMap splitSpec := by
  have hshown : ∀ o ∈ row, splitSpec o.shown = o.tokens := fun o ho => splitSpec_shown (h o ho)
  rw [unwords, splitSpec_intercalate (by decide) (by decide) (closed_row h hentries),
    List.flatMap_append, List.flatMap_map, List.flatMap_congr hshown]

end Row

/-- What the entry at the end of every list declares. -/
def helpOptions : List OptionSpec :=
  [⟨"-help", ""⟩, ⟨"-h", ""⟩]

lemma isDeclarable_of_mem_helpOptions {o : OptionSpec} (h : o ∈ helpOptions) : o.IsDeclarable := by
  have hempty : IsWording "" := ⟨rfl, by decide, rfl⟩
  rcases List.mem_pair.mp h with rfl | rfl
  · exact ⟨rfl, rfl, rfl, hempty⟩
  · exact ⟨rfl, rfl, rfl, hempty⟩

section Lines

variable {rows : List (List OptionSpec)}

lemma closed_optionLines (h : ∀ row ∈ rows, ∀ o ∈ row, o.IsDeclarable) :
    ∀ line ∈ optionLines rows, openBraces line = 0 := by
  fun_induction optionLines rows with
  | case1 => decide
  | case2 row =>
      intro line hline
      rw [List.mem_singleton.mp hline]
      exact openBraces_intercalate (by decide) (closed_row (h row List.mem_cons_self) (by decide))
  | case3 row rows _ ih =>
      have hrow : ∀ text ∈ row.map OptionSpec.shown ++ [], openBraces text = 0 :=
        closed_row (h row List.mem_cons_self) (by simp)
      intro line hline
      rcases List.mem_cons.mp hline with rfl | hmem
      · rw [List.append_nil] at hrow
        exact openBraces_intercalate (by decide) hrow
      · exact ih (fun r hr => h r (List.mem_cons_of_mem _ hr)) line hmem

/-- **The tokens of the rows** are those of the options in them, and of the help flags at the end. -/
theorem splitSpec_optionLines (h : ∀ row ∈ rows, ∀ o ∈ row, o.IsDeclarable) :
    (optionLines rows).flatMap splitSpec
      = (rows.flatten ++ helpOptions).flatMap OptionSpec.tokens := by
  fun_induction optionLines rows with
  | case1 => rfl
  | case2 row =>
      rw [List.flatMap_singleton, splitSpec_row (h row List.mem_cons_self) (by decide),
        List.flatten_singleton, List.flatMap_append]
      rfl
  | case3 row rows _ ih =>
      have hrow : splitSpec (unwords (row.map OptionSpec.shown ++ []))
          = row.flatMap OptionSpec.tokens ++ [] :=
        splitSpec_row (h row List.mem_cons_self) (by simp)
      rw [List.append_nil, List.append_nil] at hrow
      rw [List.flatMap_cons, hrow, ih fun r hr => h r (List.mem_cons_of_mem _ hr),
        List.flatten_cons, List.append_assoc, ← List.flatMap_append]

end Lines

/-! ## The lines of a help text -/

lemma optionLines_ne_nil (rows : List (List OptionSpec)) : optionLines rows ≠ [] := by
  fun_cases optionLines rows <;> simp

/-- What stands between two rows of options. -/
def rowBreak : String :=
  "\n" ++ optionsIndent

/-- What a help text says behind the label of the options. -/
def CommandSpec.optionListing (spec : CommandSpec) : String :=
  rowBreak.intercalate (optionLines (spec.shownRows none)) ++ "\n"

/-- Lines that are ended, all but the first of them indented. -/
lemma join_indented (first : String) (rest : List String) :
    first ++ "\n" ++ String.join ((rest.map (optionsIndent ++ ·)).map (· ++ "\n"))
      = rowBreak.intercalate (first :: rest) ++ "\n" := by
  induction rest generalizing first with
  | nil => simp
  | cons next rest ih =>
      have hrest := ih next
      rw [List.map_cons, List.map_cons, String.join_cons, String.intercalate_cons_cons, rowBreak]
      simp only [String.append_assoc] at hrest ⊢
      rw [hrest]
      rfl

/-- A help text is its three parts. -/
lemma help_eq (spec : CommandSpec) :
    spec.help none = "Command: " ++ spec.name ++ "\n"
      ++ trimmedEnd ("Arguments: " ++ spec.argumentPattern) ++ "\n"
      ++ optionsLabel ++ spec.optionListing := by
  obtain ⟨first, rest, hlines⟩ :=
    List.exists_cons_of_ne_nil (optionLines_ne_nil (spec.shownRows none))
  have hlisting := join_indented first rest
  rw [CommandSpec.help, helpLines, CommandSpec.optionListing, hlines, ← hlisting]
  simp [String.join_cons, String.append_assoc]

/-- The words of a specification do not end in a blank. -/
lemma IsWording.exists_last {text : String} (h : IsWording text) (hne : text ≠ "") :
    ∃ cs c, text.toList = cs ++ [c] ∧ isBlank c = false := by
  rcases List.eq_nil_or_concat' (splitSpec text) with hnil | ⟨tokens, token, htokens⟩
  · have hjoined := h.joined
    rw [hnil] at hjoined
    exact absurd hjoined.symm hne
  · have hmem : token ∈ splitSpec text := by simp [htokens]
    have htoken : token.toList ≠ [] :=
      mt String.toList_eq_nil_iff.mp ((spaced_splitSpec text).ne_empty token hmem)
    obtain ⟨ds, c, hchars⟩ := (List.eq_nil_or_concat' token.toList).resolve_left htoken
    have hcrosses := crosses_of_mem_splitSpec h.closed hmem
    rw [hchars] at hcrosses
    refine ⟨(spacedOut tokens ++ ' ' :: ds).tail, c, ?_, not_isBlank_of_crosses hcrosses⟩
    have hspaced : spacedOut [token] = ' ' :: (ds ++ [c]) := by
      rw [spacedOut, List.flatMap_singleton, hchars]
    rw [← h.joined, htokens, toList_unwords, spacedOut_append, hspaced, ← List.cons_append,
      ← List.append_assoc, List.tail_append_of_ne_nil (by simp)]

/-- The line of the arguments is trimmed, which takes a blank away only where there are none. -/
lemma argumentsLine_eq {pattern : String} (h : IsWording pattern) :
    trimmedEnd ("Arguments: " ++ pattern)
      = if pattern = "" then "Arguments:" else "Arguments: " ++ pattern := by
  split_ifs with hempty
  · rw [hempty]
    decide
  · obtain ⟨cs, c, hchars, hc⟩ := h.exists_last hempty
    have hline : ("Arguments: " ++ pattern).toList = ("Arguments: ".toList ++ cs) ++ [c] := by
      rw [String.toList_append, hchars, List.append_assoc]
    exact trimmedEnd_eq_self hline hc

/-! ## Help that is read again -/

/-- The text behind the label has the tokens of the options that are shown. -/
lemma splitSpec_optionListing {spec : CommandSpec} (h : ∀ o ∈ spec.options, o.IsDeclarable) :
    splitSpec spec.optionListing
      = (spec.options.filter (!·.isHidden) ++ helpOptions).flatMap OptionSpec.tokens := by
  have hflatten : (optionRows spec.options).flatten = spec.options.filter (!·.isHidden) :=
    flatten_optionRows spec.options
  have hrows : ∀ row ∈ optionRows spec.options, ∀ o ∈ row, o.IsDeclarable := by
    intro row hrow o ho
    have hshown : o ∈ spec.options.filter (!·.isHidden) :=
      hflatten ▸ List.mem_flatten.mpr ⟨row, hrow, ho⟩
    exact h o (List.mem_filter.mp hshown).1
  have hclosed := closed_optionLines hrows
  have hended : splitSpec (rowBreak.intercalate (optionLines (optionRows spec.options)) ++ "\n" ++ "")
      = splitSpec (rowBreak.intercalate (optionLines (optionRows spec.options))) ++ splitSpec "" :=
    splitSpec_append (openBraces_intercalate (by decide) hclosed) (by decide) (by decide) ""
  rw [String.append_empty, splitSpec_intercalate (by decide) (by decide) hclosed,
    splitSpec_optionLines hrows, hflatten] at hended
  exact hended.trans (List.append_nil _)

/-- **What help shows can be read back.**  Behind the name and the positional arguments it is a text
that declares, read behind these arguments, just the options that are not hidden and then the two
help flags: no option is lost, doubled, moved or run into the next one where a row ends. -/
theorem help_read_back {raw : String} (hminus : "-" ∉ splitSpec raw) (hclosed : openBraces raw = 0)
    (name : String) :
    let spec := CommandSpec.compile name raw
    ∃ listing,
      spec.help none = "Command: " ++ name ++ "\n"
        ++ (if spec.argumentPattern = "" then "Arguments:" else "Arguments: " ++ spec.argumentPattern)
        ++ "\n" ++ "Options: " ++ listing
      ∧ ∀ reader,
        let again := CommandSpec.compile reader (spec.argumentPattern ++ " " ++ listing)
        again.argumentPattern = spec.argumentPattern
          ∧ again.options = spec.options.filter (!·.isHidden) ++ [⟨"-help", ""⟩, ⟨"-h", ""⟩] := by
  intro spec
  have hpattern : IsWording spec.argumentPattern := isWording_pattern hclosed
  have hoptions : ∀ o ∈ spec.options, o.IsDeclarable :=
    fun o ho => isDeclarable_of_mem_compile hminus hclosed ho
  have hlisted : ∀ o ∈ spec.options.filter (!·.isHidden) ++ helpOptions, o.IsDeclarable := by
    intro o ho
    rcases List.mem_append.mp ho with hshown | hhelp
    · exact hoptions o (List.mem_filter.mp hshown).1
    · exact isDeclarable_of_mem_helpOptions hhelp
  have htokens : splitSpec (spec.argumentPattern ++ " " ++ spec.optionListing)
      = splitSpec spec.argumentPattern
        ++ (spec.options.filter (!·.isHidden) ++ helpOptions).flatMap OptionSpec.tokens := by
    rw [splitSpec_append hpattern.closed (by decide) (by decide), splitSpec_optionListing hoptions]
  have hread : readParts (spec.argumentPattern ++ " " ++ spec.optionListing)
      = (spec.argumentPattern, spec.options.filter (!·.isHidden) ++ helpOptions) :=
    readParts_of_tokens hpattern hlisted htokens
  refine ⟨spec.optionListing, ?_, fun reader => ?_⟩
  · rw [help_eq, argumentsLine_eq hpattern]
    rfl
  · rw [CommandSpec.compile, CommandSpec.read, hread]
    exact ⟨rfl, rfl⟩

/-- A command with two rows of options, one option hidden, and groups that hold blanks and the end of
a line. -/
def fillText : String :=
  "<w>  \x7ba\nb\x7d -a -b x|y -!c <int> -d\t-e -f \x7bp  q\x7d -g"

theorem help_read_back_rows :
    ∃ listing,
      (CommandSpec.compile "fill" fillText).help none
        = "Command: fill\nArguments: <w> \x7ba\nb\x7d\nOptions: " ++ listing
      ∧ ∀ reader, (CommandSpec.compile reader ("<w> \x7ba\nb\x7d " ++ listing)).options
          = [⟨"-a", ""⟩, ⟨"-b", "x|y"⟩, ⟨"-d", ""⟩, ⟨"-e", ""⟩, ⟨"-f", "\x7bp  q\x7d"⟩, ⟨"-g", ""⟩,
            ⟨"-help", ""⟩, ⟨"-h", ""⟩] := by
  have hminus : "-" ∉ splitSpec fillText := by decide +kernel
  have hclosed : openBraces fillText = 0 := by decide +kernel
  obtain ⟨listing, htext, hread⟩ := help_read_back hminus hclosed "fill"
  have hpattern : (CommandSpec.compile "fill" fillText).argumentPattern = "<w> \x7ba\nb\x7d" := by
    decide +kernel
  have hvisible : (CommandSpec.compile "fill" fillText).options.filter (!·.isHidden)
      = [⟨"-a", ""⟩, ⟨"-b", "x|y"⟩, ⟨"-d", ""⟩, ⟨"-e", ""⟩, ⟨"-f", "\x7bp  q\x7d"⟩, ⟨"-g", ""⟩] := by
    decide +kernel
  refine ⟨listing, ?_, fun reader => ?_⟩
  · rw [htext, hpattern, if_neg (by decide)]
    rfl
  · have hagain := (hread reader).2
    rw [hpattern, hvisible] at hagain
    exact hagain

end Optline
