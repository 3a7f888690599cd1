import Optline.Proofs.Quoting

/-!
# Blanks around a command line

A command line is freed of the blanks around it before its words are looked for.  To the scan for the
words, spaces and tabs around a line mean nothing anyway.  Other blanks would be characters of a word to
it, and so what trimming does to them is to make spaces of them; a carriage return at the end of a line
is one of these.  Only where a backslash stands in front of the blanks at the end they are more than
something between words.

* `scan_append_congr` — what stands at the end of a text matters at the place where it is met.
* **`scan_eq_some_nil_iff`** — a trimmed line without words is empty or a comment.
* `plainEnds` — a line with spaces in the place of other blanks around it.
* **`quotedWords?_plainEnds`** — such a line has the words of the trimmed one, unless a blank is protected.
* **`executeLine_runs_words`** — a line does what its words do, and nothing if it has none.
* `outer_blank_dropped` — a carriage return that would be a word, or a part of one.
-/

namespace Optline

open Text

namespace Text.Quoted

/-! ## The end of a text -/

lemma scan_cons_congr {p : Place} {c : Char} {cs ds : List Char}
    (h : scan (p.next c) cs = scan (p.next c) ds) : scan p (c :: cs) = scan p (c :: ds) := by
  cases p <;> simp only [scan, Place.next] at h ⊢ <;> split_ifs at h ⊢ <;> simp [h]

/-- The place where a scan meets the end of a text is all that it knows of the text there. -/
lemma scan_append_congr {p : Place} {cs ds es : List Char}
    (h : scan (cs.foldl Place.next p) ds = scan (cs.foldl Place.next p) es) :
    scan p (cs ++ ds) = scan p (cs ++ es) := by
  induction cs generalizing p with
  | nil => exact h
  | cons c cs ih => exact scan_cons_congr (ih h)

/-- Whether a scan stands behind a backslash outside quotes. -/
def Place.IsEscape (p : Place) : Prop :=
  p = .gapEscape ∨ p = .wordEscape

/-- Between words are spaces and tabs; a line has no line break in it. -/
lemma eq_of_isSeparator {c : Char} (h : isSeparator c = true) (hc : c ≠ '\n') :
    c = ' ' ∨ c = '\t' := by
  simpa [isSeparator, hc] using h

lemma isBlank_of_isSeparator {c : Char} (h : isSeparator c = true) : isBlank c = true := by
  simp only [isSeparator, Bool.or_eq_true, beq_iff_eq] at h
  rcases h with (rfl | rfl) | rfl <;> decide

/-- Behind a text, spaces and tabs mean nothing unless a backslash stands there. -/
lemma scan_of_separators {p : Place} (hp : ¬ p.IsEscape) {cs : List Char}
    (h : ∀ c ∈ cs, c = ' ' ∨ c = '\t') : scan p cs = scan p [] := by
  induction cs generalizing p with
  | nil => rfl
  | cons c cs ih =>
      obtain ⟨hc, hcs⟩ := List.forall_mem_cons.mp h
      have hnext : ¬ (p.next c).IsEscape := by
        unfold Place.IsEscape at hp ⊢
        rcases hc with rfl | rfl <;> cases p <;> simp_all [Place.next, isSeparator]
      rw [scan_cons_congr (ih hnext hcs)]
      unfold Place.IsEscape at hp
      rcases hc with rfl | rfl <;> cases p <;> simp_all [scan, isSeparator, isEscapable, extend]

lemma scan_gap_separators {cs : List Char} (h : ∀ c ∈ cs, c = ' ' ∨ c = '\t') (ds : List Char) :
    scan .gap (cs ++ ds) = scan .gap ds := by
  induction cs with
  | nil => rfl
  | cons c cs ih =>
      obtain ⟨hc, hcs⟩ := List.forall_mem_cons.mp h
      rw [List.cons_append, ← ih hcs]
      rcases hc with rfl | rfl <;> simp [scan, isSeparator]

/-! ## Texts without words -/

/-- Whether a scan stands inside a word. -/
def Place.IsInWord (p : Place) : Prop :=
  p ≠ .gap ∧ p ≠ .gapEscape ∧ p ≠ .comment

lemma extend_eq_some_nil_iff {c : Char} {ws : Option (List (List Char))} :
    extend c ws = some [] ↔ ws = some [] := by
  cases ws with
  | none => simp [extend]
  | some ws => cases ws <;> simp [extend]

/-- A word that has begun is there at the end. -/
lemma scan_ne_some_nil {p : Place} (hp : p.IsInWord) (cs : List Char) : scan p cs ≠ some [] := by
  induction cs generalizing p with
  | nil => cases p <;> simp_all [scan, Place.IsInWord]
  | cons c cs ih =>
      have hword : scan .word cs ≠ some [] := ih (by simp [Place.IsInWord])
      have hescape : scan .wordEscape cs ≠ some [] := ih (by simp [Place.IsInWord])
      have hsingle : scan .single cs ≠ some [] := ih (by simp [Place.IsInWord])
      have hdouble : scan .double cs ≠ some [] := ih (by simp [Place.IsInWord])
      have hdoubleEscape : scan .doubleEscape cs ≠ some [] := ih (by simp [Place.IsInWord])
      cases p <;> simp only [scan] <;> split_ifs <;> simp_all [extend_eq_some_nil_iff, Place.IsInWord]

lemma scan_comment {cs : List Char} (h : '\n' ∉ cs) : scan .comment cs = some [] := by
  induction cs with
  | nil => rfl
  | cons c cs ih =>
      obtain ⟨hc, hcs⟩ : '\n' ≠ c ∧ '\n' ∉ cs := by simpa using h
      rw [scan, if_neg hc.symm, ih hcs]

/-- **A line without words** that begins with no blank is empty or a comment. -/
theorem scan_eq_some_nil_iff {cs : List Char} (hline : '\n' ∉ cs)
    (hblank : ∀ c ∈ cs.head?, isBlank c = false) :
    scan .gap cs = some [] ↔ cs = [] ∨ cs.head? = some '#' := by
  cases cs with
  | nil => simp [scan]
  | cons c cs =>
      obtain ⟨-, hcs⟩ : '\n' ≠ c ∧ '\n' ∉ cs := by simpa using hline
      have hc : ¬ isSeparator c = true := by
        intro h
        have hspace := isBlank_of_isSeparator h
        rw [hblank c rfl] at hspace
        exact absurd hspace (by simp)
      rw [scan, if_neg hc]
      split_ifs with hquote hdouble hescape hcomment
      · simpa [hquote] using scan_ne_some_nil (by simp [Place.IsInWord]) cs
      · simpa [hdouble] using scan_ne_some_nil (by simp [Place.IsInWord]) cs
      · -- Without a line break behind it a backslash begins a word.
        rw [hescape]
        cases cs with
        | nil => simp [scan]
        | cons d ds =>
            obtain ⟨hd, -⟩ : '\n' ≠ d ∧ '\n' ∉ ds := by simpa using hcs
            have hword := scan_ne_some_nil (p := .word) (by simp [Place.IsInWord]) ds
            simp [scan, hd.symm, extend_eq_some_nil_iff, hword]
      · simp [hcomment, scan_comment hcs]
      · have hword := scan_ne_some_nil (p := .word) (by simp [Place.IsInWord]) cs
        simp [extend_eq_some_nil_iff, hword, hcomment]

end Text.Quoted

/-! ## Lines with plain ends -/

/-- A blank as one that is known to stand between words. -/
def plainBlank (c : Char) : Char :=
  if Quoted.isSeparator c then c else ' '

/-- A text with plain blanks at its beginning. -/
def plainStart (cs : List Char) : List Char :=
  (cs.takeWhile isBlank).map plainBlank ++ cs.dropWhile isBlank

/-- A line with a space for every blank around it that is neither a space nor a tab. -/
def plainEnds (line : String) : String :=
  String.ofList (plainStart (plainStart line.toList).reverse).reverse

/-- Whether a backslash outside quotes and comments protects the first of the blanks at the end of a
line. -/
def ProtectsBlank (line : String) : Prop :=
  ((trim line.toList).foldl Quoted.Place.next .gap).IsEscape ∧ trimmedEnd line ≠ line

lemma plainStart_append {blanks cs : List Char} (h : blanks.all isBlank = true)
    (hcs : ∀ c ∈ cs.head?, isBlank c = false) :
    plainStart (blanks ++ cs) = blanks.map plainBlank ++ cs := by
  have hblanks : ∀ c ∈ blanks, isBlank c = true := List.all_eq_true.mp h
  have htake : cs.takeWhile isBlank = [] := by
    cases cs with
    | nil => rfl
    | cons c cs => exact List.takeWhile_cons_of_neg (by simp [hcs c rfl])
  have hdrop : cs.dropWhile isBlank = cs := by
    cases cs with
    | nil => rfl
    | cons c cs => exact List.dropWhile_cons_of_neg (by simp [hcs c rfl])
  rw [plainStart, List.takeWhile_append_of_pos hblanks, List.dropWhile_append_of_pos hblanks, htake,
    hdrop, List.append_nil]

lemma plainStart_of_blanks {blanks : List Char} (h : blanks.all isBlank = true) :
    plainStart blanks = blanks.map plainBlank := by
  rw [← List.append_nil blanks, plainStart_append h (by simp), List.append_nil, List.append_nil]

lemma isBlank_plainBlank {c : Char} : isBlank (plainBlank c) = true := by
  unfold plainBlank
  split_ifs with h
  · exact Quoted.isBlank_of_isSeparator h
  · decide

lemma plainBlank_eq {c : Char} (hc : c ≠ '\n') : plainBlank c = ' ' ∨ plainBlank c = '\t' := by
  unfold plainBlank
  split_ifs with h
  · exact Quoted.eq_of_isSeparator h hc
  · exact Or.inl rfl

lemma separates_map_plainBlank {blanks : List Char} (h : '\n' ∉ blanks) :
    ∀ c ∈ blanks.map plainBlank, c = ' ' ∨ c = '\t' := by
  intro c hc
  obtain ⟨b, hb, rfl⟩ := List.mem_map.mp hc
  exact plainBlank_eq (ne_of_mem_of_not_mem hb h)

lemma not_blank_of_head?_trim (cs : List Char) : ∀ c ∈ (trim cs).head?, isBlank c = false := by
  intro c hc
  rw [head?_trim] at hc
  exact not_isBlank_of_firstMark? hc

/-- Both ends of a line become plain, and what trimming leaves of it stays as it is. -/
lemma toList_plainEnds {line : String} {leading trailing : List Char} (hne : trim line.toList ≠ [])
    (hline : line.toList = leading ++ (trim line.toList ++ trailing))
    (hleading : leading.all isBlank = true) (htrailing : trailing.all isBlank = true) :
    (plainEnds line).toList
      = leading.map plainBlank ++ (trim line.toList ++ trailing.map plainBlank) := by
  have hfront : ∀ c ∈ (trim line.toList ++ trailing).head?, isBlank c = false := by
    rw [List.head?_append_of_ne_nil _ hne]
    exact not_blank_of_head?_trim _
  have hback : ∀ c ∈ ((trim line.toList).reverse ++ (leading.map plainBlank).reverse).head?,
      isBlank c = false := by
    rw [List.head?_append_of_ne_nil _ (by simpa using hne), reverse_trim]
    exact not_blank_of_head?_trim _
  have hstart : plainStart line.toList
      = leading.map plainBlank ++ (trim line.toList ++ trailing) := by
    conv_lhs => rw [hline]
    exact plainStart_append hleading hfront
  rw [plainEnds, String.toList_ofList, hstart, List.reverse_append, List.reverse_append,
    List.append_assoc, plainStart_append (by simpa using htrailing) hback]
  simp

/-- A line of blanks alone becomes a line of plain ones. -/
lemma mem_plainEnds_of_blank {line : String} (hline : '\n' ∉ line.toList)
    (hblank : line.toList.all isBlank = true) :
    ∀ c ∈ (plainEnds line).toList, c = ' ' ∨ c = '\t' := by
  have hplain := separates_map_plainBlank hline
  have hreversed : (line.toList.map plainBlank).reverse.all isBlank = true := by
    simp [isBlank_plainBlank]
  rw [plainEnds, String.toList_ofList, plainStart_of_blanks hblank, plainStart_of_blanks hreversed,
    ← List.map_reverse, List.reverse_reverse]
  refine separates_map_plainBlank fun hmem => ?_
  rcases hplain '\n' hmem with h | h <;> exact absurd h (by decide)

/-- A line whose end is left as it is has no blank there. -/
lemma eq_nil_of_trimmedEnd_eq_self {line : String} {front trailing : List Char}
    (hline : line.toList = front ++ trailing) (htrailing : trailing.all isBlank = true)
    (h : trimmedEnd line = line) : trailing = [] := by
  rcases List.eq_nil_or_concat' trailing with hnil | ⟨blanks, b, rfl⟩
  · exact hnil
  · have hb : isBlank b = true := List.all_eq_true.mp htrailing b (by simp)
    have hdrop : line.toList.rdropWhile isBlank = line.toList := by
      have hchars := congrArg String.toList h
      rwa [trimmedEnd, String.toList_ofList] at hchars
    rw [hline, ← List.append_assoc, List.rdropWhile_concat_pos _ _ _ hb] at hdrop
    have hshorter := (List.rdropWhile_prefix isBlank (front ++ blanks)).length_le
    rw [hdrop, List.length_append, List.length_singleton] at hshorter
    omega

/-- **Plain ends make no words** unless a blank is protected: the words of the line are those of the
trimmed one. -/
theorem quotedWords?_plainEnds {line : String} (hline : '\n' ∉ line.toList)
    (hprotects : ¬ ProtectsBlank line) :
    quotedWords? (plainEnds line) = quotedWords? (trimmed line) := by
  suffices h : Quoted.scan .gap (plainEnds line).toList = Quoted.scan .gap (trim line.toList) by
    rw [quotedWords?, quotedWords?, Quoted.split?, Quoted.split?, h, trimmed, String.toList_ofList]
  by_cases hne : trim line.toList = []
  · have hblank : line.toList.all isBlank = true := by rw [← isEmpty_trim, hne]; rfl
    rw [hne, Quoted.scan_of_separators (by simp [Quoted.Place.IsEscape])
      (mem_plainEnds_of_blank hline hblank)]
  · obtain ⟨leading, trailing, hcs, hleading, htrailing⟩ := exists_trim_between line.toList
    have hmem : '\n' ∉ leading ∧ '\n' ∉ trailing := by
      rw [hcs] at hline
      simp only [List.mem_append, not_or] at hline
      exact ⟨hline.1, hline.2.2⟩
    rw [toList_plainEnds hne hcs hleading htrailing,
      Quoted.scan_gap_separators (separates_map_plainBlank hmem.1)]
    by_cases hescape : ((trim line.toList).foldl Quoted.Place.next .gap).IsEscape
    · -- The blank behind the backslash would be protected, so there is none.
      have hend : trimmedEnd line = line := by
        by_contra hend
        exact hprotects ⟨hescape, hend⟩
      rw [← List.append_assoc] at hcs
      rw [eq_nil_of_trimmedEnd_eq_self hcs htrailing hend, List.map_nil, List.append_nil]
    · have hplain := Quoted.scan_append_congr
        (Quoted.scan_of_separators hescape (separates_map_plainBlank hmem.2))
      rw [hplain, List.append_nil]

lemma plainStart_eq_self {cs : List Char}
    (h : ∀ c ∈ cs.takeWhile isBlank, c = ' ' ∨ c = '\t') : plainStart cs = cs := by
  have hself : ∀ c ∈ cs.takeWhile isBlank, plainBlank c = c := by
    intro c hc
    rcases h c hc with rfl | rfl <;> rfl
  rw [plainStart, List.map_congr_left hself, List.map_id', List.takeWhile_append_dropWhile]

/-- Lines with nothing but spaces and tabs around them are plain already. -/
lemma plainEnds_eq_self {line : String}
    (hleading : ∀ c ∈ line.toList.takeWhile isBlank, c = ' ' ∨ c = '\t')
    (htrailing : ∀ c ∈ line.toList.reverse.takeWhile isBlank, c = ' ' ∨ c = '\t') :
    plainEnds line = line := by
  rw [plainEnds, plainStart_eq_self hleading, plainStart_eq_self htrailing, List.reverse_reverse,
    String.ofList_toList]

/-! ## What a line does -/

lemma newline_not_mem_trim {cs : List Char} (h : '\n' ∉ cs) : '\n' ∉ trim cs := by
  obtain ⟨leading, trailing, hcs, -, -⟩ := exists_trim_between cs
  intro hmem
  exact h (by rw [hcs]; simp [hmem])

/-- A line of one piece has no words exactly if it is blank or a comment. -/
lemma quotedWords?_trimmed_eq_some_nil_iff {line : String} (hline : '\n' ∉ line.toList) :
    quotedWords? (trimmed line) = some [] ↔ IsSilent line.toList := by
  have hwords : quotedWords? (trimmed line) = some []
      ↔ Quoted.scan .gap (trim line.toList) = some [] := by
    rw [quotedWords?, trimmed, String.toList_ofList, Quoted.split?]
    cases Quoted.scan .gap (trim line.toList) with
    | none => simp
    | some words => simp
  rw [hwords, Quoted.scan_eq_some_nil_iff (newline_not_mem_trim hline) (not_blank_of_head?_trim _),
    isSilent_iff_trimmed, trimmed, String.ofList_eq_empty_iff, String.toList_ofList]

/-- Tokens that are executed have been read. -/
lemma execute_ne_openQuote (d : Dispatcher) (tokens : List String) (line : String) :
    (d.execute tokens).result ≠ .error (.openQuote line) := by
  unfold Dispatcher.execute
  split
  · simp
  · split
    · simp
    · split
      · unfold Dispatcher.run
        dsimp only
        split <;> simp
      · simp
      · simp

/-- **A line does what its words do.**  Take a line without a line break and with no blank at its end
that a backslash protects, and read every blank around it that is neither a space nor a tab as a space.
The line has no answer exactly if it has no words then, it cannot be read exactly if its words cannot,
and otherwise the words are executed as they are.  With only spaces and tabs around it, a line is read
as it stands. -/
theorem executeLine_runs_words {line : String} (hline : '\n' ∉ line.toList)
    (hprotects : ¬ ProtectsBlank line) (d : Dispatcher) :
    ((d.executeLine line).result = .ok none ↔ quotedWords? (plainEnds line) = some [])
      ∧ ((d.executeLine line).result = .error (.openQuote (trimmed line))
        ↔ quotedWords? (plainEnds line) = none)
      ∧ (∀ tokens, tokens ≠ [] → quotedWords? (plainEnds line) = some tokens →
        d.executeLine line = ⟨(d.execute tokens).result.map some, (d.execute tokens).dispatcher,
          (d.execute tokens).notices⟩)
      ∧ ((∀ c ∈ line.toList.takeWhile isBlank, c = ' ' ∨ c = '\t') →
        (∀ c ∈ line.toList.reverse.takeWhile isBlank, c = ' ' ∨ c = '\t') →
        plainEnds line = line) := by
  have hsilent := quotedWords?_trimmed_eq_some_nil_iff hline
  have htokens : ∀ tokens, tokens ≠ [] → quotedWords? (trimmed line) = some tokens →
      d.executeLine line = ⟨(d.execute tokens).result.map some, (d.execute tokens).dispatcher,
        (d.execute tokens).notices⟩ := by
    intro tokens hne hwords
    refine Dispatcher.executeLine_of_tokens ?_ d
    rw [lineTokens?, if_neg, hwords]
    rw [← hsilent, hwords]
    simpa using hne
  rw [quotedWords?_plainEnds hline hprotects]
  refine ⟨?_, ⟨fun h => ?_, fun h => ?_⟩, htokens, plainEnds_eq_self⟩
  · rw [hsilent, Dispatcher.executeLine_eq_none_iff]
  · match hwords : quotedWords? (trimmed line) with
    | none => rfl
    | some [] =>
      rw [Dispatcher.executeLine_of_silent (hsilent.mp hwords)] at h
      simp at h
    | some (token :: tokens) =>
      rw [htokens _ (by simp) hwords] at h
      cases hresult : (d.execute (token :: tokens)).result with
      | ok answer => simp [hresult, Except.map] at h
      | error e =>
          rw [hresult, Except.map, Except.error.injEq] at h
          exact absurd (hresult.trans (by rw [h])) (execute_ne_openQuote d _ _)
  · refine executeLine_of_open_quote ?_ h d
    rw [← hsilent, h]
    simp

/-- A tab in front, and behind the words a carriage return and a space that no backslash protects. -/
theorem executeLine_runs_words_echo :
    let line := "\techo -text \"a b\\\\\" c\\\\\r "
    let d : Dispatcher := { registry := ⟨[]⟩, settings := {} }
    '\n' ∉ line.toList ∧ ¬ ProtectsBlank line
      ∧ d.executeLine line = ⟨(d.execute ["echo", "-text", "a b\\", "c\\"]).result.map some,
        (d.execute ["echo", "-text", "a b\\", "c\\"]).dispatcher,
        (d.execute ["echo", "-text", "a b\\", "c\\"]).notices⟩ := by
  intro line d
  have hline : '\n' ∉ line.toList := by decide +kernel
  have hprotects : ¬ ProtectsBlank line := by
    have hplace : (trim line.toList).foldl Quoted.Place.next .gap = .word := by decide +kernel
    rw [ProtectsBlank, hplace]
    simp [Quoted.Place.IsEscape]
  have hwords : quotedWords? (plainEnds line) = some ["echo", "-text", "a b\\", "c\\"] := by
    decide +kernel
  exact ⟨hline, hprotects,
    (executeLine_runs_words hline hprotects d).2.2.1 _ (by simp) hwords⟩

/-- Trimming takes a carriage return away.  As a character of a word it would be a word of its own on a
line with nothing else, and the end of the last word on others. -/
theorem outer_blank_dropped :
    let d : Dispatcher := { registry := ⟨[]⟩, settings := {} }
    (quotedWords? "\r" = some ["\r"] ∧ (d.executeLine "\r").result = .ok none)
      ∧ quotedWords? "x\r" = some ["x\r"]
      ∧ (d.execute ["x\r"]).result = .error (.unknownCommand "x\r")
      ∧ (d.executeLine "x\r").result = .error (.unknownCommand "x") := by
  intro d
  have hline : quotedWords? "\r" = some ["\r"] := by decide +kernel
  have hword : quotedWords? "x\r" = some ["x\r"] := by decide +kernel
  exact ⟨⟨hline, rfl⟩, hword, rfl, rfl⟩

end Optline
