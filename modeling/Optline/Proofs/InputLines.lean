import Optline.Console
import Optline.Proofs.Blank

/-!
# The lines of an input

An input is a sequence of bytes, and it is cut at bytes before any of them are read as text.  For a
text this comes to the same as cutting the text, because the bytes of a line break are the bytes of
no other character and of no part of one.

* `bytesOf` — the bytes of a text.
* `eq_of_mem_utf8EncodeChar` — a byte below 128 stands for a character of its own.
* `withoutReturn` — a line without the carriage return that belongs to its break.
* **`inputLines_toUTF8`** — the lines of an input that is a text.
-/

namespace Optline

/-! ## Bytes of texts -/

/-- The bytes of a text. -/
def bytesOf (text : String) : List UInt8 :=
  text.toList.flatMap String.utf8EncodeChar

lemma toList_loop (bs : ByteArray) (i : Nat) (acc : List UInt8) :
    ByteArray.toList.loop bs i acc = acc.reverse ++ bs.data.toList.drop i := by
  fun_induction ByteArray.toList.loop bs i acc with
  | case1 i acc hi ih =>
      have hlength : i < bs.data.toList.length := by simpa using hi
      have hbyte : bs.get! i = bs.data.toList[i] := getElem!_pos bs.data i hi
      rw [ih, List.reverse_cons, List.append_assoc, List.singleton_append, hbyte,
        ← List.drop_eq_getElem_cons hlength]
  | case2 i acc hi =>
      have hlength : bs.data.toList.length ≤ i := by simpa using Nat.le_of_not_lt hi
      rw [List.drop_eq_nil_of_le hlength, List.append_nil]

lemma toByteArray_eq (text : String) : text.toByteArray = (bytesOf text).toByteArray := by
  have hencode := String.toByteArray_ofList (l := text.toList)
  rwa [String.ofList_toList] at hencode

lemma toList_toUTF8 (text : String) : text.toUTF8.toList = bytesOf text := by
  rw [String.toUTF8_eq_toByteArray, ByteArray.toList, toList_loop, toByteArray_eq]
  simp

/-- The bytes of a text are read as that text. -/
lemma fromUTF8?_bytesOf (text : String) :
    String.fromUTF8? ⟨(bytesOf text).toArray⟩ = some text := by
  have hbytes : (⟨(bytesOf text).toArray⟩ : ByteArray) = text.toByteArray := by
    rw [toByteArray_eq]
    exact ByteArray.ext (Array.toList_inj.mp (by simp))
  rw [hbytes, String.fromUTF8?, dif_pos text.isValidUTF8]
  rfl

lemma bytesOf_eq_nil_iff {text : String} : bytesOf text = [] ↔ text = "" := by
  constructor
  · intro h
    have hread := fromUTF8?_bytesOf text
    rw [h] at hread
    exact Option.some.inj (hread.symm.trans (fromUTF8?_bytesOf ""))
  · rintro rfl
    rfl

lemma bytesOf_append (a b : String) : bytesOf (a ++ b) = bytesOf a ++ bytesOf b := by
  simp [bytesOf]

/-- A byte below 128 stands for a character of its own. -/
lemma eq_of_mem_utf8EncodeChar {c : Char} {b : UInt8} (h : b ∈ String.utf8EncodeChar c)
    (hb : b.toNat < 128) : String.utf8EncodeChar c = [b] ∧ c.toNat = b.toNat := by
  have hhigh : ∀ x y : UInt8, 128 ≤ y.toNat → b ≠ x ||| y := by
    rintro x y hy rfl
    rw [UInt8.toNat_or] at hb
    exact absurd (Nat.le_trans hy Nat.right_le_or) (Nat.not_le.mpr hb)
  rcases c.utf8Size_eq with hsize | hsize | hsize | hsize
  · rw [String.utf8EncodeChar_eq_singleton hsize] at h ⊢
    obtain rfl := List.mem_singleton.mp h
    have hsmall : c.val.toNat ≤ 127 := UInt32.le_iff_toNat_le.mp (Char.utf8Size_eq_one_iff.mp hsize)
    refine ⟨rfl, ?_⟩
    rw [UInt32.toNat_toUInt8, Nat.mod_eq_of_lt (by omega)]
    rfl
  -- All bytes of a longer character have their first bit set.
  · rw [String.utf8EncodeChar_eq_cons_cons hsize] at h
    simp [hhigh] at h
  · rw [String.utf8EncodeChar_eq_cons_cons_cons hsize] at h
    simp [hhigh] at h
  · rw [String.utf8EncodeChar_eq_cons_cons_cons_cons hsize] at h
    simp [hhigh] at h

lemma eq_of_byte_mem {c d : Char} {b : UInt8} (hb : b.toNat < 128) (hd : d.toNat = b.toNat)
    (h : b ∈ String.utf8EncodeChar c) : c = d :=
  Char.toNat_inj.mp ((eq_of_mem_utf8EncodeChar h hb).2.trans hd.symm)

lemma newline_not_mem_bytesOf {text : String} (h : '\n' ∉ text.toList) : 10 ∉ bytesOf text := by
  intro hmem
  obtain ⟨c, hc, hbyte⟩ := List.mem_flatMap.mp hmem
  obtain rfl : c = '\n' := eq_of_byte_mem (by decide) rfl hbyte
  exact h hc

/-! ## Lines -/

/-- A line without the carriage return that belongs to its break. -/
def withoutReturn (line : String) : String :=
  if line.toList.getLast? = some '\r' then String.ofList line.toList.dropLast else line

lemma trimmed_withoutReturn (line : String) :
    Text.trimmed (withoutReturn line) = Text.trimmed line := by
  unfold withoutReturn
  split_ifs with h
  · rw [Text.trimmed, Text.trimmed, String.toList_ofList]
    conv_rhs => rw [← List.dropLast_append_getLast? '\r' h]
    rw [Text.trim_concat_blank (by decide)]
  · rfl

lemma dropReturn_bytesOf (line : String) :
    dropReturn (bytesOf line) = bytesOf (withoutReturn line) := by
  rcases List.eq_nil_or_concat' line.toList with hnil | ⟨init, c, hline⟩
  · obtain rfl := String.toList_eq_nil_iff.mp hnil
    rfl
  · have hbytes : bytesOf line = init.flatMap String.utf8EncodeChar ++ String.utf8EncodeChar c := by
      rw [bytesOf, hline, List.flatMap_append, List.flatMap_singleton]
    by_cases hc : c = '\r'
    · subst hc
      have hreturn : String.utf8EncodeChar '\r' = [13] := by decide
      have hkept : withoutReturn line = String.ofList init := by
        simp [withoutReturn, hline]
      rw [hkept, hbytes, hreturn, dropReturn]
      simp [bytesOf]
    · have hkept : withoutReturn line = line := by
        simp [withoutReturn, hline, hc]
      have hlast : (bytesOf line).getLast? ≠ some 13 := by
        rw [hbytes, List.getLast?_append_of_ne_nil _ String.utf8EncodeChar_ne_nil]
        intro hlast
        exact hc (eq_of_byte_mem (by decide) rfl (List.mem_of_getLast? hlast))
      rw [hkept, dropReturn, if_neg hlast]

lemma bytesOf_intercalate (lines : List String) :
    bytesOf ("\n".intercalate lines) = [10].intercalate (lines.map bytesOf) := by
  cases lines with
  | nil => rfl
  | cons line lines =>
      induction lines generalizing line with
      | nil => simp
      | cons next lines ih =>
          have hnewline : bytesOf "\n" = [10] := by decide
          rw [String.intercalate_cons_cons, bytesOf_append, bytesOf_append, ih, hnewline]
          simp only [List.map_cons, List.intercalate_cons_cons]

/-- **The lines of an input that is a text** are the lines of the text, without the carriage returns
in front of its line breaks.  Nothing behind the last break is no line. -/
theorem inputLines_toUTF8 {lines : List String} {last : String}
    (h : ∀ line ∈ lines ++ [last], '\n' ∉ line.toList) :
    inputLines ("\n".intercalate (lines ++ [last])).toUTF8
      = (lines.map withoutReturn ++ if last = "" then [] else [last]).map some := by
  have hpieces : (bytesOf ("\n".intercalate (lines ++ [last]))).splitOn 10
      = lines.map bytesOf ++ [bytesOf last] := by
    rw [bytesOf_intercalate, List.splitOn_intercalate, List.map_append, List.map_singleton]
    · intro bytes hbytes
      obtain ⟨line, hline, rfl⟩ := List.mem_map.mp hbytes
      exact newline_not_mem_bytesOf (h line hline)
    · simp
  have hbyteLines : byteLines (bytesOf ("\n".intercalate (lines ++ [last])))
      = (lines.map withoutReturn ++ if last = "" then [] else [last]).map bytesOf := by
    rw [byteLines, hpieces]
    by_cases hlast : last = ""
    · simp [hlast, bytesOf_eq_nil_iff.mpr, dropReturn_bytesOf]
    · simp [hlast, bytesOf_eq_nil_iff, dropReturn_bytesOf]
  rw [inputLines, toList_toUTF8, hbyteLines, List.map_map]
  exact List.map_congr_left fun line _ => fromUTF8?_bytesOf line

end Optline
