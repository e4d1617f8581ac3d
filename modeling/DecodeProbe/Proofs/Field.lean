import DecodeProbe.Kernel
import DecodeProbe.Proofs.Text.Blank
import DecodeProbe.Proofs.Text.Pieces
import Mathlib.Data.List.TakeWhile

/-!
# Texts in fields of fixed width

The text of a field is decided by the bytes before the first NUL byte, or by all of
them when there is none.  A text that fits its field is read back, also when it fills
the field to the last byte.  A longer one is cut: the characters whose bytes all fit
are kept, and the rest of a character that was cut shows as one replacement
character.
-/

namespace DecodeProbe

open Text Text.Utf8

/-! ## What fits -/

/-- The longest beginning of a text whose bytes fit. -/
structure LongestFitting (width : Nat) (text kept : List Char) : Prop where
  begins : kept <+: text
  fits : (encode kept).length ≤ width
  longest : ∀ other, other <+: text → (encode other).length ≤ width → other.length ≤ kept.length

theorem exists_cut {width : Nat} {text : List Char} (hlong : width < (encode text).length) :
    ∃ kept c later, text = kept ++ c :: later ∧ (encode kept).length ≤ width ∧
      width < (encode kept).length + (String.utf8EncodeChar c).length := by
  induction text generalizing width with
  | nil => simp at hlong
  | cons c text ih =>
      rw [encode_cons, List.length_append] at hlong
      by_cases hfirst : (String.utf8EncodeChar c).length ≤ width
      · obtain ⟨kept, d, later, rfl, hfits, hcut⟩ :=
          @ih (width - (String.utf8EncodeChar c).length) (by omega)
        refine ⟨c :: kept, d, later, rfl, ?_, ?_⟩ <;>
          rw [encode_cons, List.length_append] <;> omega
      · exact ⟨[], c, text, rfl, by simp, by simpa using hfirst⟩

theorem longestFitting_of_cut {width : Nat} {kept later : List Char} {c : Char}
    (hfits : (encode kept).length ≤ width)
    (hcut : width < (encode kept).length + (String.utf8EncodeChar c).length) :
    LongestFitting width (kept ++ c :: later) kept where
  begins := List.prefix_append _ _
  fits := hfits
  longest := by
    intro other hother hlength
    by_contra hlonger
    -- a longer beginning would hold the character that does not fit
    have hone : kept ++ [c] <+: kept ++ c :: later := ⟨later, by simp⟩
    obtain ⟨more, rfl⟩ := List.prefix_of_prefix_length_le hone hother (by simp; omega)
    simp only [encode_append, encode_cons, encode_nil, List.length_append] at hlength
    omega

/-! ## Bytes that were cut -/

theorem lossy_take_encode {width : Nat} {kept later : List Char} {c : Char}
    (hfits : (encode kept).length ≤ width)
    (hcut : width < (encode kept).length + (String.utf8EncodeChar c).length) :
    lossy ((encode (kept ++ c :: later)).take width) =
      kept ++ if (encode kept).length < width then ['\uFFFD'] else [] := by
  obtain ⟨room, rfl⟩ := Nat.exists_eq_add_of_le hfits
  have hbytes : (encode (kept ++ c :: later)).take ((encode kept).length + room) =
      encode kept ++ (String.utf8EncodeChar c).take room := by
    rw [encode_append, encode_cons, List.take_length_add_append,
      List.take_append_of_le_length (by omega)]
  rw [hbytes, lossy, pieces, piecesFrom_encode]
  by_cases hroom : room = 0
  · subst hroom
    simp [piecesFrom, Piece.shown, Function.comp_def]
  · have hbroken : pieces ((String.utf8EncodeChar c).take room) = [.broken] := by
      apply pieces_of_cut _ _ (List.take_append_drop room _).symm
      · rw [ne_eq, ← List.length_eq_zero_iff, List.length_take]
        omega
      · rw [ne_eq, List.drop_eq_nil_iff]
        omega
    rw [← pieces, hbroken, if_pos (by omega)]
    simp [Piece.shown, Function.comp_def]

namespace Field

variable {width : Nat}

/-! ## Reading a field -/

theorem takeWhile_of_split {content rest : Bytes} (hcontent : 0 ∉ content)
    (hrest : ∀ b ∈ rest.head?, b = 0) : (content ++ rest).takeWhile (· ≠ 0) = content := by
  rw [List.takeWhile_append_of_pos]
  · cases rest with
    | nil => simp
    | cons b rest => simp [hrest b rfl]
  · intro b hmem
    rw [decide_eq_true_iff]
    rintro rfl
    exact hcontent hmem

theorem chars_of_split (field : Field width) {content rest : Bytes}
    (hbytes : field.bytes = content ++ rest) (hcontent : 0 ∉ content)
    (hrest : ∀ b ∈ rest.head?, b = 0) : field.chars = trim (lossy content) := by
  rw [chars, hbytes, takeWhile_of_split hcontent hrest]

theorem nul_notMem_chars (field : Field width) : '\x00' ∉ field.chars := by
  intro hmem
  have hzero := (ascii_mem_lossy (by decide) _).mp (mem_of_mem_trim hmem)
  simpa using List.mem_takeWhile_imp hzero

/-! ## Storing a text -/

theorem zero_notMem_encode {text : List Char} (hnul : '\x00' ∉ text) : 0 ∉ encode text := by
  intro hmem
  have hshown := (ascii_mem_lossy (c := '\x00') (by decide) (encode text)).mpr hmem
  rw [lossy_encode] at hshown
  exact hnul hshown

theorem chars_store {content : Bytes} (hzero : 0 ∉ content) :
    (store width content).chars = trim (lossy (content.take width)) := by
  have hbytes : (store width content).bytes =
      content.take width ++ (List.replicate width 0).take (width - content.length) :=
    List.take_append
  apply chars_of_split _ hbytes
  · exact fun hmem => hzero (List.mem_of_mem_take hmem)
  · intro b hhead
    exact List.eq_of_mem_replicate (List.mem_of_mem_take (List.mem_of_mem_head? hhead))

theorem chars_store_of_fits {text : List Char} (hnul : '\x00' ∉ text) (htrimmed : Trimmed text)
    (hfits : (encode text).length ≤ width) : (store width (encode text)).chars = text := by
  rw [chars_store (zero_notMem_encode hnul), List.take_of_length_le hfits, lossy_encode,
    trim_of_trimmed htrimmed]

theorem chars_store_of_long {text : List Char} (hnul : '\x00' ∉ text)
    (hlong : width < (encode text).length) :
    ∃ kept, LongestFitting width text kept ∧
      (store width (encode text)).chars =
        trim (kept ++ if (encode kept).length < width then ['\uFFFD'] else []) := by
  obtain ⟨kept, c, later, rfl, hfits, hcut⟩ := exists_cut hlong
  refine ⟨kept, longestFitting_of_cut hfits hcut, ?_⟩
  rw [chars_store (zero_notMem_encode hnul), lossy_take_encode hfits hcut]

/--
The text of a field is the trimmed text before its first NUL byte.  A trimmed text
that is stored in a field is read back when it fits; of a longer one the characters
that fit are left, with a replacement character if another one was cut.
-/
theorem text_recovers (width : Nat) :
    (∀ field : Field width,
      (∀ content rest, field.bytes = content ++ rest → 0 ∉ content →
        (∀ b ∈ rest.head?, b = 0) → field.text = String.ofList (trim (lossy content))) ∧
      '\x00' ∉ field.text.toList ∧ Trimmed field.text.toList) ∧
    (∀ s : String, '\x00' ∉ s.toList → Trimmed s.toList →
      ((Utf8.bytes s).length ≤ width → (store width (Utf8.bytes s)).text = s) ∧
      (width < (Utf8.bytes s).length → ∃ kept, LongestFitting width s.toList kept ∧
        (store width (Utf8.bytes s)).text = String.ofList
          (trim (kept ++ if (encode kept).length < width then ['\uFFFD'] else [])))) := by
  refine ⟨fun field => ⟨?_, ?_, ?_⟩, fun s hnul htrimmed => ⟨?_, ?_⟩⟩
  · intro content rest hbytes hcontent hrest
    rw [text, field.chars_of_split hbytes hcontent hrest]
  · rw [text, String.toList_ofList]
    exact field.nul_notMem_chars
  · rw [text, String.toList_ofList]
    exact trimmed_trim _
  · intro hfits
    rw [text, Utf8.bytes, chars_store_of_fits hnul htrimmed hfits, String.ofList_toList]
  · intro hlong
    obtain ⟨kept, hkept, hchars⟩ := chars_store_of_long hnul hlong
    exact ⟨kept, hkept, congrArg String.ofList hchars⟩

theorem text_recovers_cut :
    let name := Utf8.bytes "rkvdec"
    let field : Field 16 := ⟨name ++ 0 :: List.replicate 9 0xFF, by decide⟩
    let full := "abcdefghijklmn\u00E9"
    let long := "abcdefghijklmno\u00E9"
    (0 ∉ name ∧ field.text = String.ofList (trim (lossy name))) ∧
    ('\x00' ∉ full.toList ∧ Trimmed full.toList ∧ (Utf8.bytes full).length ≤ 16 ∧
      (store 16 (Utf8.bytes full)).text = full) ∧
    ('\x00' ∉ long.toList ∧ Trimmed long.toList ∧ 16 < (Utf8.bytes long).length ∧
      ∃ kept, LongestFitting 16 long.toList kept ∧
        (store 16 (Utf8.bytes long)).text = String.ofList
          (trim (kept ++ if (encode kept).length < 16 then ['\uFFFD'] else []))) := by
  intro name field full long
  obtain ⟨hfield, hstored⟩ := text_recovers 16
  have hname : 0 ∉ name := by decide
  have hfull : '\x00' ∉ full.toList := by decide
  have hfullEnds : Trimmed full.toList := by decide
  have hfits : (Utf8.bytes full).length ≤ 16 := by decide
  have hlong : '\x00' ∉ long.toList := by decide
  have hlongEnds : Trimmed long.toList := by decide
  have hcut : 16 < (Utf8.bytes long).length := by decide
  refine ⟨⟨hname, ?_⟩, ⟨hfull, hfullEnds, hfits, ?_⟩, ⟨hlong, hlongEnds, hcut, ?_⟩⟩
  · exact (hfield field).1 name _ rfl hname (by simp)
  · exact (hstored full hfull hfullEnds).1 hfits
  · exact (hstored long hlong hlongEnds).2 hcut

end Field

end DecodeProbe
