import DecodeProbe.Proofs.FourCC
import DecodeProbe.Proofs.Text.Escaped
import DecodeProbe.Proofs.Text.Pieces

/-!
# Codes in print

A code that is a text prints as its own four bytes, any other one by escapes.  Both
can be read back, and the two kinds are told apart by their length: four bytes make
at most four characters, while a code that is no text has a byte beyond ASCII and
therefore prints as at least seven.
-/

namespace DecodeProbe

open Text

/-! ## Texts and their bytes -/

namespace Text.Utf8

theorem length_le_length_encode (text : List Char) : text.length ≤ (encode text).length := by
  induction text with
  | nil => simp
  | cons c text ih =>
      have hchar : 0 < (String.utf8EncodeChar c).length := by
        rw [String.length_utf8EncodeChar]
        exact c.utf8Size_pos
      rw [encode_cons, List.length_append, List.length_cons]
      omega

theorem encode_of_ascii {input : Bytes} (hascii : ∀ b ∈ input, b.toNat < 0x80) :
    encode (input.map fun b => Char.ofNat b.toNat) = input := by
  induction input with
  | nil => rfl
  | cons b input ih =>
      rw [List.map_cons, encode_cons, encode_ascii (hascii b List.mem_cons_self),
        ih fun later hlater => hascii later (List.mem_cons_of_mem b hlater)]
      rfl

theorem exists_high_of_not_text {input : Bytes} (hbroken : ¬ ∃ text, encode text = input) :
    ∃ b ∈ input, 0x80 ≤ b.toNat := by
  by_contra hnone
  push Not at hnone
  exact hbroken ⟨_, encode_of_ascii hnone⟩

end Text.Utf8

namespace FourCC

/-- The four bytes are the bytes of some characters. -/
def IsText (code : FourCC) : Prop := ∃ text, Utf8.encode text = code.bytes

section

variable {code other : FourCC}

theorem chars_of_encode {text : List Char} (htext : Utf8.encode text = code.bytes) :
    code.chars = text := by
  rw [chars, Utf8.decode?_eq_some_iff.mpr htext]

theorem chars_of_not_isText (hbroken : ¬ code.IsText) :
    code.chars = Escaped.escape code.bytes := by
  rw [chars, Utf8.decode?_eq_none_iff.mpr hbroken]

theorem encode_chars (htext : code.IsText) : Utf8.encode code.chars = code.bytes := by
  obtain ⟨text, hencode⟩ := htext
  rw [chars_of_encode hencode, hencode]

theorem length_chars_le (htext : code.IsText) : code.chars.length ≤ 4 := by
  have hlength := Utf8.length_le_length_encode code.chars
  rwa [encode_chars htext, length_bytes] at hlength

theorem unescape?_chars (hbroken : ¬ code.IsText) :
    Escaped.unescape? code.chars = some code.bytes := by
  rw [chars_of_not_isText hbroken, Escaped.unescape?_escape]

theorem length_chars_of_not_isText (hbroken : ¬ code.IsText) :
    7 ≤ code.chars.length ∧ code.chars.length ≤ 16 := by
  obtain ⟨b, hmem, hhigh⟩ := Utf8.exists_high_of_not_text hbroken
  rw [chars_of_not_isText hbroken]
  exact ⟨Escaped.le_length_escape_of_high hmem hhigh, Escaped.length_escape_le _⟩

theorem chars_ne_of_isText (htext : code.IsText) (hbroken : ¬ other.IsText) :
    code.chars ≠ other.chars := by
  intro heq
  have hshort := length_chars_le htext
  have hlong := (length_chars_of_not_isText hbroken).1
  rw [heq] at hshort
  omega

theorem chars_inj : code.chars = other.chars ↔ code = other := by
  constructor
  · intro heq
    apply bytes_injective
    by_cases hcode : code.IsText
    · by_cases hother : other.IsText
      · rw [← encode_chars hcode, heq, encode_chars hother]
      · exact absurd heq (chars_ne_of_isText hcode hother)
    · by_cases hother : other.IsText
      · exact absurd heq.symm (chars_ne_of_isText hother hcode)
      · apply Option.some.inj
        rw [← unescape?_chars hcode, heq, unescape?_chars hother]
  · exact congrArg chars

end

/-! ## The printed forms -/

section

variable {code other : FourCC}

theorem text_inj : code.text = other.text ↔ code = other := by
  rw [text, text, String.ofList_inj, chars_inj]

theorem described_inj : code.described = other.described ↔ code = other := by
  rw [described, described, String.append_left_inj, String.append_right_inj, text_inj]

theorem indentLines_inj {atStart : Bool} {first second : List Char} :
    indentLines atStart first = indentLines atStart second ↔ first = second := by
  constructor
  · intro heq
    induction first generalizing atStart second with
    | nil => cases second <;> cases atStart <;> simp_all [indentLines]
    | cons c first ih =>
        cases second with
        | nil => cases atStart <;> simp [indentLines] at heq
        | cons d second =>
            cases atStart <;> simp only [indentLines, List.cons_append, List.nil_append,
              List.cons.injEq, true_and] at heq
            all_goals
              obtain ⟨rfl, hrest⟩ := heq
              rw [ih hrest]
  · exact congrArg _

theorem describedOverLines_inj :
    code.describedOverLines = other.describedOverLines ↔ code = other := by
  rw [describedOverLines, describedOverLines, String.append_left_inj, String.append_right_inj,
    String.ofList_inj, indentLines_inj, List.append_left_inj, chars_inj]

end

/--
A code is known by its word and by each of its printed forms.  A text prints as its
own bytes; any other code prints as seven to sixteen printable ASCII characters that
can be read back and that no text prints as.
-/
theorem words_and_prints_distinguish :
    (∀ word, (ofWord word).toWord = word) ∧
    (∀ code, ofWord code.toWord = code) ∧
    (∀ first second : UInt32,
      ((ofWord first).text = (ofWord second).text ↔ first = second) ∧
      ((ofWord first).described = (ofWord second).described ↔ first = second) ∧
      ((ofWord first).describedOverLines = (ofWord second).describedOverLines ↔
        first = second)) ∧
    (∀ code : FourCC, code.IsText → Utf8.bytes code.text = code.bytes) ∧
    (∀ code : FourCC, ¬ code.IsText →
      7 ≤ code.text.length ∧ code.text.length ≤ 16 ∧
      (∀ c ∈ code.text.toList, Escaped.Printable c) ∧
      Escaped.unescape? code.text.toList = some code.bytes) ∧
    (∀ code other : FourCC, code.IsText → ¬ other.IsText → code.text ≠ other.text) := by
  have hword : ∀ first second : UInt32, ofWord first = ofWord second ↔ first = second := by
    intro first second
    rw [ofWord_eq_iff, toWord_ofWord]
  refine ⟨toWord_ofWord, ofWord_toWord, ?_, ?_, ?_, ?_⟩
  · intro first second
    rw [text_inj, described_inj, describedOverLines_inj, hword]
    exact ⟨Iff.rfl, Iff.rfl, Iff.rfl⟩
  · intro code htext
    rw [Utf8.bytes, text, String.toList_ofList, encode_chars htext]
  · intro code hbroken
    obtain ⟨hleast, hmost⟩ := length_chars_of_not_isText hbroken
    rw [text, String.length_ofList, String.toList_ofList]
    refine ⟨hleast, hmost, ?_, unescape?_chars hbroken⟩
    intro c hmem
    rw [chars_of_not_isText hbroken] at hmem
    exact Escaped.printable_of_mem_escape hmem
  · intro code other htext hbroken heq
    rw [text_inj] at heq
    exact hbroken (heq ▸ htext)

/-- The first code spells an escape out; the second one is printed with one. -/
theorem words_and_prints_distinguish_escapes :
    let spelt : FourCC := ⟨0x5C, 0x78, 0x66, 0x66⟩
    let broken : FourCC := ⟨0xFF, 0x5C, 0x78, 0x66⟩
    spelt.IsText ∧ ¬ broken.IsText ∧
      Utf8.bytes spelt.text = spelt.bytes ∧
      (7 ≤ broken.text.length ∧ broken.text.length ≤ 16 ∧
        (∀ c ∈ broken.text.toList, Escaped.Printable c) ∧
        Escaped.unescape? broken.text.toList = some broken.bytes) ∧
      spelt.text ≠ broken.text ∧
      spelt.text = "\\xff" ∧ broken.text = "\\xff\\\\xf" := by
  intro spelt broken
  obtain ⟨-, -, -, htext, hescaped, hne⟩ := words_and_prints_distinguish
  have hspelt : spelt.IsText := ⟨['\\', 'x', 'f', 'f'], by decide⟩
  have hbroken : ¬ broken.IsText := Utf8.decode?_eq_none_iff.mp (by decide)
  exact ⟨hspelt, hbroken, htext spelt hspelt, hescaped broken hbroken,
    hne spelt broken hspelt hbroken, by decide, by decide⟩

end FourCC

end DecodeProbe
