import DecodeProbe.Proofs.CodecSet
import DecodeProbe.Proofs.Text.Numeral

/-!
# Steps on a codec set

What steps leave of a set is decided by the codecs that they add.  Neither the way of
adding one nor its turn matters, questions change nothing, and the bits that belong to
no codec stay as they were.
-/

namespace DecodeProbe.CodecSet

/-! ## What steps add -/

def Step.added? : Step → Option Codec
  | .insert codec | .join codec | .joinInPlace codec => some codec
  | .ask _ => none

def added (steps : List Step) : List Codec := steps.filterMap Step.added?

def applyAll (start : CodecSet) (steps : List Step) : CodecSet := steps.foldl apply start

def insertAll (start : CodecSet) (codecs : List Codec) : CodecSet := codecs.foldl insert start

/-- The bits of the codecs, joined. -/
def bitsOf (codecs : List Codec) : UInt32 := (codecs.map Codec.bit).foldr (· ||| ·) 0

theorem applyAll_eq (start : CodecSet) (steps : List Step) :
    start.applyAll steps = start.insertAll (added steps) := by
  induction steps generalizing start with
  | nil => rfl
  | cons step steps ih =>
      have hrest := ih (start.apply step)
      cases step with
      | insert codec | join codec | joinInPlace codec | ask codec => exact hrest

/-! ## Adding codecs -/

theorem bits_insertAll (start : CodecSet) (codecs : List Codec) :
    (start.insertAll codecs).bits = start.bits ||| bitsOf codecs := by
  induction codecs generalizing start with
  | nil => exact UInt32.or_zero.symm
  | cons codec codecs ih =>
      calc (start.insertAll (codec :: codecs)).bits
          = start.bits ||| codec.bit ||| bitsOf codecs := ih (start.insert codec)
        _ = start.bits ||| bitsOf (codec :: codecs) := UInt32.or_assoc ..

theorem foreign_insertAll (start : CodecSet) (codecs : List Codec) :
    (start.insertAll codecs).foreign = start.foreign := by
  induction codecs generalizing start with
  | nil => rfl
  | cons codec codecs ih => exact (ih (start.insert codec)).trans (foreign_insert start codec)

theorem testBit_insertAll (start : CodecSet) (codecs : List Codec) (position : Nat) :
    (start.insertAll codecs).bits.toNat.testBit position = true ↔
      start.bits.toNat.testBit position = true ∨
        ∃ codec ∈ codecs, codec.position + 4 = position := by
  induction codecs generalizing start with
  | nil => simp [insertAll]
  | cons codec codecs ih =>
      have hrest := ih (start.insert codec)
      rw [testBit_insert, Bool.or_eq_true, decide_eq_true_iff, or_assoc] at hrest
      rw [List.exists_mem_cons_iff]
      exact hrest

theorem contains_insertAll (start : CodecSet) (codecs : List Codec) (codec : Codec) :
    (start.insertAll codecs).contains codec = true ↔
      start.contains codec = true ∨ codec ∈ codecs := by
  have hposition : (∃ other ∈ codecs, other.position + 4 = codec.position + 4) ↔
      codec ∈ codecs := by
    constructor
    · rintro ⟨other, hmem, heq⟩
      exact Codec.position_inj (Nat.add_right_cancel heq) ▸ hmem
    · intro hmem
      exact ⟨codec, hmem, rfl⟩
  rw [contains_eq_testBit, contains_eq_testBit, testBit_insertAll, hposition]

theorem bits_inj {first second : CodecSet} : first.bits = second.bits ↔ first = second := by
  cases first
  cases second
  rw [mk.injEq]

theorem insertAll_congr (start : CodecSet) {codecs others : List Codec}
    (hsame : ∀ codec, codec ∈ codecs ↔ codec ∈ others) :
    start.insertAll codecs = start.insertAll others := by
  apply bits_inj.mp
  apply UInt32.toNat_inj.mp
  apply Nat.eq_of_testBit_eq
  intro position
  rw [Bool.eq_iff_iff, testBit_insertAll, testBit_insertAll]
  simp only [hsame]

/-! ## What a set shows -/

theorem contains_eq_true_iff (set : CodecSet) (codec : Codec) :
    set.contains codec = true ↔ set.bits &&& codec.bit ≠ 0 := bne_iff_ne

theorem mem_codecs (set : CodecSet) (codec : Codec) :
    codec ∈ set.codecs ↔ set.contains codec = true := by
  rw [codecs, List.mem_filter]
  exact and_iff_right (Codec.mem_all codec)

theorem text_inj {first second : CodecSet} : first.text = second.text ↔ first = second := by
  rw [text, text, Text.decimal_inj, UInt32.toNat_inj, bits_inj]

/--
The mask after any steps is the first one joined with the bits of the codecs added, so
steps that add the same codecs leave the same mask.  Every point of a run is the end of
a shorter one: there a codec is contained when it was at the start or has been added.
The contained codecs are listed in the order of probing, and the text is the mask.
-/
theorem applyAll_as_set (start : CodecSet) (steps : List Step) :
    let set := start.applyAll steps
    set.bits = start.bits ||| bitsOf (added steps) ∧
    (∀ others, (∀ codec, codec ∈ added others ↔ codec ∈ added steps) →
      start.applyAll others = set) ∧
    set.bits &&& ~~~0xF0 = start.bits &&& ~~~0xF0 ∧
    (∀ codec, set.contains codec = true ↔
      start.bits &&& codec.bit ≠ 0 ∨ codec ∈ added steps) ∧
    (∀ codec, codec ∈ set.codecs ↔ set.contains codec = true) ∧
    set.codecs.Nodup ∧
    set.codecs.Sublist [.h264, .vp8, .vp9, .av1] ∧
    Text.IsNumeral set.text.toList set.bits.toNat ∧
    (∀ other : CodecSet, set.text = other.text ↔ set = other) := by
  intro set
  have hset : set = start.insertAll (added steps) := applyAll_eq start steps
  have horder : set.codecs.Sublist Codec.all := List.filter_sublist
  refine ⟨?_, ?_, ?_, ?_, mem_codecs set, horder.nodup (by decide), horder, ?_, fun _ => text_inj⟩
  · rw [hset, bits_insertAll]
  · intro others hsame
    rw [applyAll_eq, hset, insertAll_congr start hsame]
  · rw [hset]
    exact foreign_insertAll start (added steps)
  · intro codec
    rw [hset, contains_insertAll, contains_eq_true_iff]
  · rw [text, Text.decimal, String.toList_ofList]
    exact Text.isNumeral_decimalDigits set.bits.toNat

/-- The mask has bits of its own, and one of the steps adds a codec once more. -/
theorem applyAll_as_set_foreign :
    let start : CodecSet := ⟨0xFFFFFF0D⟩
    let steps : List Step := [.join .av1, .ask .vp8, .insert .h264, .joinInPlace .av1]
    let others : List Step := [.insert .h264, .insert .av1]
    (∀ codec, codec ∈ added others ↔ codec ∈ added steps) ∧
      start.applyAll others = start.applyAll steps ∧
      (start.applyAll steps).codecs = [.h264, .av1] ∧
      (start.applyAll steps).text = "4294967197" := by
  intro start steps others
  have hsame : ∀ codec, codec ∈ added others ↔ codec ∈ added steps := by
    intro codec
    cases codec <;> decide
  obtain ⟨-, hothers, -⟩ := applyAll_as_set start steps
  exact ⟨hsame, hothers others hsame, by decide, by decide⟩

end DecodeProbe.CodecSet
