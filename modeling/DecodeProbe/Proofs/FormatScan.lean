import DecodeProbe.FormatScan
import DecodeProbe.Proofs.Concat
import Mathlib.Data.List.Induction
import Mathlib.Data.Nat.Bitwise

/-!
# What a scan remembers

A scan is decided by two facts about the formats recorded so far: whether a raw
one was among them, and whether H264 came after the last raw one.  Everything
said about the mask of a scan follows from these two.
-/

namespace DecodeProbe.FormatScan

/-! ## The two facts -/

def MetRaw (codes : List FourCC) : Prop := ∃ code ∈ codes, code.IsRaw

/-- H264 is among the codes and no raw format comes after it. -/
def KeptH264 (codes : List FourCC) : Prop :=
  ∃ before after, codes = before ++ FourCC.h264 :: after ∧ ∀ code ∈ after, ¬ code.IsRaw

theorem not_isRaw_h264 : ¬ FourCC.h264.IsRaw := by decide

theorem metRaw_concat (codes : List FourCC) (code : FourCC) :
    MetRaw (codes ++ [code]) ↔ MetRaw codes ∨ code.IsRaw := by
  simp [MetRaw, or_and_right, exists_or]

theorem keptH264_concat (codes : List FourCC) (code : FourCC) :
    KeptH264 (codes ++ [code]) ↔ code = FourCC.h264 ∨ (KeptH264 codes ∧ ¬ code.IsRaw) := by
  constructor
  · rintro ⟨before, after, heq, hafter⟩
    rcases concat_eq_append_cons_iff.mp heq with ⟨-, hlast, -⟩ | ⟨between, hcodes, rfl⟩
    · exact .inl hlast
    · refine .inr ⟨⟨before, between, hcodes, ?_⟩, hafter code (by simp)⟩
      intro old hold
      exact hafter old (by simp [hold])
  · rintro (rfl | ⟨⟨before, after, rfl, hafter⟩, hraw⟩)
    · exact ⟨codes, [], rfl, by simp⟩
    · refine ⟨before, after ++ [code], by simp, ?_⟩
      intro later hlater
      rcases List.mem_append.mp hlater with hold | hnew
      · exact hafter later hold
      · simpa [List.mem_singleton.mp hnew] using hraw

theorem metRaw_iff_getElem? (codes : List FourCC) :
    MetRaw codes ↔ ∃ (index : Nat) (code : FourCC), codes[index]? = some code ∧ code.IsRaw := by
  constructor
  · rintro ⟨code, hmem, hraw⟩
    obtain ⟨index, hindex⟩ := List.mem_iff_getElem?.mp hmem
    exact ⟨index, code, hindex, hraw⟩
  · rintro ⟨index, code, hindex, hraw⟩
    exact ⟨code, List.mem_iff_getElem?.mpr ⟨index, hindex⟩, hraw⟩

theorem keptH264_iff_getElem? (codes : List FourCC) :
    KeptH264 codes ↔ ∃ index : Nat, codes[index]? = some FourCC.h264 ∧
      ∀ (later : Nat) (code : FourCC), index < later → codes[later]? = some code → ¬ code.IsRaw := by
  constructor
  · rintro ⟨before, after, rfl, hafter⟩
    refine ⟨before.length, by simp, ?_⟩
    intro later code hlater hcode
    apply hafter code
    obtain ⟨distance, rfl⟩ := Nat.exists_eq_add_of_lt hlater
    rw [Nat.add_assoc, List.getElem?_append_right (by omega), Nat.add_sub_cancel_left,
      List.getElem?_cons_succ] at hcode
    exact List.mem_of_getElem? hcode
  · rintro ⟨index, hindex, hafter⟩
    refine ⟨codes.take index, codes.drop (index + 1), ?_, ?_⟩
    · obtain ⟨hlt, heq⟩ := List.getElem?_eq_some_iff.mp hindex
      rw [← heq, ← List.drop_eq_getElem_cons hlt, List.take_append_drop]
    · intro code hcode
      obtain ⟨distance, hdistance⟩ := List.mem_iff_getElem?.mp hcode
      rw [List.getElem?_drop] at hdistance
      exact hafter _ code (by omega) hdistance

/-! ## The scan they decide -/

def knowing (raw h264 : Bool) : FormatScan :=
  ⟨(if raw then 1 else 0) ||| (if h264 then 0x10 else 0), raw⟩

@[simp] theorem isRaw_knowing (raw h264 : Bool) : (knowing raw h264).isRaw = raw := rfl

theorem record_h264 (raw h264 : Bool) :
    (knowing raw h264).record FourCC.h264 = knowing raw true := by
  cases raw <;> cases h264 <;> decide

theorem record_raw (scan : FormatScan) {code : FourCC} (hraw : code.IsRaw) :
    scan.record code = knowing true false := by
  have hne : code ≠ FourCC.h264 := by
    rintro rfl
    exact not_isRaw_h264 hraw
  simp [record, hne, hraw, knowing]

theorem record_other (scan : FormatScan) {code : FourCC} (hne : code ≠ FourCC.h264)
    (hraw : ¬ code.IsRaw) : scan.record code = scan := by
  simp [record, hne, hraw]

theorem recordAll_concat (scan : FormatScan) (codes : List FourCC) (code : FourCC) :
    scan.recordAll (codes ++ [code]) = (scan.recordAll codes).record code := by
  simp [recordAll]

theorem recordAll_eq_knowing (codes : List FourCC) :
    ∃ raw h264, recordAll {} codes = knowing raw h264 ∧
      (raw = true ↔ MetRaw codes) ∧ (h264 = true ↔ KeptH264 codes) := by
  induction codes using List.reverseRecOn with
  | nil => exact ⟨false, false, by decide, by simp [MetRaw], by simp [KeptH264]⟩
  | append_singleton codes code ih =>
      obtain ⟨raw, h264, hscan, hmet, hkept⟩ := ih
      rw [recordAll_concat, hscan, metRaw_concat, keptH264_concat]
      by_cases hcode : code = FourCC.h264
      · subst hcode
        exact ⟨raw, true, record_h264 raw h264, by simp [hmet, not_isRaw_h264], by simp⟩
      · by_cases hraw : code.IsRaw
        · exact ⟨true, false, record_raw _ hraw, by simp [hraw], by simp [hcode, hraw]⟩
        · exact ⟨raw, h264, record_other _ hcode hraw, by simp [hmet, hraw],
            by simp [hkept, hcode, hraw]⟩

/-! ## The mask -/

theorem testBit_knowing (raw h264 : Bool) (position : Nat) :
    (knowing raw h264).bits.toNat.testBit position =
      (raw && position == 0 || h264 && position == 4) := by
  have hbits : (knowing raw h264).bits.toNat =
      (if raw then 1 else 0) ||| (if h264 then 16 else 0) := by
    cases raw <;> cases h264 <;> rfl
  have hone : Nat.testBit 1 position = (position == 0) := by
    rw [show (1 : Nat) = 2 ^ 0 from rfl, Nat.testBit_two_pow]
    grind
  have hsixteen : Nat.testBit 16 position = (position == 4) := by
    rw [show (16 : Nat) = 2 ^ 4 from rfl, Nat.testBit_two_pow]
    grind
  rw [hbits, Nat.testBit_or]
  cases raw <;> cases h264 <;> simp [hone, hsixteen]

end DecodeProbe.FormatScan
