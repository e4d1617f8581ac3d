import DecodeProbe.Proofs.FormatScan

/-!
# Histories of a scan

However long a scan goes on, its two fields tell one story: the scan is raw exactly
when the lowest bit of its mask is set, and H264 shows exactly when no raw format came
after it.  All other codes pass without a trace and can be struck from a history.
-/

namespace DecodeProbe

/-- The codes that a scan takes note of. -/
def FourCC.noted : List FourCC := [h264, nv12, yv12]

namespace FormatScan

/-! ## One more code -/

theorem record_of_notMem_noted (scan : FormatScan) {code : FourCC}
    (hcode : code ∉ FourCC.noted) : scan.record code = scan := by
  simp only [FourCC.noted, List.mem_cons, List.not_mem_nil, or_false, not_or] at hcode
  obtain ⟨hh264, hnv12, hyv12⟩ := hcode
  exact record_other scan hh264 (not_or.mpr ⟨hnv12, hyv12⟩)

theorem isRaw_record {scan : FormatScan} (hraw : scan.isRaw = true) (code : FourCC) :
    (scan.record code).isRaw = true := by
  unfold record
  split
  · exact hraw
  · split
    · rfl
    · exact hraw

/-! ## Whole histories -/

theorem isRaw_recordAll {scan : FormatScan} (hraw : scan.isRaw = true) (codes : List FourCC) :
    (scan.recordAll codes).isRaw = true := by
  induction codes generalizing scan with
  | nil => exact hraw
  | cons code codes ih => exact ih (isRaw_record hraw code)

theorem recordAll_filter_noted (scan : FormatScan) (codes : List FourCC) :
    scan.recordAll (codes.filter (· ∈ FourCC.noted)) = scan.recordAll codes := by
  induction codes generalizing scan with
  | nil => rfl
  | cons code codes ih =>
      by_cases hcode : code ∈ FourCC.noted
      · rw [List.filter_cons_of_pos (by simpa using hcode), recordAll_cons, recordAll_cons, ih]
      · rw [List.filter_cons_of_neg (by simpa using hcode), ih, recordAll_cons,
          record_of_notMem_noted scan hcode]

theorem metRaw_iff_mem (codes : List FourCC) :
    MetRaw codes ↔ FourCC.nv12 ∈ codes ∨ FourCC.yv12 ∈ codes := by
  simp [MetRaw, FourCC.IsRaw, and_or_left, exists_or]

/--
Every history from an empty scan leaves a scan whose fields agree with each other and
with the history.  The raw flag stays once it is set, no bits but the two are in use,
and a history is as good as what is left of it without the codes that are not noted.
-/
theorem recordAll_consistent (codes : List FourCC) :
    let scan := recordAll {} codes
    let isSet := scan.bits.toNat.testBit
    (scan.isRaw = true ↔ FourCC.nv12 ∈ codes ∨ FourCC.yv12 ∈ codes) ∧
    (scan.isRaw = true ↔ isSet 0 = true) ∧
    (scan.isRaw = true → ∀ later, (scan.recordAll later).isRaw = true) ∧
    (isSet 4 = true ↔ KeptH264 codes) ∧
    scan.bits &&& ~~~0x11 = 0 ∧
    (∀ code, code ∉ FourCC.noted → scan.record code = scan) ∧
    scan.recordAll [.vp8, .vp9, .av1] = scan ∧
    recordAll {} (codes.filter (· ∈ FourCC.noted)) = scan := by
  intro scan isSet
  obtain ⟨raw, h264, hscan, hmet, hkept⟩ := recordAll_eq_knowing codes
  have hraw : scan.isRaw = raw := congrArg isRaw hscan
  have hbits : scan.bits = (knowing raw h264).bits := congrArg bits hscan
  have hisSet : ∀ position, isSet position = (raw && position == 0 || h264 && position == 4) := by
    intro position
    rw [← testBit_knowing, ← hbits]
  refine ⟨?_, ?_, fun hset => isRaw_recordAll hset, ?_, ?_,
    fun code => record_of_notMem_noted scan, ?_, recordAll_filter_noted {} codes⟩
  · rw [hraw, hmet, metRaw_iff_mem]
  · rw [hraw, hisSet]
    simp
  · rw [hisSet, ← hkept]
    simp
  · rw [hbits]
    cases raw <;> cases h264 <;> decide
  · rw [← recordAll_filter_noted]
    rfl

/-- H264 comes on both sides of the raw format, and codes that are not noted everywhere. -/
theorem recordAll_consistent_mixed :
    let codes : List FourCC := [.vp9, .h264, .av1, .nv12, .vp8, .h264, .ofWord 0]
    let scan := recordAll {} codes
    scan = ⟨0x11, true⟩ ∧
      (scan.recordAll [.h264, .vp8]).isRaw = true ∧
      (scan.bits.toNat.testBit 4 = true ↔ KeptH264 codes) ∧
      (FourCC.ofWord 0 ∉ FourCC.noted ∧ scan.record (.ofWord 0) = scan) ∧
      recordAll {} [.h264, .nv12, .h264] = scan := by
  intro codes scan
  obtain ⟨-, -, hstays, hkept, -, hother, -, hstruck⟩ := recordAll_consistent codes
  have hcode : FourCC.ofWord 0 ∉ FourCC.noted := by decide
  exact ⟨by decide, hstays (by decide) _, hkept, ⟨hcode, hother _ hcode⟩, hstruck⟩

end FormatScan

end DecodeProbe
