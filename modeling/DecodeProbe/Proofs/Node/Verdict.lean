import DecodeProbe.Proofs.Node.Enumeration

/-!
# The verdict on a node

The documented test of a decoder, stated without the order in which a probe does
its work: which gate a node fails first, whether its capture queue lists a raw
format, and which word its output queue makes.  A check answers exactly what the
test says.
-/

namespace DecodeProbe

/-! ## The gates -/

namespace Capabilities

variable {caps : Capabilities}

/-- The first gate that is closed. -/
inductive Closed (caps : Capabilities) : ProbeError → Prop
  | deviceCaps : caps.capabilities &&& 0x80000000 = 0 → Closed caps .noDeviceCaps
  | streaming : caps.capabilities &&& 0x80000000 ≠ 0 → caps.deviceCaps &&& 0x04000000 = 0 →
      Closed caps .notStreaming
  | m2m : caps.capabilities &&& 0x80000000 ≠ 0 → caps.deviceCaps &&& 0x04000000 ≠ 0 →
      caps.deviceCaps &&& 0x4000 = 0 → caps.deviceCaps &&& 0x8000 = 0 → Closed caps .notM2m

/-- Every gate is open, and the node is of this plane kind. -/
structure Open (caps : Capabilities) (mplane : Bool) : Prop where
  deviceCaps : caps.capabilities &&& 0x80000000 ≠ 0
  streaming : caps.deviceCaps &&& 0x04000000 ≠ 0
  m2m : caps.deviceCaps &&& 0x4000 ≠ 0 ∨ caps.deviceCaps &&& 0x8000 ≠ 0
  mplane_iff : mplane = true ↔ caps.deviceCaps &&& 0x4000 ≠ 0

theorem planes_eq (caps : Capabilities) :
    caps.planes =
      if caps.capabilities &&& 0x80000000 = 0 then .error .noDeviceCaps
      else if caps.deviceCaps &&& 0x04000000 = 0 then .error .notStreaming
      else if caps.deviceCaps &&& 0x8000 = 0 ∧ caps.deviceCaps &&& 0x4000 = 0 then .error .notM2m
      else .ok (decide (caps.deviceCaps &&& 0x4000 ≠ 0)) := by
  simp [planes, hasDeviceCaps, isStreaming, isM2m, isM2mMplane, Capability.isSetIn,
    Capability.bit, bne, beq_eq_decide]

theorem planes_eq_error_iff {error : ProbeError} :
    caps.planes = .error error ↔ caps.Closed error := by
  rw [planes_eq]
  constructor
  · intro hplanes
    split_ifs at hplanes with hcaps hstreaming hm2m <;> cases hplanes
    · exact .deviceCaps hcaps
    · exact .streaming hcaps hstreaming
    · exact .m2m hcaps hstreaming hm2m.2 hm2m.1
  · rintro (hcaps | ⟨hcaps, hstreaming⟩ | ⟨hcaps, hstreaming, hmplane, hsplane⟩)
    · rw [if_pos hcaps]
    · rw [if_neg hcaps, if_pos hstreaming]
    · rw [if_neg hcaps, if_neg hstreaming, if_pos ⟨hsplane, hmplane⟩]

theorem planes_eq_ok_iff {mplane : Bool} : caps.planes = .ok mplane ↔ caps.Open mplane := by
  rw [planes_eq]
  constructor
  · intro hplanes
    split_ifs at hplanes with hcaps hstreaming hm2m
    obtain rfl := Except.ok.inj hplanes
    exact ⟨hcaps, hstreaming, by tauto, by simp⟩
  · rintro ⟨hcaps, hstreaming, hm2m, hmplane⟩
    rw [if_neg hcaps, if_neg hstreaming, if_neg (by tauto)]
    congr 1
    rw [Bool.eq_iff_iff, hmplane, decide_eq_true_iff]

theorem closed_or_open (caps : Capabilities) :
    (∃ error, caps.Closed error) ∨ ∃ mplane, caps.Open mplane := by
  cases hplanes : caps.planes with
  | error error => exact .inl ⟨error, planes_eq_error_iff.mp hplanes⟩
  | ok mplane => exact .inr ⟨mplane, planes_eq_ok_iff.mp hplanes⟩

end Capabilities

/-! ## The test -/

namespace Node

variable {node : Node}

/-- Bit 0 tells of a raw format and bit 4 of H264; there are no other bits. -/
structure IsMask (node : Node) (queue : Queue) (bits : UInt32) : Prop where
  raw : bits.toNat.testBit 0 = true ↔ node.ListsRaw queue
  h264 : bits.toNat.testBit 4 = true ↔ node.ListsH264 queue
  others : ∀ position, position ≠ 0 → position ≠ 4 → bits.toNat.testBit position = false

inductive Verdict (node : Node) : Except ProbeError CodecSet → Prop
  | queryFailed {errno : Errno} : node.capabilities = .error errno →
      Verdict node (.error (.queryCapabilities errno))
  | closed {caps : Capabilities} {error : ProbeError} : node.capabilities = .ok caps →
      caps.Closed error → Verdict node (.error error)
  | noRawFrames {caps : Capabilities} {mplane : Bool} : node.capabilities = .ok caps →
      caps.Open mplane → ¬ node.ListsRaw (.capture mplane) →
      Verdict node (.error .noCaptureFormat)
  | decoder {caps : Capabilities} {mplane : Bool} {codecs : CodecSet} :
      node.capabilities = .ok caps → caps.Open mplane → node.ListsRaw (.capture mplane) →
      node.IsMask (.output mplane) codecs.bits → Verdict node (.ok codecs)

theorem isMask_supportedFormats (node : Node) (queue : Queue) :
    node.IsMask queue (node.supportedFormats queue).value.bits := by
  obtain ⟨raw, h264, hscan, hraw, hh264⟩ := supportedFormats_eq_knowing node queue
  rw [hscan]
  constructor
  · rw [FormatScan.testBit_knowing]
    simpa using hraw
  · rw [FormatScan.testBit_knowing]
    simpa using hh264
  · intro position hzero hfour
    rw [FormatScan.testBit_knowing]
    simp [hzero, hfour]

theorem IsMask.unique {queue : Queue} {first second : UInt32} (hfirst : node.IsMask queue first)
    (hsecond : node.IsMask queue second) : first = second := by
  apply UInt32.toNat_inj.mp
  apply Nat.eq_of_testBit_eq
  intro position
  by_cases hzero : position = 0
  · rw [hzero, Bool.eq_iff_iff, hfirst.raw, hsecond.raw]
  · by_cases hfour : position = 4
    · rw [hfour, Bool.eq_iff_iff, hfirst.h264, hsecond.h264]
    · rw [hfirst.others position hzero hfour, hsecond.others position hzero hfour]

theorem isRaw_supportedFormats (node : Node) (queue : Queue) :
    (node.supportedFormats queue).value.isRaw = true ↔ node.ListsRaw queue := by
  obtain ⟨raw, h264, hscan, hraw, -⟩ := supportedFormats_eq_knowing node queue
  rw [hscan, FormatScan.isRaw_knowing, hraw]

/-! ## What a check answers -/

theorem value_checkQueues (node : Node) (mplane : Bool) :
    (node.checkQueues mplane).value =
      if (node.supportedFormats (.capture mplane)).value.isRaw then
        .ok ⟨(node.supportedFormats (.output mplane)).value.bits⟩
      else .error .noCaptureFormat := by
  cases hraw : (node.supportedFormats (.capture mplane)).value.isRaw <;>
    simp [checkQueues, hraw]

theorem value_check_of_queryFailed {errno : Errno} (hquery : node.capabilities = .error errno) :
    node.check.value = .error (.queryCapabilities errno) := by
  simp [check, hquery]

theorem value_check_of_closed {caps : Capabilities} {error : ProbeError}
    (hquery : node.capabilities = .ok caps) (hclosed : caps.Closed error) :
    node.check.value = .error error := by
  simp [check, hquery, Capabilities.planes_eq_error_iff.mpr hclosed]

theorem value_check_of_open {caps : Capabilities} {mplane : Bool}
    (hquery : node.capabilities = .ok caps) (hopen : caps.Open mplane) :
    node.check.value = (node.checkQueues mplane).value := by
  simp [check, hquery, Capabilities.planes_eq_ok_iff.mpr hopen]

theorem verdict_check (node : Node) : node.Verdict node.check.value := by
  cases hquery : node.capabilities with
  | error errno =>
      rw [value_check_of_queryFailed hquery]
      exact .queryFailed hquery
  | ok caps =>
      obtain ⟨error, hclosed⟩ | ⟨mplane, hopen⟩ := caps.closed_or_open
      · rw [value_check_of_closed hquery hclosed]
        exact .closed hquery hclosed
      · rw [value_check_of_open hquery hopen, value_checkQueues]
        split
        · next hraw =>
            exact .decoder hquery hopen ((isRaw_supportedFormats _ _).mp hraw)
              (isMask_supportedFormats node _)
        · next hraw =>
            exact .noRawFrames hquery hopen (mt (isRaw_supportedFormats _ _).mpr hraw)

theorem value_check_eq_iff (node : Node) (answer : Except ProbeError CodecSet) :
    node.check.value = answer ↔ node.Verdict answer := by
  constructor
  · rintro rfl
    exact verdict_check node
  · intro hverdict
    cases hverdict with
    | queryFailed hquery => exact value_check_of_queryFailed hquery
    | closed hquery hclosed => exact value_check_of_closed hquery hclosed
    | noRawFrames hquery hopen hraw =>
        rw [value_check_of_open hquery hopen, value_checkQueues,
          if_neg (mt (isRaw_supportedFormats _ _).mp hraw)]
    | decoder hquery hopen hraw hmask =>
        rw [value_check_of_open hquery hopen, value_checkQueues,
          if_pos ((isRaw_supportedFormats _ _).mpr hraw),
          (isMask_supportedFormats node _).unique hmask]

end Node

end DecodeProbe
