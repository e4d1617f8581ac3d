import DecodeProbe.Proofs.Device.Session
import DecodeProbe.Proofs.FourCC
import DecodeProbe.Proofs.Node.Texts

/-!
# Probing through records

A kernel answers with records of fixed-width fields and words.  A probe of a path
is a check of the node that these records describe, between opening and closing
the path.  The bytes of the text fields do not reach the verdict, and a format is
known by its word.
-/

namespace DecodeProbe

open DecodeProbe.Text.Utf8 (Bytes)

/-! ## The node that records describe -/

namespace Kernel

/-- Texts are read out of their fields, and a code out of its word. -/
def described (kernel : Kernel) : Node where
  capabilities := kernel.capabilities.map fun record =>
    { driver := record.driver.text
      card := record.card.text
      busInfo := record.busInfo.text
      version := record.version
      capabilities := record.capabilities
      deviceCaps := record.deviceCaps }
  format queue index := (kernel.format queue index).map fun record =>
    ⟨FourCC.ofWord record.pixelFormat, record.description.text⟩

/-- Another kernel with the same answers, except for the text fields and the version. -/
structure SameWords (kernel other : Kernel) : Prop where
  opens : other.opens = kernel.opens
  capabilities :
    other.capabilities.map (fun record => (record.capabilities, record.deviceCaps)) =
      kernel.capabilities.map fun record => (record.capabilities, record.deviceCaps)
  format : ∀ queue index, (other.format queue index).map FormatRecord.pixelFormat =
    (kernel.format queue index).map FormatRecord.pixelFormat

theorem SameWords.withoutTexts {kernel other : Kernel} (hwords : kernel.SameWords other) :
    other.described.withoutTexts = kernel.described.withoutTexts := by
  have hcapabilities : other.described.withoutTexts.capabilities =
      kernel.described.withoutTexts.capabilities := by
    have hflags := hwords.capabilities
    simp only [Node.withoutTexts, described]
    cases hother : other.capabilities <;> cases hkernel : kernel.capabilities <;>
      simp_all [Except.map, Capabilities.withoutTexts]
  have hformat : other.described.withoutTexts.format = kernel.described.withoutTexts.format := by
    funext queue index
    have hcode := hwords.format queue index
    simp only [Node.withoutTexts, described]
    cases hother : other.format queue index <;> cases hkernel : kernel.format queue index <;>
      simp_all [Except.map, Format.withoutTexts]
  cases hother : other.described.withoutTexts
  cases hkernel : kernel.described.withoutTexts
  simp_all

theorem SameWords.check {kernel other : Kernel} (hwords : kernel.SameWords other) :
    other.described.check.value = kernel.described.check.value ∧
      other.described.check.calls = kernel.described.check.calls := by
  obtain ⟨hvalue, hcalls⟩ := other.described.check_withoutTexts
  obtain ⟨hvalue', hcalls'⟩ := kernel.described.check_withoutTexts
  rw [← hvalue, ← hcalls, ← hvalue', ← hcalls', hwords.withoutTexts]
  exact ⟨rfl, rfl⟩

end Kernel

/-! ## A probe between opening and closing -/

/-- The first record of a probe, written before the path is opened. -/
def probingRecord (path : Bytes) : Log.Record :=
  ⟨.debug, .formats, s!"probing device '{Text.Utf8.shown path}'"⟩

section

variable {kernel : Kernel} {path : Bytes}

theorem probeDevice_of_open (hpath : 0 ∉ path) (hopen : Device.refusal? kernel.opens = none) :
    probeDevice kernel path =
      ⟨kernel.described.check.value,
        .log (probingRecord path) :: (Device.openCalls kernel.opens).map .call ++
          .log (Device.openedRecord path) :: kernel.described.check.events ++ [.call .close]⟩ := by
  have hnode : Device.node ⟨kernel, path⟩ = kernel.described := rfl
  rw [probeDevice, Device.openPath_of_open hpath hopen]
  apply Traced.ext
  · rfl
  · simp [hnode, Device.close, probingRecord]

theorem log_probeDevice_of_open (hpath : 0 ∉ path)
    (hopen : Device.refusal? kernel.opens = none) :
    (probeDevice kernel path).log =
      probingRecord path :: Device.openedRecord path :: kernel.described.check.log := by
  rw [probeDevice_of_open hpath hopen]
  simp [Traced.log, List.filterMap_cons, Event.record?]

theorem calls_probeDevice_of_open (hpath : 0 ∉ path)
    (hopen : Device.refusal? kernel.opens = none) :
    (probeDevice kernel path).calls =
      Device.openCalls kernel.opens ++ kernel.described.check.calls ++ [.close] := by
  rw [probeDevice_of_open hpath hopen]
  simp [Traced.calls, List.filterMap_cons, Event.call?]

/--
A probe of a path that opens is a check of the node that the records describe.
Kernels whose records differ in their texts only get the same verdict by the same
calls, and a code is known by its word.
-/
theorem probeDevice_reads_words (hpath : 0 ∉ path)
    (hopen : Device.refusal? kernel.opens = none) :
    (probeDevice kernel path).value = kernel.described.check.value ∧
    (probeDevice kernel path).log =
      probingRecord path :: Device.openedRecord path :: kernel.described.check.log ∧
    (probeDevice kernel path).calls =
      Device.openCalls kernel.opens ++ kernel.described.check.calls ++ [.close] ∧
    (∀ other, kernel.SameWords other →
      (probeDevice other path).value = (probeDevice kernel path).value ∧
      (probeDevice other path).calls = (probeDevice kernel path).calls) ∧
    ∀ word, (FourCC.ofWord word = .nv12 ↔ word = 0x3231564E) ∧
      (FourCC.ofWord word = .yv12 ↔ word = 0x32315659) ∧
      (FourCC.ofWord word = .h264 ↔ word = 0x34363248) ∧
      ∀ scan : FormatScan, scan.record (.ofWord word) =
        if word = 0x34363248 then { scan with bits := scan.bits ||| 0x10 }
        else if word = 0x3231564E ∨ word = 0x32315659 then ⟨1, true⟩
        else scan := by
  refine ⟨by rw [probeDevice_of_open hpath hopen], log_probeDevice_of_open hpath hopen,
    calls_probeDevice_of_open hpath hopen, ?texts, ?words⟩
  case texts =>
    intro other hwords
    have hopen' : Device.refusal? other.opens = none := by rw [hwords.opens, hopen]
    obtain ⟨hvalue, hcalls⟩ := hwords.check
    constructor
    · rw [probeDevice_of_open hpath hopen', probeDevice_of_open hpath hopen]
      exact hvalue
    · rw [calls_probeDevice_of_open hpath hopen', calls_probeDevice_of_open hpath hopen,
        hwords.opens, hcalls]
  case words =>
    intro word
    exact ⟨FourCC.ofWord_eq_iff, FourCC.ofWord_eq_iff, FourCC.ofWord_eq_iff,
      fun scan => scan.record_ofWord word⟩

end

/-- A decoder whose text fields hold one byte over and over, so that only a zero ends them. -/
def Kernel.filled (byte : UInt8) : Kernel where
  opens := [some .interrupted]
  capabilities := .ok
    { driver := .store 16 (.replicate 16 byte)
      card := .store 32 (.replicate 32 byte)
      busInfo := .store 32 (.replicate 32 byte)
      version := 0
      capabilities := 0x80000000
      deviceCaps := 0x04004000 }
  format queue index :=
    if index = 0 then
      .ok ⟨if queue.isCapture then 0x3231564E else 0x34363248, .store 32 (.replicate 32 byte)⟩
    else .error .invalidArgument

theorem Kernel.sameWords_filled (byte other : UInt8) :
    (filled byte).SameWords (filled other) where
  opens := rfl
  capabilities := rfl
  format queue index := by by_cases hfirst : index = 0 <;> simp [filled, hfirst, Except.map]

theorem probeDevice_reads_words_unterminated :
    let path := Text.Utf8.bytes "v"
    0 ∉ path ∧ Device.refusal? (Kernel.filled 0xFF).opens = none ∧
      (Kernel.filled 0xFF).SameWords (Kernel.filled 0) ∧
      (probeDevice (Kernel.filled 0xFF) path).value = .ok ⟨0x10⟩ ∧
      (probeDevice (Kernel.filled 0) path).value = .ok ⟨0x10⟩ := by
  intro path
  have hpath : 0 ∉ path := by decide
  have hopen : Device.refusal? (Kernel.filled 0xFF).opens = none := by decide
  have hwords := Kernel.sameWords_filled 0xFF 0
  obtain ⟨hvalue, -, -, htexts, -⟩ := probeDevice_reads_words hpath hopen
  have hcheck : (Kernel.filled 0xFF).described.check.value = .ok ⟨0x10⟩ := by decide +kernel
  have hfilled : (probeDevice (Kernel.filled 0xFF) path).value = .ok ⟨0x10⟩ := hvalue.trans hcheck
  exact ⟨hpath, hopen, hwords, hfilled, (htexts _ hwords).1.trans hfilled⟩

end DecodeProbe
