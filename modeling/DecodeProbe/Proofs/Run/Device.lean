import DecodeProbe.Proofs.Node.Verdict
import DecodeProbe.Proofs.Stdout
import DecodeProbe.Run

/-!
# What a device probe tells its caller

A run on a device ends with one report on standard output and an exit code, and
the two agree on what the probe found.  Only standard output itself can come
between them: what cannot be written there is a failure of its own.
-/

namespace DecodeProbe

open CommandLine (Settings)
open DecodeProbe.Text.Utf8 (Bytes)
open Log (Environment)

/-! ## What probing a device can answer -/

inductive ProbeError.Unavailable : ProbeError → Prop
  | open {path : Bytes} {cause : IoError} : Unavailable (.open path cause)
  | queryCapabilities {errno : Errno} : Unavailable (.queryCapabilities errno)

/-- The device was asked and found not to be a decoder. -/
inductive ProbeError.Unsuitable : ProbeError → Prop
  | noDeviceCaps : Unsuitable .noDeviceCaps
  | notStreaming : Unsuitable .notStreaming
  | notM2m : Unsuitable .notM2m
  | noCaptureFormat : Unsuitable .noCaptureFormat

theorem ProbeError.Unsuitable.not_unavailable {error : ProbeError}
    (hunsuitable : error.Unsuitable) : ¬ error.Unavailable := by
  intro hunavailable
  cases hunavailable <;> cases hunsuitable

theorem Capabilities.Closed.unsuitable {caps : Capabilities} {error : ProbeError}
    (hclosed : caps.Closed error) : error.Unsuitable := by
  cases hclosed with
  | deviceCaps => exact .noDeviceCaps
  | streaming => exact .notStreaming
  | m2m => exact .notM2m

theorem Node.error_of_check {node : Node} {error : ProbeError}
    (hcheck : node.check.value = .error error) :
    (∃ errno, error = .queryCapabilities errno) ∨ error.Unsuitable := by
  have hverdict := verdict_check node
  rw [hcheck] at hverdict
  cases hverdict with
  | queryFailed => exact .inl ⟨_, rfl⟩
  | closed _ hclosed => exact .inr hclosed.unsuitable
  | noRawFrames => exact .inr .noCaptureFormat

theorem Device.value_openPath (kernel : Kernel) (path : Bytes) :
    (openPath kernel path).value = .ok ⟨kernel, path⟩ ∨
      ∃ cause, (openPath kernel path).value = .error (.open path cause) := by
  unfold openPath
  split
  · exact .inr ⟨_, rfl⟩
  · cases hacquire : (acquire kernel.opens).value with
    | ok => exact .inl (by simp [hacquire])
    | error errno => exact .inr ⟨.os errno, by simp [hacquire]⟩

theorem error_of_probeDevice {kernel : Kernel} {path : Bytes} {error : ProbeError}
    (hprobe : (probeDevice kernel path).value = .error error) :
    (∃ cause, error = .open path cause) ∨ (∃ errno, error = .queryCapabilities errno) ∨
      error.Unsuitable := by
  obtain hopen | ⟨cause, hopen⟩ := Device.value_openPath kernel path
  · exact .inr (Node.error_of_check (by simpa [probeDevice, hopen] using hprobe))
  · have herror : ProbeError.open path cause = error := by
      simpa [probeDevice, hopen] using hprobe
    exact .inl ⟨cause, herror.symm⟩

/-! ## The report and the exit code -/

namespace Run

/-- The report on what a probe of a path answered, and the exit code that goes with it. -/
inductive Story (path : Bytes) : Except ProbeError CodecSet → Report → Nat → Prop
  | supported (codecs : CodecSet) :
      Story path (.ok codecs)
        ⟨[("SUPPORTED", "TRUE"), ("HWCODECS", Text.decimal codecs.bits.toNat)]⟩ 0
  | unopened (cause : IoError) :
      Story path (.error (.open path cause))
        ⟨[("ERROR", "V4L2 " ++ (ProbeError.open path cause).message)]⟩ 3
  | unqueried (errno : Errno) :
      Story path (.error (.queryCapabilities errno))
        ⟨[("ERROR", "V4L2 device " ++ Text.Utf8.shown path ++ " " ++
          (ProbeError.queryCapabilities errno).message)]⟩ 3
  | unsuitable {error : ProbeError} : error.Unsuitable →
      Story path (.error error)
        ⟨[("ERROR", "V4L2 device " ++ Text.Utf8.shown path ++ " " ++ error.message)]⟩ 0

namespace Story

variable {path : Bytes} {answer : Except ProbeError CodecSet} {report : Report} {code : Nat}

theorem entries_ne_nil (hstory : Story path answer report code) : report.entries ≠ [] := by
  cases hstory <;> exact List.cons_ne_nil _ _

theorem code_cases (hstory : Story path answer report code) : code = 0 ∨ code = 3 := by
  cases hstory <;> simp

theorem code_eq_three_iff {error : ProbeError} (hstory : Story path (.error error) report code) :
    code = 3 ↔ error.Unavailable := by
  cases hstory with
  | unopened => simp [ProbeError.Unavailable.open]
  | unqueried => simp [ProbeError.Unavailable.queryCapabilities]
  | unsuitable hunsuitable => simp [hunsuitable.not_unavailable]

theorem code_eq_zero_iff {error : ProbeError} (hstory : Story path (.error error) report code) :
    code = 0 ↔ error.Unsuitable := by
  constructor
  · intro hcode
    cases hstory with
    | unopened => cases hcode
    | unqueried => cases hcode
    | unsuitable hunsuitable => exact hunsuitable
  · intro hunsuitable
    have hunavailable := mt hstory.code_eq_three_iff.mp hunsuitable.not_unavailable
    exact hstory.code_cases.resolve_right hunavailable

theorem keys_disjoint (hstory : Story path answer report code)
    (hsupported : "SUPPORTED" ∈ report.entries.map Prod.fst) :
    "ERROR" ∉ report.entries.map Prod.fst := by
  cases hstory <;> simp at hsupported ⊢

end Story

theorem value_device_of_ok {kernel : Kernel} {path : Bytes} {codecs : CodecSet}
    (hprobe : (probeDevice kernel path).value = .ok codecs) :
    (device kernel path).value =
      ⟨(Report.addSupported {} true).addCodecs codecs, .ok ()⟩ := by
  simp [device, hprobe]

theorem value_device_of_error {kernel : Kernel} {path : Bytes} {error : ProbeError}
    (hprobe : (probeDevice kernel path).value = .error error) :
    (device kernel path).value =
      ⟨Report.add {} Report.errorKey (error.report path),
        if error.isFatal then .error (.ofProbeError error) else .ok ()⟩ := by
  simp [device, hprobe, Report.addError]

theorem story_device (kernel : Kernel) (path : Bytes) :
    Story path (probeDevice kernel path).value (device kernel path).value.report
      (Failure.conclude (κ := NodeCall) .v4l2test (device kernel path).value.result).value := by
  cases hprobe : (probeDevice kernel path).value with
  | ok codecs =>
      rw [value_device_of_ok hprobe]
      exact .supported codecs
  | error error =>
      rw [value_device_of_error hprobe]
      obtain ⟨cause, rfl⟩ | ⟨errno, rfl⟩ | hunsuitable := error_of_probeDevice hprobe
      · exact .unopened cause
      · exact .unqueried errno
      · have hstory : Story path (.error error) _ 0 := .unsuitable hunsuitable
        cases hunsuitable <;> exact hstory

/-! ## The ending of a run -/

section

variable {κ : Type} {tool : Tool} {format : OutputFormat} {stdout : Stdout}
  {probe : Traced κ Findings}

theorem value_probing_of_allows (hallows : stdout.Allows (probe.value.report.bytes format)) :
    (probing tool format stdout probe).value =
      ⟨(Failure.conclude (κ := κ) tool probe.value.result).value,
        stdout.got (probe.value.report.bytes format)⟩ := by
  have hdelivered := probe.value.report.delivered_print format stdout
  simp [probing, conclude, hdelivered.ok_iff.mpr hallows, hdelivered.atExit]

theorem value_probing_of_takes (htakes : stdout.Takes (probe.value.report.bytes format)) :
    (probing tool format stdout probe).value =
      ⟨(Failure.conclude (κ := κ) tool probe.value.result).value,
        probe.value.report.bytes format⟩ := by
  have hgot : stdout.got (probe.value.report.bytes format) = _ := htakes
  rw [value_probing_of_allows (.inl htakes), hgot]

theorem value_probing_of_not_allows
    (hnot : ¬ stdout.Allows (probe.value.report.bytes format)) :
    (probing tool format stdout probe).value =
      ⟨1, stdout.got (probe.value.report.bytes format)⟩ := by
  have hdelivered := probe.value.report.delivered_print format stdout
  obtain ⟨cause, hwritten⟩ := hdelivered.exists_cause hnot
  simp [probing, conclude, hwritten, hdelivered.atExit, Failure.conclude, Failure.exitCode]

theorem value_probing_of_refuses (hentries : probe.value.report.entries ≠ [])
    (hrefuses : stdout.Refuses) : (probing tool format stdout probe).value = ⟨1, []⟩ := by
  have hbytes := Report.bytes_ne_nil hentries format
  rw [value_probing_of_not_allows (hrefuses.not_allows hbytes), hrefuses.got_eq_nil]

end

end Run

section

variable {arguments : List Bytes} {settings : Settings} {path : Bytes}

theorem ending_run_of_device (environment : Environment) (machine : Machine) (stdout : Stdout)
    (hread : CommandLine.read .v4l2test arguments = .ok (.run settings))
    (hdevice : settings.device = some path) :
    (run .v4l2test arguments environment machine stdout).ending =
      (Run.probing .v4l2test (Run.settingsFormat settings) stdout
        (Run.device (machine.kernelAt path) path)).value := by
  simp only [run, hread]
  unfold Run.perform
  rw [hdevice]
  rfl

/--
What a run on a device writes and how it exits follow from what the probe answered.
Only a standard output that fails changes the exit code, and a bad descriptor does not
fail: what it gets of the report may be nothing, but the exit code stands.
-/
theorem device_run_story (environment : Environment) (machine : Machine) (stdout : Stdout)
    (hread : CommandLine.read .v4l2test arguments = .ok (.run settings))
    (hdevice : settings.device = some path) :
    let format := Run.settingsFormat settings
    let answer := (probeDevice (machine.kernelAt path) path).value
    let ending := (run .v4l2test arguments environment machine stdout).ending
    ∃ report code, Run.Story path answer report code ∧
      (∀ error, answer = .error error →
        (code = 3 ↔ error.Unavailable) ∧ (code = 0 ↔ error.Unsuitable)) ∧
      (stdout.Takes (report.bytes format) → ending = ⟨code, report.bytes format⟩) ∧
      (stdout.Loses (report.bytes format) →
        ending = ⟨code, stdout.got (report.bytes format)⟩) ∧
      (¬ stdout.Allows (report.bytes format) → ending.exitCode = 1) ∧
      (stdout.Refuses → ending = ⟨1, []⟩) ∧
      ending.exitCode ≠ 2 ∧ ending.exitCode ≠ 4 ∧
      ¬ ("SUPPORTED" ∈ report.entries.map Prod.fst ∧ "ERROR" ∈ report.entries.map Prod.fst) := by
  intro format answer ending
  let probe := Run.device (machine.kernelAt path) path
  let report := probe.value.report
  let code := (Failure.conclude (κ := NodeCall) .v4l2test probe.value.result).value
  have hstory : Run.Story path answer report code :=
    Run.story_device (machine.kernelAt path) path
  have hending : ending = (Run.probing .v4l2test format stdout probe).value :=
    ending_run_of_device environment machine stdout hread hdevice
  have hallowed (hallows : stdout.Allows (report.bytes format)) :
      ending = ⟨code, stdout.got (report.bytes format)⟩ :=
    hending.trans (Run.value_probing_of_allows hallows)
  have hfailed (hnot : ¬ stdout.Allows (report.bytes format)) :
      ending = ⟨1, stdout.got (report.bytes format)⟩ :=
    hending.trans (Run.value_probing_of_not_allows hnot)
  have hexit : ending.exitCode = 0 ∨ ending.exitCode = 3 ∨ ending.exitCode = 1 := by
    by_cases hallows : stdout.Allows (report.bytes format)
    · rw [hallowed hallows]
      exact hstory.code_cases.imp_right .inl
    · rw [hfailed hallows]
      exact .inr (.inr rfl)
  refine ⟨report, code, hstory, ?codes, ?taken, fun hloses => hallowed (.inr hloses), ?failed,
    ?refused, by omega, by omega, ?keys⟩
  case codes =>
    intro error herror
    rw [herror] at hstory
    exact ⟨hstory.code_eq_three_iff, hstory.code_eq_zero_iff⟩
  case taken => exact fun htakes => hending.trans (Run.value_probing_of_takes htakes)
  case failed =>
    intro hnot
    rw [hfailed hnot]
  case refused =>
    exact fun hrefuses =>
      hending.trans (Run.value_probing_of_refuses hstory.entries_ne_nil hrefuses)
  case keys =>
    rintro ⟨hsupported, herror⟩
    exact hstory.keys_disjoint hsupported herror

theorem device_run_story_bare :
    let path := Text.Utf8.bytes "v"
    let arguments := [Text.Utf8.bytes "-d", path]
    let ending := fun stdout => (run .v4l2test arguments {} .bare stdout).ending
    CommandLine.read .v4l2test arguments = .ok (.run { device := some path }) ∧
      (ending .writable).exitCode = 3 ∧ ending .full = ⟨1, []⟩ ∧ ending .closed = ⟨3, []⟩ := by
  intro path arguments ending
  have hread : CommandLine.read .v4l2test arguments = .ok (.run { device := some path }) := by
    decide +kernel
  have hprobe : (probeDevice (Machine.bare.kernelAt path) path).value =
      .error (.open path (.os .notFound)) := by decide +kernel
  obtain ⟨report, code, -, hcodes, htaken, -⟩ := device_run_story {} .bare .writable hread rfl
  obtain ⟨-, -, -, -, -, -, -, hrefused, -⟩ := device_run_story {} .bare .full hread rfl
  obtain ⟨lost, lostCode, hstory, hlostCodes, -, hloses, -⟩ :=
    device_run_story {} .bare .closed hread rfl
  have hcode : code = 3 := (hcodes _ hprobe).1.mpr .open
  have hlostCode : lostCode = 3 := (hlostCodes _ hprobe).1.mpr .open
  have hbytes := Report.bytes_ne_nil hstory.entries_ne_nil
  refine ⟨hread, ?_, hrefused Stdout.refuses_full, ?_⟩
  · rw [show ending .writable = _ from htaken (Stdout.takes_writable _), hcode]
  · rw [show ending .closed = _ from hloses (Stdout.loses_closed (hbytes _)), hlostCode,
      Stdout.got_closed]

end

end DecodeProbe
