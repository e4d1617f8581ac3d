import DecodeProbe.Proofs.Run.Device
import DecodeProbe.Proofs.Run.Environment

/-!
# What a run tells of its failure

With diagnostics on, a run that fails ends its log with the failure, and a run
that succeeds logs no error.  Only a help text that could not be printed is lost
without a record: no log is kept then.
-/

namespace DecodeProbe

open CommandLine (Request Settings)
open DecodeProbe.Text.Utf8 (Bytes)
open Log (Environment Record)

/-! ## The log of a verdict -/

namespace Run

def code : Except Failure Unit → Nat
  | .ok () => 0
  | .error failure => failure.exitCode

theorem code_eq_zero_iff {verdict : Except Failure Unit} : code verdict = 0 ↔ verdict = .ok () := by
  cases verdict with
  | ok => simp [code]
  | error failure => cases failure <;> simp [code, Failure.exitCode]

/-- Success tells no error; a failure is told by the last record and by no other. -/
inductive Tells (tool : Tool) : Except Failure Unit → List Record → Prop
  | success {log : List Record} : (∀ record ∈ log, record.level ≠ .error) →
      Tells tool (.ok ()) log
  | failure {before : List Record} {failure : Failure} :
      (∀ record ∈ before, record.level ≠ .error) →
      Tells tool (.error failure) (before ++ [⟨.error, .failure tool, failure.message⟩])

theorem tells_nil_iff {tool : Tool} {verdict : Except Failure Unit} :
    Tells tool verdict [] ↔ verdict = .ok () := by
  constructor
  · intro htells
    generalize hlog : [] = log at htells
    cases htells with
    | success => rfl
    | failure => simp at hlog
  · rintro rfl
    exact .success fun _ hmem => absurd hmem List.not_mem_nil

section

variable {κ : Type} {tool : Tool} {format : OutputFormat} {stdout : Stdout}
  {probe : Traced κ Findings}

theorem value_failure_conclude (verdict : Except Failure Unit) :
    (Failure.conclude tool verdict : Traced κ Nat).value = code verdict := by
  cases verdict <;> rfl

theorem exitCode_probing :
    (probing tool format stdout probe).value.exitCode = code (probed format stdout probe.value) :=
  value_failure_conclude _

theorem tells_probing (hquiet : probe.Quiet) :
    Tells tool (probed format stdout probe.value) (probing tool format stdout probe).log := by
  have hbefore : ∀ record ∈ ⟨.debug, .logging tool, "Logging initialized"⟩ :: probe.log,
      record.level ≠ .error := by
    intro record hmem
    obtain rfl | hmem := List.mem_cons.mp hmem
    · simp
    · simp [hquiet record hmem]
  rw [log_probing]
  cases probed format stdout probe.value with
  | ok => simpa using Tells.success hbefore
  | error failure => simpa using Tells.failure hbefore

end

/-! ## The verdict on a run -/

/-- What a run of a tool comes to: success, or the failure that chooses the exit code. -/
def verdict (tool : Tool) (machine : Machine) (stdout : Stdout) : Request → Except Failure Unit
  | .help _ | .version => .ok ()
  | .run settings =>
      match tool, settings.device with
      | .v4l2test, none => settled (printed stdout (Help.text .v4l2test false)).1 (.ok ())
      | .v4l2test, some path =>
          probed (settingsFormat settings) stdout (device (machine.kernelAt path) path).value
      | .mpptest, _ => probed (settingsFormat settings) stdout (library machine.loader).value

theorem verdict_of_no_device {settings : Settings} (machine : Machine) (stdout : Stdout)
    (hdevice : settings.device = none) :
    verdict .v4l2test machine stdout (.run settings) =
      settled (printed stdout (Help.text .v4l2test false)).1 (.ok ()) := by
  cases settings
  cases hdevice
  rfl

theorem verdict_of_device {settings : Settings} {path : Bytes} (machine : Machine)
    (stdout : Stdout) (hdevice : settings.device = some path) :
    verdict .v4l2test machine stdout (.run settings) =
      probed (settingsFormat settings) stdout (device (machine.kernelAt path) path).value := by
  cases settings
  cases hdevice
  rfl

/-- The help text that is printed for want of a device could not be printed. -/
def HelpLost (tool : Tool) (stdout : Stdout) (request : Request) : Prop :=
  tool = .v4l2test ∧ (∃ settings, request = .run settings ∧ settings.device = none) ∧
    ¬ stdout.Allows (Text.Utf8.bytes (Help.text .v4l2test false))

theorem getLast?_help (tool : Tool) :
    (Text.Utf8.bytes (Help.text tool false)).getLast? = some 0x0A := by
  have hshort : Help.short tool ≠ [] := List.append_ne_nil_of_left_ne_nil (List.cons_ne_nil _ _) _
  obtain ⟨lines, last, hlines⟩ : ∃ lines last, Help.short tool = lines ++ [last] :=
    ⟨_, _, (List.dropLast_append_getLast hshort).symm⟩
  have htext : Help.text tool false = String.join (lines.map (· ++ "\n")) ++ last ++ "\n" := by
    rw [Help.text, if_neg Bool.false_ne_true, hlines, List.map_append, String.join_append]
    simp [String.append_assoc]
  rw [htext, Text.Utf8.bytes, String.toList_append, Text.Utf8.encode_append]
  exact List.getLast?_concat

theorem delivered_help (tool : Tool) (stdout : Stdout) :
    stdout.Delivered (Text.Utf8.bytes (Help.text tool false))
      (printed stdout (Help.text tool false)) :=
  Stdout.delivered_write (getLast?_help tool)

theorem settled_of_allows {tool : Tool} {stdout : Stdout}
    (hallows : stdout.Allows (Text.Utf8.bytes (Help.text tool false))) :
    settled (printed stdout (Help.text tool false)).1 (.ok ()) = .ok () := by
  rw [(delivered_help tool stdout).ok_iff.mpr hallows, settled]

theorem settled_of_not_allows {tool : Tool} {stdout : Stdout}
    (hnot : ¬ stdout.Allows (Text.Utf8.bytes (Help.text tool false))) :
    ∃ cause, settled (printed stdout (Help.text tool false)).1 (.ok ()) =
      .error (.output cause) := by
  obtain ⟨cause, hcause⟩ := (delivered_help tool stdout).exists_cause hnot
  exact ⟨cause, by rw [hcause, settled]⟩

/-- A run with diagnostics on shows what it comes to, or nothing at all when that is lost. -/
structure Diagnosed (tool : Tool) (verdict : Except Failure Unit) (lost : Prop)
    (outcome : Outcome) : Prop where
  exitCode : outcome.ending.exitCode = code verdict
  stderr : outcome.stderr = String.join (outcome.records.map Record.line)
  tells : Tells tool verdict outcome.records ↔ ¬ lost
  silent : lost → (∃ cause, verdict = .error (.output cause)) ∧ outcome.records = []

variable {tool : Tool} {lost : Prop}

theorem diagnosed_answered (stdout : Stdout) (text : String) (hkept : ¬ lost) :
    Diagnosed tool (.ok ()) lost (answered stdout text) where
  exitCode := rfl
  stderr := rfl
  tells := iff_of_true (tells_nil_iff.mpr rfl) hkept
  silent hlost := absurd hlost hkept

theorem diagnosed_usage (stdout : Stdout)
    (hlost : lost ↔ ¬ stdout.Allows (Text.Utf8.bytes (Help.text tool false))) :
    Diagnosed tool (settled (printed stdout (Help.text tool false)).1 (.ok ())) lost
      (unlogged (usage tool stdout)) where
  exitCode := by
    rw [unlogged, usage, conclude_eq, Traced.value_map]
    exact value_failure_conclude _
  stderr := rfl
  tells := by
    rw [hlost, Classical.not_not]
    refine tells_nil_iff.trans ⟨fun hok => ?_, settled_of_allows⟩
    by_contra hnot
    obtain ⟨cause, hcause⟩ := settled_of_not_allows hnot
    cases hcause.symm.trans hok
  silent hnot := ⟨settled_of_not_allows (hlost.mp hnot), rfl⟩

theorem diagnosed_probing {κ : Type} {environment : Environment} {format : OutputFormat}
    {stdout : Stdout} {probe : Traced κ Findings} (hquiet : probe.Quiet)
    (hreading : environment.reading = ⟨.uniform (some .debug), []⟩) (hkept : ¬ lost) :
    Diagnosed tool (probed format stdout probe.value) lost
      (logged environment (probing tool format stdout probe)) := by
  have hrecords : (logged environment (probing tool format stdout probe)).records =
      (probing tool format stdout probe).log := by
    simp only [logged, hreading, Log.Filter.filter_uniform_debug (plain_probing hquiet)]
  refine ⟨exitCode_probing, ?_, ?_, fun hlost => absurd hlost hkept⟩
  · simp [Outcome.stderr, logged, hreading]
  · rw [hrecords]
    exact iff_of_true (tells_probing hquiet) hkept

theorem diagnosed_perform {settings : Settings} {environment : Environment} (machine : Machine)
    (stdout : Stdout) (hreading : environment.reading = ⟨.uniform (some .debug), []⟩) :
    Diagnosed tool (verdict tool machine stdout (.run settings))
      (HelpLost tool stdout (.run settings))
      (perform tool settings environment machine stdout) := by
  cases tool with
  | mpptest =>
      rw [perform_mpptest]
      exact diagnosed_probing (quiet_library machine.loader) hreading (by simp [HelpLost])
  | v4l2test =>
      cases hdevice : settings.device with
      | none =>
          rw [perform_of_no_device _ _ _ hdevice, verdict_of_no_device machine stdout hdevice]
          exact diagnosed_usage stdout (by simp [HelpLost, hdevice])
      | some path =>
          rw [perform_of_device _ _ _ hdevice, verdict_of_device machine stdout hdevice]
          exact diagnosed_probing (quiet_device _ path) hreading (by simp [HelpLost, hdevice])

theorem help_ne_nil (tool : Tool) : Text.Utf8.bytes (Help.text tool false) ≠ [] := by
  intro hnil
  have hlast := getLast?_help tool
  rw [hnil] at hlast
  cases hlast

theorem failure_full (input : Bytes) : Stdout.full.failure input = .os .noSpace := by
  rw [Stdout.failure, Stdout.refuses_full.got_eq_nil]
  rfl

theorem printed_full (tool : Tool) :
    (printed .full (Help.text tool false)).1 = .error (.os .noSpace) ∧
      Stdout.full.atExit (printed .full (Help.text tool false)).2 = [] := by
  have hdelivered := delivered_help tool .full
  obtain ⟨cause, hwritten⟩ :=
    hdelivered.exists_cause (Stdout.refuses_full.not_allows (help_ne_nil tool))
  constructor
  · obtain rfl | rfl := hdelivered.cause hwritten
    · rw [hwritten, failure_full]
    · rw [hwritten, failure_full]
      rfl
  · rw [hdelivered.atExit, Stdout.refuses_full.got_eq_nil]

end Run

section

variable {tool : Tool} {arguments : List Bytes} {request : Request} {environment : Environment}
  {rest : Bytes}

/--
With diagnostics on, a run that fails ends what it shows with its failure and
any other run shows no error.  Only a help text that could not be printed for
want of a device leaves no trace.
-/
theorem run_diagnostics (machine : Machine) (stdout : Stdout)
    (hread : CommandLine.read tool arguments = .ok request)
    (hswitch : environment.debugSwitch = some (0x31 :: rest))
    (hfilter : environment.filterText = none) :
    let verdict := Run.verdict tool machine stdout request
    let outcome := run tool arguments environment machine stdout
    Run.Diagnosed tool verdict (Run.HelpLost tool stdout request) outcome ∧
      (outcome.ending.exitCode = 0 ↔ verdict = .ok ()) := by
  intro verdict outcome
  have hreading := Environment.reading_of_switched_on hfilter hswitch
  have hdiagnosed : Run.Diagnosed tool verdict (Run.HelpLost tool stdout request) outcome := by
    simp only [verdict, outcome, run, hread]
    cases request with
    | help long => exact Run.diagnosed_answered stdout _ (by simp [Run.HelpLost])
    | version => exact Run.diagnosed_answered stdout _ (by simp [Run.HelpLost])
    | run settings => exact Run.diagnosed_perform machine stdout hreading
  exact ⟨hdiagnosed, by rw [hdiagnosed.exitCode, Run.code_eq_zero_iff]⟩

theorem run_diagnostics_bare :
    let failure := Failure.libraryUnavailable
      (ProbeError.libraryNotLoaded (.notFound Library.fileName)).message
    let outcome := run .mpptest [] switchedOn .bare .writable
    CommandLine.read .mpptest [] = .ok (.run {}) ∧
      switchedOn.debugSwitch = some [0x31] ∧ switchedOn.filterText = none ∧
      outcome.ending.exitCode = 4 ∧ Run.Tells .mpptest (.error failure) outcome.records := by
  intro failure outcome
  have hread : CommandLine.read .mpptest [] = .ok (.run {}) := by decide +kernel
  have hdiagnosed : Run.Diagnosed .mpptest (Run.verdict .mpptest .bare .writable (.run {}))
      (Run.HelpLost .mpptest .writable (.run {})) outcome :=
    (run_diagnostics .bare .writable hread rfl rfl).1
  have hverdict : Run.verdict .mpptest .bare .writable (.run {}) = .error failure := by
    let findings := (Run.library Machine.bare.loader).value
    have hwritten : (findings.report.print .lines .writable).1 = .ok () :=
      (findings.report.delivered_print .lines .writable).ok_iff.mpr (.inl (Stdout.takes_writable _))
    change Run.settled (findings.report.print .lines .writable).1 findings.result = _
    rw [hwritten]
    rfl
  rw [hverdict] at hdiagnosed
  exact ⟨hread, rfl, rfl, hdiagnosed.exitCode, hdiagnosed.tells.mpr (by simp [Run.HelpLost])⟩

/-- No log tells of the help text that a full standard output did not take. -/
theorem run_help_lost :
    let outcome := run .v4l2test [] switchedOn .bare .full
    CommandLine.read .v4l2test [] = .ok (.run {}) ∧
      Run.verdict .v4l2test .bare .full (.run {}) = .error (.output (.os .noSpace)) ∧
      outcome = { ending := ⟨1, []⟩ } ∧ outcome.stderr = "" ∧
      ¬ Run.Tells .v4l2test (.error (.output (.os .noSpace))) outcome.records := by
  intro outcome
  have hread : CommandLine.read .v4l2test [] = .ok (.run {}) := by decide +kernel
  obtain ⟨hwritten, htaken⟩ := Run.printed_full .v4l2test
  have houtcome : outcome = { ending := ⟨1, []⟩ } := by
    simp only [outcome, run, hread, Run.perform_of_no_device]
    rw [Run.unlogged, Run.usage, Run.conclude_eq, hwritten, htaken]
    rfl
  have hverdict : Run.verdict .v4l2test .bare .full (.run {}) =
      .error (.output (.os .noSpace)) := by
    change Run.settled (Run.printed .full (Help.text .v4l2test false)).1 (.ok ()) = _
    rw [hwritten, Run.settled]
  rw [houtcome]
  exact ⟨hread, hverdict, rfl, rfl, by simp [Run.tells_nil_iff]⟩

end

end DecodeProbe
