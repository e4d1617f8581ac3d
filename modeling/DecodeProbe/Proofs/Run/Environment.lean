import DecodeProbe.Proofs.Log.Quiet
import DecodeProbe.Proofs.Log.Selection
import DecodeProbe.Run

/-!
# What the environment changes

A run keeps its log whatever the environment says, and the environment selects
what is shown of it.  How the run ends does not depend on what is shown.
-/

namespace DecodeProbe

open CommandLine (Settings UsageError)
open DecodeProbe.Text.Utf8 (Bytes)
open Log (Environment Level Record)

/-! ## The log of a probing run -/

@[simp] theorem Failure.log_conclude_ok {κ : Type} (tool : Tool) (done : Unit) :
    (conclude tool (.ok done) : Traced κ Nat).log = [] := rfl

@[simp] theorem Failure.log_conclude_error {κ : Type} (tool : Tool) (failure : Failure) :
    (conclude tool (.error failure) : Traced κ Nat).log =
      [⟨.error, .failure tool, failure.message⟩] := rfl

namespace Run

/-- A failure to write wins over the one that was found. -/
def settled (written : Except IoError Unit) (result : Except Failure Unit) :
    Except Failure Unit :=
  match written with
  | .error cause => .error (.output cause)
  | .ok () => result

theorem conclude_eq {κ : Type} (tool : Tool) (stdout : Stdout)
    (written : Except IoError Unit × Stdout.State) (result : Except Failure Unit) :
    (conclude tool stdout written result : Traced κ Ending) =
      (fun code => ⟨code, stdout.atExit written.2⟩) <$>
        Failure.conclude tool (settled written.1 result) :=
  rfl

/-- The verdict on a run that writes what its probe found. -/
def probed (format : OutputFormat) (stdout : Stdout) (findings : Findings) :
    Except Failure Unit :=
  settled (findings.report.print format stdout).1 findings.result

section

variable {κ : Type} {tool : Tool} {format : OutputFormat} {stdout : Stdout}
  {probe : Traced κ Findings}

theorem log_probing :
    (probing tool format stdout probe).log =
      ⟨.debug, .logging tool, "Logging initialized"⟩ :: (probe.log ++
        (Failure.conclude tool (probed format stdout probe.value) : Traced κ Nat).log) := by
  simp [probing, probed, conclude_eq]

theorem plain_probing (hquiet : probe.Quiet) :
    ∀ record ∈ (probing tool format stdout probe).log, record.Plain := by
  have hconclude : ∀ verdict, ∀ record ∈ (Failure.conclude tool verdict : Traced κ Nat).log,
      record.Plain := by
    intro verdict record hmem
    cases verdict with
    | ok => cases hmem
    | error failure =>
        obtain rfl : record = ⟨.error, .failure tool, failure.message⟩ := by simpa using hmem
        simp [Record.Plain, Level.rank]
  intro record hmem
  simp only [log_probing, List.mem_cons, List.mem_append] at hmem
  obtain rfl | hmem | hmem := hmem
  · exact .of_debug rfl
  · exact .of_debug (hquiet record hmem)
  · exact hconclude _ record hmem

end

/-! ## What a run keeps and what it shows -/

/-- An outcome with this ending that shows a selection of this log. -/
structure Shows (environment : Environment) (ending : Ending) (log : List Record)
    (complaint : Option UsageError) (outcome : Outcome) : Prop where
  ending : outcome.ending = ending
  records : outcome.records = log.filter environment.reading.filter.selects
  warnings : outcome.warnings ⊆ environment.reading.warnings
  complaint : outcome.complaint = complaint

/-- One log serves every environment, and it is never chattier than debugging. -/
theorem shows_logged {κ : Type} {tool : Tool} {format : OutputFormat} {stdout : Stdout}
    {probe : Traced κ Findings} (hquiet : probe.Quiet) :
    ∃ ending log, (∀ record ∈ log, record.Plain) ∧ ∀ environment,
      Shows environment ending log none
        (logged environment (probing tool format stdout probe)) :=
  ⟨_, _, plain_probing hquiet, fun _ => ⟨rfl, rfl, List.Subset.refl _, rfl⟩⟩

section

variable {settings : Settings}

theorem perform_of_no_device (environment : Environment) (machine : Machine) (stdout : Stdout)
    (hdevice : settings.device = none) :
    perform .v4l2test settings environment machine stdout =
      unlogged (usage .v4l2test stdout) := by
  unfold perform
  rw [hdevice]

theorem perform_of_device {path : Bytes} (environment : Environment) (machine : Machine)
    (stdout : Stdout) (hdevice : settings.device = some path) :
    perform .v4l2test settings environment machine stdout =
      logged environment (probing .v4l2test (settingsFormat settings) stdout
        (device (machine.kernelAt path) path)) := by
  unfold perform
  rw [hdevice]

theorem perform_mpptest (environment : Environment) (machine : Machine) (stdout : Stdout) :
    perform .mpptest settings environment machine stdout =
      logged environment (probing .mpptest (settingsFormat settings) stdout
        (library machine.loader)) := rfl

end

theorem shows_perform (tool : Tool) (settings : Settings) (machine : Machine) (stdout : Stdout) :
    ∃ ending log, (∀ record ∈ log, record.Plain) ∧ ∀ environment,
      Shows environment ending log none (perform tool settings environment machine stdout) := by
  cases tool with
  | v4l2test =>
      cases hdevice : settings.device with
      | none =>
          simp only [perform_of_no_device _ _ _ hdevice]
          exact ⟨_, [], by simp, fun _ => ⟨rfl, rfl, List.nil_subset _, rfl⟩⟩
      | some path =>
          simp only [perform_of_device _ _ _ hdevice]
          exact shows_logged (quiet_device _ path)
  | mpptest =>
      simp only [perform_mpptest]
      exact shows_logged (quiet_library machine.loader)

end Run

theorem shows_run (tool : Tool) (arguments : List Bytes) (machine : Machine) (stdout : Stdout) :
    ∃ ending log complaint, (∀ record ∈ log, record.Plain) ∧ ∀ environment,
      Run.Shows environment ending log complaint
        (run tool arguments environment machine stdout) := by
  have hunlogged : ∀ ending complaint environment,
      Run.Shows environment ending [] complaint { ending, complaint } := by
    intro ending complaint environment
    exact ⟨rfl, rfl, List.nil_subset _, rfl⟩
  unfold run
  cases CommandLine.read tool arguments with
  | error error => exact ⟨_, [], _, by simp, hunlogged _ _⟩
  | ok request =>
      cases request with
      | help long => exact ⟨_, [], none, by simp, hunlogged _ none⟩
      | version => exact ⟨_, [], none, by simp, hunlogged _ none⟩
      | run settings =>
          obtain ⟨ending, log, hplain, hshows⟩ := Run.shows_perform tool settings machine stdout
          exact ⟨ending, log, none, hplain, hshows⟩

theorem Outcome.stderr_of_shows_nothing {outcome : Outcome} (hwarnings : outcome.warnings = [])
    (hrecords : outcome.records = []) (hcomplaint : outcome.complaint = none) :
    outcome.stderr = "" := by
  simp [stderr, hwarnings, hrecords, hcomplaint]

/--
The environment chooses neither the exit code nor what is on standard output.
What it shows are records of the log of debugging, in their order, and without a
filter and with diagnostics off it shows none.
-/
theorem run_environment (tool : Tool) (arguments : List Bytes) (machine : Machine)
    (stdout : Stdout) :
    let outcome environment := run tool arguments environment machine stdout
    (∀ first second, (outcome first).ending = (outcome second).ending) ∧
    (∀ environment switch, (outcome environment).records.Sublist
      (outcome ⟨switch, some (Text.Utf8.bytes "debug")⟩).records) ∧
    (∀ environment, environment.filterText = none →
      (∀ rest, environment.debugSwitch ≠ some (0x31 :: rest)) →
      (outcome environment).records = [] ∧
        ((outcome environment).complaint = none → (outcome environment).stderr = "")) := by
  intro outcome
  obtain ⟨ending, log, complaint, hplain, hshows⟩ := shows_run tool arguments machine stdout
  refine ⟨?endings, ?selected, ?silent⟩
  case endings =>
    intro first second
    exact (hshows first).ending.trans (hshows second).ending.symm
  case selected =>
    intro environment switch
    have hdebug := (hshows ⟨switch, some (Text.Utf8.bytes "debug")⟩).records
    rw [Environment.reading_of_debug, Log.Filter.filter_uniform_debug hplain] at hdebug
    rw [(hshows environment).records, hdebug]
    exact List.filter_sublist
  case silent =>
    intro environment hfilter hswitch
    have hreading := Environment.reading_of_switched_off hfilter hswitch
    have hrecords := (hshows environment).records
    have hwarnings := (hshows environment).warnings
    rw [hreading] at hrecords hwarnings
    rw [Log.Filter.filter_uniform_none] at hrecords
    exact ⟨hrecords, Outcome.stderr_of_shows_nothing (List.subset_nil.mp hwarnings) hrecords⟩

/-- Diagnostics on, and no filter of its own. -/
def switchedOn : Environment := { debugSwitch := some [0x31] }

theorem run_environment_bare :
    let device := Text.Utf8.bytes "v"
    let outcome environment :=
      run .v4l2test [Text.Utf8.bytes "-d", device] environment .bare .writable
    CommandLine.read .v4l2test [Text.Utf8.bytes "-d", device] =
        .ok (.run { device := some device }) ∧
      (outcome {}).ending = (outcome switchedOn).ending ∧
      (outcome switchedOn).records.Sublist
        (outcome ⟨none, some (Text.Utf8.bytes "debug")⟩).records ∧
      (outcome {}).records = [] ∧ (outcome {}).stderr = "" := by
  intro device outcome
  have hread : CommandLine.read .v4l2test [Text.Utf8.bytes "-d", device] =
      .ok (.run { device := some device }) := by decide +kernel
  obtain ⟨hendings, hselected, hsilent⟩ :=
    run_environment .v4l2test [Text.Utf8.bytes "-d", device] .bare .writable
  obtain ⟨hrecords, hstderr⟩ := hsilent {} rfl (by simp)
  have hcomplaint : (outcome {}).complaint = none := by
    simp only [outcome, run, hread]
    rw [Run.perform_of_device _ _ _ rfl, Run.logged]
  exact ⟨hread, hendings _ _, hselected _ _, hrecords, hstderr hcomplaint⟩

end DecodeProbe
