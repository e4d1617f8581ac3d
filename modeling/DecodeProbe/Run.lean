import DecodeProbe.Device
import DecodeProbe.Failure
import DecodeProbe.Help
import DecodeProbe.Library
import DecodeProbe.Log.Environment
import DecodeProbe.Stdout

/-!
# Running a tool

A run takes arguments, an environment, a machine and a standard output, and ends
with an exit code, what was written, and the warnings and log records shown on
the error stream.  The environment chooses what is shown there and nothing else.
-/

namespace DecodeProbe

open CommandLine (Settings UsageError)
open DecodeProbe.Text.Utf8 (Bytes)
open Log (Environment Record Warning)

structure Machine where
  devicePath : Option Bytes
  kernel : Kernel
  loader : Loader

namespace Machine

def kernelAt (machine : Machine) (path : Bytes) : Kernel :=
  if machine.devicePath = some path then machine.kernel else .absent

def bare : Machine where
  devicePath := none
  kernel := .absent
  loader name := .error (.notFound name)

end Machine

/-- A report, and the failure that the exit code is to tell of. -/
structure Findings where
  report : Report
  result : Except Failure Unit

structure Ending where
  exitCode : Nat
  stdout : Bytes
  deriving DecidableEq, Repr

structure Outcome where
  ending : Ending
  warnings : List Warning := []
  records : List Record := []
  complaint : Option UsageError := none
  deriving DecidableEq, Repr

def Outcome.stderr (outcome : Outcome) : String :=
  match outcome.complaint with
  | some error => error.message ++ "\n"
  | none => String.join (outcome.warnings.map Warning.line ++ outcome.records.map Record.line)

namespace Run

def settingsFormat (settings : Settings) : OutputFormat :=
  if settings.json then .object else .lines

def device (kernel : Kernel) (path : Bytes) : Traced NodeCall Findings := do
  Traced.note (.tool .v4l2test) s!"v4l2test probing device '{Text.Utf8.shown path}'"
  match ← probeDevice kernel path with
  | .ok codecs => return ⟨(Report.addSupported {} true).addCodecs codecs, .ok ()⟩
  | .error error =>
      let report ← Report.addError {} (error.report path)
      return ⟨report, if error.isFatal then .error (.ofProbeError error) else .ok ()⟩

def library (loader : Loader) : Traced LibraryCall Findings := do
  Traced.note (.tool .mpptest) "Testing Mpp"
  match ← loader.load Library.fileName with
  | .ok library =>
      Traced.note (.tool .mpptest) "Mpp Library Loaded"
      let codecs ← library.probe
      return ⟨(Report.addSupported {} (!codecs.isEmpty)).addCodecs codecs, .ok ()⟩
  | .error error =>
      let report ← Report.addError {} ("MPP " ++ error.message)
      return ⟨report, .error (.ofProbeError error)⟩

/-- Ends with what was written; a failure to write wins over the one that was found. -/
def conclude {κ : Type} (tool : Tool) (stdout : Stdout)
    (written : Except IoError Unit × Stdout.State) (result : Except Failure Unit) :
    Traced κ Ending := do
  let verdict :=
    match written.1 with
    | .error cause => .error (.output cause)
    | .ok () => result
  return ⟨← Failure.conclude tool verdict, stdout.atExit written.2⟩

def probing {κ : Type} (tool : Tool) (format : OutputFormat) (stdout : Stdout)
    (probe : Traced κ Findings) : Traced κ Ending := do
  Traced.note (.logging tool) "Logging initialized"
  let findings ← probe
  conclude tool stdout (findings.report.print format stdout) findings.result

/-- A text for the reader is not flushed; what is left of it goes when the program ends. -/
def printed (stdout : Stdout) (text : String) : Except IoError Unit × Stdout.State :=
  Stdout.started (stdout.write (Text.Utf8.bytes text))

/-- Without a device the short help is printed; that it could not be is a failure. -/
def usage (tool : Tool) (stdout : Stdout) : Traced Empty Ending :=
  conclude tool stdout (printed stdout (Help.text tool false)) (.ok ())

def unlogged {κ : Type} (run : Traced κ Ending) : Outcome where
  ending := run.value

def logged {κ : Type} (environment : Environment) (run : Traced κ Ending) : Outcome where
  ending := run.value
  warnings := environment.reading.warnings
  records := run.log.filter environment.reading.filter.selects

/-- A text that was asked for; whether it could be printed does not matter. -/
def answered (stdout : Stdout) (text : String) : Outcome where
  ending := ⟨0, stdout.atExit (printed stdout text).2⟩

def usageExitCode : Nat := 2

def perform (tool : Tool) (settings : Settings) (environment : Environment) (machine : Machine)
    (stdout : Stdout) : Outcome :=
  let format := settingsFormat settings
  match tool, settings.device with
  | .v4l2test, none => unlogged (usage .v4l2test stdout)
  | .v4l2test, some path =>
      logged environment
        (probing .v4l2test format stdout (device (machine.kernelAt path) path))
  | .mpptest, _ =>
      logged environment (probing .mpptest format stdout (library machine.loader))

end Run

def run (tool : Tool) (arguments : List Bytes) (environment : Environment) (machine : Machine)
    (stdout : Stdout) : Outcome :=
  match CommandLine.read tool arguments with
  | .error error => { ending := ⟨Run.usageExitCode, []⟩, complaint := some error }
  | .ok (.help long) => Run.answered stdout (Help.text tool long)
  | .ok .version => Run.answered stdout (Help.version tool)
  | .ok (.run settings) => Run.perform tool settings environment machine stdout

end DecodeProbe
