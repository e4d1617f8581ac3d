import DecodeProbe.ProbeError
import DecodeProbe.Trace

/-!
# Failures of a tool

A tool fails when a probe could not run or its result could not be written.  A
device or library that was probed and found unsuitable is no failure.
-/

namespace DecodeProbe

inductive Failure where
  | deviceUnavailable (message : String)
  | libraryUnavailable (message : String)
  | output (cause : IoError)
  | general (message : String)
  deriving DecidableEq, Repr

namespace Failure

def message : Failure → String
  | .deviceUnavailable message => "Device unavailable: " ++ message
  | .libraryUnavailable message => "Library unavailable: " ++ message
  | .output cause => "Failed to write result: " ++ cause.text
  | .general message => "Error: " ++ message

def exitCode : Failure → Nat
  | .deviceUnavailable _ => 3
  | .libraryUnavailable _ => 4
  | .output _ | .general _ => 1

def ofProbeError (error : ProbeError) : Failure :=
  match error with
  | .open .. | .queryCapabilities _ => .deviceUnavailable error.message
  | .libraryNotLoaded _ | .symbolNotFound _ => .libraryUnavailable error.message
  | .noDeviceCaps | .notStreaming | .notM2m | .noCaptureFormat => .general error.message

/-- The exit code of a tool; a failure is logged as an error. -/
def conclude {κ : Type} (tool : Tool) : Except Failure Unit → Traced κ Nat
  | .ok () => return 0
  | .error failure => do
      Traced.wrote ⟨.error, .failure tool, failure.message⟩
      return failure.exitCode

end Failure

end DecodeProbe
