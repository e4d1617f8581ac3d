import DecodeProbe.IoError
import DecodeProbe.LoadError
import DecodeProbe.Text.Utf8

/-!
# Why a probe gives no codecs

Either the probe could not run at all, which is fatal, or it ran and found the
device unsuitable.
-/

namespace DecodeProbe

open DecodeProbe.Text.Utf8 (Bytes)

inductive ProbeError where
  | open (path : Bytes) (cause : IoError)
  | queryCapabilities (errno : Errno)
  | noDeviceCaps
  | notStreaming
  | notM2m
  | noCaptureFormat
  | libraryNotLoaded (cause : LoadError)
  | symbolNotFound (name : String)
  deriving DecidableEq, Repr

namespace ProbeError

def message : ProbeError → String
  | .open path cause => s!"failed to open device {Text.Utf8.shown path}: {cause.text}"
  | .queryCapabilities errno => "failed to query capabilities: " ++ errno.symbolText
  | .noDeviceCaps => "does not support DEVICE_CAPS"
  | .notStreaming => "does not support V4L2_CAP_STREAMING"
  | .notM2m => "does not support M2M modes"
  | .noCaptureFormat => "does not support NV12 or YV12 capture formats"
  | .libraryNotLoaded cause => "cannot load library: " ++ cause.text
  | .symbolNotFound name => "cannot bind " ++ name

def isFatal : ProbeError → Bool
  | .open .. | .queryCapabilities _ | .libraryNotLoaded _ | .symbolNotFound _ => true
  | .noDeviceCaps | .notStreaming | .notM2m | .noCaptureFormat => false

/-- The text of the failure below, where there is one. -/
def cause? : ProbeError → Option String
  | .open _ cause => some cause.text
  | .queryCapabilities errno => some errno.symbolText
  | .libraryNotLoaded cause => some cause.text
  | _ => none

/-- The failure as the parent process reads it; opening names the path itself. -/
def report (path : Bytes) (error : ProbeError) : String :=
  match error with
  | .open .. => "V4L2 " ++ error.message
  | _ => s!"V4L2 device {Text.Utf8.shown path} {error.message}"

end ProbeError

end DecodeProbe
