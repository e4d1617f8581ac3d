import DecodeProbe.Errno

/-!
# Input and output errors

Why a file could not be opened or a result could not be written.
-/

namespace DecodeProbe

inductive IoError where
  | os (errno : Errno)
  /-- A path that contains a NUL byte never reaches the kernel. -/
  | nulInPath
  /-- A writer that takes no more bytes and gives no reason. -/
  | nothingWritten
  /-- The same, met while a buffer is emptied. -/
  | bufferNotWritten
  | entityNotFound
  | permissionDenied
  | brokenPipe
  | other (text : String)
  deriving DecidableEq, Repr

def IoError.text : IoError → String
  | .os errno => errno.systemText
  | .nulInPath => "file name contained an unexpected NUL byte"
  | .nothingWritten => "failed to write whole buffer"
  | .bufferNotWritten => "failed to write the buffered data"
  | .entityNotFound => "entity not found"
  | .permissionDenied => "permission denied"
  | .brokenPipe => "broken pipe"
  | .other text => text

end DecodeProbe
