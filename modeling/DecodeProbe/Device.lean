import DecodeProbe.Kernel

/-!
# Device nodes

A device is opened for reading and writing without blocking.  Opening is tried
again as long as it is interrupted.  Every step on an open device asks the
kernel afresh, and the device is closed once, at the end.
-/

namespace DecodeProbe

open DecodeProbe.Text.Utf8 (Bytes)

structure Device where
  kernel : Kernel
  path : Bytes

namespace Device

open Traced

/-- Calls to open until one is not interrupted. -/
def acquire : List (Option Errno) → Traced NodeCall (Except Errno Unit)
  | [] | none :: _ => do
      made (.openNode true true)
      return .ok ()
  | some errno :: later => do
      made (.openNode true true)
      if errno = .interrupted then acquire later else return .error errno

def openPath (kernel : Kernel) (path : Bytes) : Traced NodeCall (Except ProbeError Device) :=
  if 0 ∈ path then
    return .error (.open path .nulInPath)
  else do
    match ← acquire kernel.opens with
    | .error errno => return .error (.open path (.os errno))
    | .ok () =>
        note .device ("opened " ++ Text.Utf8.shown path)
        return .ok ⟨kernel, path⟩

def capabilities (device : Device) : Except Errno Capabilities :=
  device.kernel.capabilities.map CapabilityRecord.read

def format (device : Device) (queue : Queue) (index : Nat) : Except Errno Format :=
  (device.kernel.format queue index).map FormatRecord.read

def node (device : Device) : Node where
  capabilities := device.capabilities
  format := device.format

def close (_ : Device) : Traced NodeCall Unit := made .close

inductive Step where
  | query
  | enumFormat (queue : Queue) (index : Nat)
  | scan (queue : Queue)
  | check
  deriving DecidableEq, Repr

inductive Answer where
  | capabilities (answer : Except Errno Capabilities)
  | format (answer : Except Errno Format)
  | scan (answer : FormatScan)
  | check (answer : Except ProbeError CodecSet)
  deriving Repr

def perform (device : Device) : Step → Traced NodeCall Answer
  | .query => do
      made .queryCapabilities
      return .capabilities device.capabilities
  | .enumFormat queue index => do
      made (.enumFormat queue index)
      return .format (device.format queue index)
  | .scan queue => Answer.scan <$> device.node.supportedFormats queue
  | .check => Answer.check <$> device.node.check

inductive Stage where
  | refused (error : ProbeError)
  | opened (path : Bytes)
  | answered (answer : Answer)
  | closed
  deriving Repr

/-- Opening, each step, and closing; a refused opening ends the session. -/
def session (kernel : Kernel) (path : Bytes) (steps : List Step) :
    List (Traced NodeCall Stage) :=
  let opening := openPath kernel path
  match opening.value with
  | .error error => [⟨.refused error, opening.events⟩]
  | .ok device =>
      ⟨.opened device.path, opening.events⟩ ::
        (steps.map fun step => Stage.answered <$> device.perform step) ++
        [(fun () => Stage.closed) <$> device.close]

end Device

def probeDevice (kernel : Kernel) (path : Bytes) :
    Traced NodeCall (Except ProbeError CodecSet) := do
  Traced.note .formats s!"probing device '{Text.Utf8.shown path}'"
  match ← Device.openPath kernel path with
  | .error error => return .error error
  | .ok device =>
      let found ← device.node.check
      device.close
      return found

end DecodeProbe
