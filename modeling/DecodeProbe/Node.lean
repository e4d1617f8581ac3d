import DecodeProbe.Capabilities
import DecodeProbe.CodecSet
import DecodeProbe.FormatScan
import DecodeProbe.ProbeError
import DecodeProbe.Queue
import DecodeProbe.Trace

/-!
# Probing a video node

A node answers one capability query and, for each queue and index, one format
query.  It is a usable decoder when it knows its own capabilities, streams, is a
memory-to-memory device and hands out a raw format on its capture queue; the
formats on its output queue then make the mask of codecs.
-/

namespace DecodeProbe

inductive NodeCall where
  | openNode (readWrite nonBlocking : Bool)
  | queryCapabilities
  | enumFormat (queue : Queue) (index : Nat)
  | close
  deriving DecidableEq, Repr

def NodeCall.text : NodeCall → String
  | .openNode readWrite nonBlocking =>
      s!"open rdwr={readWrite.toNat} nonblock={nonBlocking.toNat}"
  | .queryCapabilities => "querycap"
  | .enumFormat queue index => s!"enum_fmt type={queue.code} index={index}"
  | .close => "close"

structure Node where
  capabilities : Except Errno Capabilities
  format : Queue → Nat → Except Errno Format

namespace Node

open Traced

def maxFormats : Nat := 256

/--
Asks for the formats from `index` on, at most `left` of them.  The error that
means the end of the list is not worth a record.
-/
def enumerate (node : Node) (queue : Queue) :
    (left index : Nat) → FormatScan → Traced NodeCall FormatScan
  | 0, _, scan => do
      note .formats s!"{queue.name} enumeration capped at {maxFormats} formats"
      return scan
  | left + 1, index, scan => do
      made (.enumFormat queue index)
      match node.format queue index with
      | .ok format =>
          note .formats s!"{queue.name} format {index}: {format.text}"
          node.enumerate queue left (index + 1) (scan.record format.fourcc)
      | .error errno =>
          if errno ≠ .invalidArgument then
            note .formats
              s!"{queue.name} enumeration stopped at index {index}: {errno.symbolText}"
          return scan

def supportedFormats (node : Node) (queue : Queue) : Traced NodeCall FormatScan :=
  node.enumerate queue maxFormats 0 {}

end Node

/-- Whether the node can be a decoder at all, and if so whether it is multi-planar. -/
def Capabilities.planes (caps : Capabilities) : Except ProbeError Bool :=
  if !caps.hasDeviceCaps then .error .noDeviceCaps
  else if !caps.isStreaming then .error .notStreaming
  else if !caps.isM2m && !caps.isM2mMplane then .error .notM2m
  else .ok caps.isM2mMplane

def Capabilities.summary (caps : Capabilities) : String :=
  let version := versionText caps.version
  s!"driver {caps.driver} card {caps.card} bus_info {caps.busInfo} version {version}"

namespace Node

open Traced

def checkQueues (node : Node) (mplane : Bool) : Traced NodeCall (Except ProbeError CodecSet) := do
  let frames ← node.supportedFormats (.capture mplane)
  if !frames.isRaw then
    return .error .noCaptureFormat
  else
    let streams ← node.supportedFormats (.output mplane)
    let codecs : CodecSet := ⟨streams.bits⟩
    codecs.codecs.forM fun codec => note .formats ("hardware decode " ++ codec.name)
    note .formats ("hardware codecs " ++ Text.hexadecimal codecs.bits.toNat)
    return .ok codecs

def check (node : Node) : Traced NodeCall (Except ProbeError CodecSet) := do
  made .queryCapabilities
  match node.capabilities with
  | .error errno => return .error (.queryCapabilities errno)
  | .ok caps =>
      note .formats caps.summary
      match caps.planes with
      | .error error => return .error error
      | .ok mplane => node.checkQueues mplane

end Node

end DecodeProbe
