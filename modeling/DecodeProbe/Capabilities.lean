import DecodeProbe.FourCC
import DecodeProbe.Text.Numeral

/-!
# What a video node says about itself

`Capabilities` is the answer to the capability query and `Format` one entry of
a format enumeration.
-/

namespace DecodeProbe

inductive Capability where
  | videoCapture
  | videoOutput
  | videoCaptureMplane
  | videoOutputMplane
  | videoM2mMplane
  | videoM2m
  | streaming
  | deviceCaps
  deriving DecidableEq, Repr

namespace Capability

def bit : Capability → UInt32
  | .videoCapture => 0x00000001
  | .videoOutput => 0x00000002
  | .videoCaptureMplane => 0x00001000
  | .videoOutputMplane => 0x00002000
  | .videoM2mMplane => 0x00004000
  | .videoM2m => 0x00008000
  | .streaming => 0x04000000
  | .deviceCaps => 0x80000000

def all : List Capability :=
  [.videoCapture, .videoOutput, .videoCaptureMplane, .videoOutputMplane,
   .videoM2mMplane, .videoM2m, .streaming, .deviceCaps]

def isSetIn (capability : Capability) (word : UInt32) : Bool := word &&& capability.bit != 0

end Capability

/--
`capabilities` speaks of the whole physical device and `deviceCaps` of this
node; the latter is valid only when the former says so.
-/
structure Capabilities where
  driver : String := ""
  card : String := ""
  busInfo : String := ""
  version : UInt32 := 0
  capabilities : UInt32 := 0
  deviceCaps : UInt32 := 0
  deriving DecidableEq, Repr

namespace Capabilities

def hasDeviceCaps (caps : Capabilities) : Bool := Capability.deviceCaps.isSetIn caps.capabilities

def isStreaming (caps : Capabilities) : Bool := Capability.streaming.isSetIn caps.deviceCaps

def isM2m (caps : Capabilities) : Bool := Capability.videoM2m.isSetIn caps.deviceCaps

def isM2mMplane (caps : Capabilities) : Bool := Capability.videoM2mMplane.isSetIn caps.deviceCaps

end Capabilities

/-- A packed version as `major.minor.patch`; minor and patch have eight bits each. -/
def versionText (version : UInt32) : String :=
  let major := Text.decimal (version.toNat / 0x10000)
  let minor := Text.decimal (version.toNat / 0x100 % 0x100)
  let patch := Text.decimal (version.toNat % 0x100)
  s!"{major}.{minor}.{patch}"

structure Format where
  fourcc : FourCC
  description : String
  deriving DecidableEq, Repr

def Format.text (format : Format) : String := s!"{format.fourcc.text} ({format.description})"

end DecodeProbe
