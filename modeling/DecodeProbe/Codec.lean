/-!
# Codecs

The four codecs that are probed, in the order in which they are tried.  Each
has one bit of its own in a reported mask and a coding type by which the codec
library knows it.
-/

namespace DecodeProbe

inductive Codec where
  | h264
  | vp8
  | vp9
  | av1
  deriving DecidableEq, Repr

namespace Codec

def all : List Codec := [.h264, .vp8, .vp9, .av1]

def name : Codec → String
  | .h264 => "H264"
  | .vp8 => "VP8"
  | .vp9 => "VP9"
  | .av1 => "AV1"

def label : Codec → String
  | .h264 => "H264"
  | .vp8 => "Vp8"
  | .vp9 => "Vp9"
  | .av1 => "Av1"

def position : Codec → Nat
  | .h264 => 0
  | .vp8 => 1
  | .vp9 => 2
  | .av1 => 3

/-- The bit in a reported mask; the four lowest bits belong to no codec. -/
def bit : Codec → UInt32
  | .h264 => 0x10
  | .vp8 => 0x20
  | .vp9 => 0x40
  | .av1 => 0x80

def codingType : Codec → UInt32
  | .h264 => 0x7
  | .vp8 => 0x9
  | .vp9 => 0xA
  | .av1 => 0x1000008

def ofName? (text : String) : Option Codec := all.find? fun codec => codec.name = text

@[simp] theorem mem_all (codec : Codec) : codec ∈ all := by cases codec <;> decide

theorem getElem?_position (codec : Codec) : all[codec.position]? = some codec := by
  cases codec <;> rfl

end Codec

end DecodeProbe
