import DecodeProbe.Codec
import DecodeProbe.FourCC

/-!
# Scanning the formats of a queue

A compressed format adds the bit of its codec.  A raw format replaces the whole
mask by one and marks the scan as raw, so the order of the formats matters.
VP8, VP9 and AV1 are recognised by name and leave a scan as it is.
-/

namespace DecodeProbe

structure FormatScan where
  bits : UInt32 := 0
  isRaw : Bool := false
  deriving DecidableEq, Repr

namespace FormatScan

def record (scan : FormatScan) (code : FourCC) : FormatScan :=
  if code = FourCC.h264 then { scan with bits := scan.bits ||| Codec.h264.bit }
  else if code.IsRaw then { bits := 1, isRaw := true }
  else scan

def recordAll (scan : FormatScan) (codes : List FourCC) : FormatScan := codes.foldl record scan

@[simp] theorem recordAll_nil (scan : FormatScan) : scan.recordAll [] = scan := rfl

@[simp] theorem recordAll_cons (scan : FormatScan) (code : FourCC) (codes : List FourCC) :
    scan.recordAll (code :: codes) = (scan.record code).recordAll codes := rfl

end FormatScan

end DecodeProbe
