import DecodeProbe.Text.Escaped

/-!
# Four-character codes

A pixel format is named by four bytes.  The kernel passes them as one word with
the first byte lowest.  A code prints as its own four bytes when they are UTF-8,
and as escaped bytes otherwise.
-/

namespace DecodeProbe

open DecodeProbe.Text.Utf8 (Bytes)

structure FourCC where
  byte0 : UInt8
  byte1 : UInt8
  byte2 : UInt8
  byte3 : UInt8
  deriving DecidableEq, Repr

namespace FourCC

def bytes (code : FourCC) : Bytes := [code.byte0, code.byte1, code.byte2, code.byte3]

/-- The first four bytes, with zeros for the ones that are missing. -/
def ofBytes (input : Bytes) : FourCC :=
  ⟨input.getD 0 0, input.getD 1 0, input.getD 2 0, input.getD 3 0⟩

def toWord (code : FourCC) : UInt32 :=
  UInt32.ofNat (code.byte0.toNat + 0x100 * code.byte1.toNat +
    0x10000 * code.byte2.toNat + 0x1000000 * code.byte3.toNat)

def ofWord (word : UInt32) : FourCC :=
  ⟨UInt8.ofNat word.toNat, UInt8.ofNat (word.toNat / 0x100),
   UInt8.ofNat (word.toNat / 0x10000), UInt8.ofNat (word.toNat / 0x1000000)⟩

def nv12 : FourCC := ⟨0x4E, 0x56, 0x31, 0x32⟩
def yv12 : FourCC := ⟨0x59, 0x56, 0x31, 0x32⟩
def h264 : FourCC := ⟨0x48, 0x32, 0x36, 0x34⟩
def vp8 : FourCC := ⟨0x56, 0x50, 0x38, 0x30⟩
def vp9 : FourCC := ⟨0x56, 0x50, 0x39, 0x30⟩
def av1 : FourCC := ⟨0x41, 0x56, 0x31, 0x46⟩

/-- Decoded frames come in one of the raw formats. -/
def IsRaw (code : FourCC) : Prop := code = nv12 ∨ code = yv12

instance (code : FourCC) : Decidable code.IsRaw :=
  inferInstanceAs (Decidable (code = nv12 ∨ code = yv12))

def chars (code : FourCC) : List Char :=
  match Text.Utf8.decode? code.bytes with
  | some text => text
  | none => Text.Escaped.escape code.bytes

def text (code : FourCC) : String := String.ofList code.chars

def described (code : FourCC) : String := "FourCC(" ++ code.text ++ ")"

def indentLines : Bool → List Char → List Char
  | _, [] => []
  | true, c :: rest => [' ', ' ', ' ', ' '] ++ c :: indentLines (c == '\n') rest
  | false, c :: rest => c :: indentLines (c == '\n') rest

/-- `described` over several lines, the code and a comma indented between the brackets. -/
def describedOverLines (code : FourCC) : String :=
  "FourCC(\n" ++ String.ofList (indentLines true (code.chars ++ [',', '\n'])) ++ ")"

example : ofBytes (Text.Utf8.bytes "NV12") = nv12 ∧ ofBytes (Text.Utf8.bytes "AV1F") = av1 := by
  decide

example : nv12.toWord = 0x3231564E ∧ h264.toWord = 0x34363248 := by decide

theorem bytes_injective {a b : FourCC} (heq : a.bytes = b.bytes) : a = b := by
  cases a; cases b
  simpa [bytes] using heq

@[simp] theorem length_bytes (code : FourCC) : code.bytes.length = 4 := rfl

end FourCC

end DecodeProbe
