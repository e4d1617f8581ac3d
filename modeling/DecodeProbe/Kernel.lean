import DecodeProbe.Node
import DecodeProbe.Text.Blank

/-!
# What the kernel answers

The kernel fills in records with text fields of fixed width.  A text ends at the
first NUL byte or fills the whole field; it is read leniently and without blanks
at its ends.
-/

namespace DecodeProbe

open DecodeProbe.Text.Utf8 (Bytes)

structure Field (width : Nat) where
  bytes : Bytes
  length_bytes : bytes.length = width

namespace Field

variable {width : Nat}

/-- A field that holds as much of the bytes as fits, padded with zeros. -/
def store (width : Nat) (content : Bytes) : Field width :=
  ⟨(content ++ List.replicate width 0).take width, by simp⟩

def chars (field : Field width) : List Char :=
  Text.trim (Text.Utf8.lossy (field.bytes.takeWhile (· ≠ 0)))

def text (field : Field width) : String := String.ofList field.chars

example : (store 4 [0x20, 0xC3, 0xA9]).chars = ['é'] := by decide

example : (store 2 [0x61, 0xC3, 0xA9]).chars = ['a', '\uFFFD'] := by decide

end Field

structure CapabilityRecord where
  driver : Field 16
  card : Field 32
  busInfo : Field 32
  version : UInt32
  capabilities : UInt32
  deviceCaps : UInt32

def CapabilityRecord.read (record : CapabilityRecord) : Capabilities where
  driver := record.driver.text
  card := record.card.text
  busInfo := record.busInfo.text
  version := record.version
  capabilities := record.capabilities
  deviceCaps := record.deviceCaps

structure FormatRecord where
  pixelFormat : UInt32
  description : Field 32

def FormatRecord.read (record : FormatRecord) : Format where
  fourcc := FourCC.ofWord record.pixelFormat
  description := record.description.text

/--
The answers to opening a path and to the queries on it.  `opens` lists how the
calls to open turn out, `none` for success; later ones succeed.
-/
structure Kernel where
  opens : List (Option Errno) := []
  capabilities : Except Errno CapabilityRecord
  format : Queue → Nat → Except Errno FormatRecord

def Kernel.absent : Kernel where
  opens := [some .notFound]
  capabilities := .error .notFound
  format := fun _ _ => .error .notFound

end DecodeProbe
