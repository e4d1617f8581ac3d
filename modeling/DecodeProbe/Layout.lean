/-!
# Layout of binary records

A record places its members in order, each at the next multiple of its
alignment, and its size is rounded up to the greatest alignment among them.
The records are those that are exchanged with the kernel and with the codec
library on a 64-bit machine.
-/

namespace DecodeProbe

structure Member where
  name : String
  size : Nat
  alignment : Nat
  deriving DecidableEq, Repr

abbrev Layout := List Member

namespace Layout

def roundUp (offset alignment : Nat) : Nat := (offset + alignment - 1) / alignment * alignment

/-- The members with their offsets, the first one placed at or after `start`. -/
def placed (start : Nat) : Layout → List (String × Nat)
  | [] => []
  | member :: rest =>
      let offset := roundUp start member.alignment
      (member.name, offset) :: placed (offset + member.size) rest

def unrounded (layout : Layout) : Nat :=
  layout.foldl (fun start member => roundUp start member.alignment + member.size) 0

def alignment (layout : Layout) : Nat :=
  layout.foldl (fun most member => max most member.alignment) 1

def size (layout : Layout) : Nat := roundUp layout.unrounded layout.alignment

def offset? (layout : Layout) (name : String) : Option Nat := (placed 0 layout).lookup name

def octets (name : String) (count : Nat) : Member := ⟨name, count, 1⟩
def words (name : String) (count : Nat) : Member := ⟨name, 4 * count, 4⟩
def pointer (name : String) : Member := ⟨name, 8, 8⟩

def capability : Layout :=
  [octets "driver" 16, octets "card" 32, octets "bus_info" 32, words "version" 1,
   words "capabilities" 1, words "device_caps" 1, words "reserved" 3]

def formatDescription : Layout :=
  [words "index" 1, words "type" 1, words "flags" 1, octets "description" 32,
   words "pixelformat" 1, words "mbus_code" 1, words "reserved" 3]

def operationTable : Layout :=
  [words "size" 1, words "version" 1] ++
  ["decode", "decode_put_packet", "decode_get_frame", "encode", "encode_put_frame",
   "encode_get_packet", "isp", "isp_put_frame", "isp_get_frame", "poll", "dequeue",
   "enqueue", "reset", "control"].map pointer ++
  [words "reserv" 16]

example : capability.size = 104 ∧ formatDescription.size = 64 ∧ operationTable.size = 184 := by
  decide

example : operationTable.offset? "reset" = some 104 ∧
    operationTable.offset? "reserv" = some 120 := by
  decide

end Layout

end DecodeProbe
