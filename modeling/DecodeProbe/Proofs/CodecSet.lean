import DecodeProbe.CodecSet
import Mathlib.Data.Nat.Bitwise

/-!
# Codec sets by their bits

The four codecs own bits 4 to 7 of a word.  Adding a codec sets its own bit and
changes no other one.
-/

namespace DecodeProbe

/-- The bits that belong to no codec. -/
def CodecSet.foreign (codecs : CodecSet) : UInt32 := codecs.bits &&& ~~~0xF0

theorem Codec.toNat_bit (codec : Codec) : codec.bit.toNat = 2 ^ (codec.position + 4) := by
  cases codec <;> rfl

theorem Codec.position_inj {first second : Codec} (heq : first.position = second.position) :
    first = second := by
  have hfirst := getElem?_position first
  rw [heq, getElem?_position] at hfirst
  exact (Option.some.inj hfirst).symm

namespace CodecSet

theorem contains_eq_testBit (codecs : CodecSet) (codec : Codec) :
    codecs.contains codec = codecs.bits.toNat.testBit (codec.position + 4) := by
  have hzero : codecs.bits &&& codec.bit = 0 ↔
      codecs.bits.toNat.testBit (codec.position + 4) = false := by
    rw [← UInt32.toNat_inj, UInt32.toNat_and, Codec.toNat_bit, Nat.and_two_pow]
    cases codecs.bits.toNat.testBit (codec.position + 4) <;> simp
  cases hbit : codecs.bits.toNat.testBit (codec.position + 4) <;> simp_all [contains]

theorem testBit_insert (codecs : CodecSet) (codec : Codec) (position : Nat) :
    (codecs.insert codec).bits.toNat.testBit position =
      (codecs.bits.toNat.testBit position || decide (codec.position + 4 = position)) := by
  rw [bits_insert, UInt32.toNat_or, Nat.testBit_or, Codec.toNat_bit, Nat.testBit_two_pow]

@[simp] theorem contains_empty (codec : Codec) : empty.contains codec = false := by
  cases codec <;> decide

theorem contains_insert (codecs : CodecSet) (codec other : Codec) :
    (codecs.insert codec).contains other = (codecs.contains other || decide (codec = other)) := by
  rw [contains_eq_testBit, contains_eq_testBit, testBit_insert]
  congr 1
  rw [decide_eq_decide, Nat.add_right_cancel_iff]
  exact ⟨Codec.position_inj, congrArg Codec.position⟩

@[simp] theorem foreign_empty : empty.foreign = 0 := by decide

@[simp] theorem foreign_insert (codecs : CodecSet) (codec : Codec) :
    (codecs.insert codec).foreign = codecs.foreign := by
  have hown : codec.bit &&& ~~~0xF0 = 0 := by cases codec <;> decide
  calc (codecs.bits ||| codec.bit) &&& ~~~0xF0
      = (codecs.bits &&& ~~~0xF0) ||| (codec.bit &&& ~~~0xF0) := by
        apply UInt32.toNat_inj.mp
        simp only [UInt32.toNat_and, UInt32.toNat_or]
        exact Nat.and_or_distrib_right ..
    _ = codecs.bits &&& ~~~0xF0 := by rw [hown, UInt32.or_zero]

end CodecSet

end DecodeProbe
