import DecodeProbe.Codec
import DecodeProbe.Text.Numeral

/-!
# Sets of codecs

The result of a probe is a word.  A codec is in the set when its bit is set;
the other bits of the word are kept as they are.
-/

namespace DecodeProbe

structure CodecSet where
  bits : UInt32
  deriving DecidableEq, Repr

namespace CodecSet

def empty : CodecSet := ⟨0⟩

def ofCodec (codec : Codec) : CodecSet := ⟨codec.bit⟩

def isEmpty (set : CodecSet) : Bool := set.bits == 0

def contains (set : CodecSet) (codec : Codec) : Bool := set.bits &&& codec.bit != 0

def insert (set : CodecSet) (codec : Codec) : CodecSet := ⟨set.bits ||| codec.bit⟩

instance : HOr CodecSet Codec CodecSet := ⟨insert⟩

def codecs (set : CodecSet) : List Codec := Codec.all.filter set.contains

def text (set : CodecSet) : String := Text.decimal set.bits.toNat

/-- One step on a set: three ways of adding a codec, and a question. -/
inductive Step where
  | insert (codec : Codec)
  | join (codec : Codec)
  | joinInPlace (codec : Codec)
  | ask (codec : Codec)
  deriving DecidableEq, Repr

def apply (set : CodecSet) : Step → CodecSet
  | .insert codec => set.insert codec
  | .join codec | .joinInPlace codec => set ||| codec
  | .ask _ => set

@[simp] theorem bits_insert (set : CodecSet) (codec : Codec) :
    (set.insert codec).bits = set.bits ||| codec.bit := rfl

end CodecSet

end DecodeProbe
