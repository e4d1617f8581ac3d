import DecodeProbe.CodecSet
import DecodeProbe.Text.Numeral
import DecodeProbe.Trace

/-!
# Probing a codec runtime

A codec runtime makes decoder contexts.  A codec is supported when a context can
be made, the runtime says that it supports the codec, and the context can be
initialised for it.  One codec after the other is tried, and what one of them
fails at never keeps the next from being tried.  A context that was initialised
is reset and destroyed; any other is left alone.
-/

namespace DecodeProbe

/-- The operations of a runtime; those that can fail answer a return code. -/
structure CodecRuntime (σ κ χ : Type) where
  create : Stateful σ κ (Except Int χ)
  check : Codec → Stateful σ κ (Except Int Unit)
  init : χ → Codec → Stateful σ κ (Except Int Unit)
  reset : χ → Stateful σ κ Unit
  destroy : χ → Stateful σ κ Unit
  release : Stateful σ κ Unit

namespace CodecRuntime

open Stateful

variable {σ κ χ : Type}

def failureText (codec : Codec) (ret : Int) : String :=
  s!"codec id {Text.hexadecimal codec.codingType.toNat} ({Text.signedDecimal ret})"

def tryCodec (runtime : CodecRuntime σ κ χ) (found : CodecSet) (codec : Codec) :
    Stateful σ κ CodecSet := do
  match ← runtime.create with
  | .error ret =>
      note .library ("can not create mpp context for " ++ failureText codec ret)
      return found
  | .ok context =>
      match ← runtime.check codec with
      | .error ret =>
          note .library ("mpp does not support " ++ failureText codec ret)
          return found
      | .ok () =>
          match ← runtime.init context codec with
          | .error ret =>
              note .library ("mpp can not init " ++ failureText codec ret)
              return found
          | .ok () =>
              note .library ("mpp decodes " ++ codec.name)
              runtime.reset context
              runtime.destroy context
              return found.insert codec

def probe (runtime : CodecRuntime σ κ χ) : Stateful σ κ CodecSet := do
  let found ← Codec.all.foldlM runtime.tryCodec .empty
  runtime.release
  return found

end CodecRuntime

end DecodeProbe
