import DecodeProbe.CodecRuntime.Script
import DecodeProbe.LoadError
import DecodeProbe.ProbeError

/-!
# The codec library

The codec library is a shared object with four entry points, looked up by name
when it is loaded.  Contexts come with a table of further operations, of which
only reset is used.  Resetting and destroying cannot fail the probe, so their
return codes are only logged.
-/

namespace DecodeProbe

inductive EntryPoint where
  | create
  | checkSupportFormat
  | init
  | destroy
  deriving DecidableEq, Repr

namespace EntryPoint

def symbol : EntryPoint → String
  | .create => "mpp_create"
  | .checkSupportFormat => "mpp_check_support_format"
  | .init => "mpp_init"
  | .destroy => "mpp_destroy"

def all : List EntryPoint := [.create, .checkSupportFormat, .init, .destroy]

end EntryPoint

inductive LibraryCall where
  | create (context : Nat) (ret : Int)
  | check (codec : Codec) (ret : Int)
  | init (context : Nat) (codec : Codec) (ret : Int)
  | reset (context : Nat) (ret : Int)
  | destroy (context : Nat) (ret : Int)
  deriving DecidableEq, Repr

/-- The kind of context that decodes, the one that encodes, and the code of success. -/
def decoderType : Nat := 0
def encoderType : Nat := 1
def successCode : Int := 0

def LibraryCall.text : LibraryCall → String
  | .create context ret => s!"create ctx={context} ret={Text.signedDecimal ret}"
  | .check codec ret =>
      let coding := Text.hexadecimal codec.codingType.toNat
      s!"check type={decoderType} coding={coding} ret={Text.signedDecimal ret}"
  | .init context codec ret =>
      let coding := Text.hexadecimal codec.codingType.toNat
      s!"init ctx={context} type={decoderType} coding={coding} ret={Text.signedDecimal ret}"
  | .reset context ret => s!"reset ctx={context} ret={Text.signedDecimal ret}"
  | .destroy context ret => s!"destroy ctx={context} ret={Text.signedDecimal ret}"

structure Context where
  number : Nat
  table : OperationTable
  deriving DecidableEq, Repr

structure Library where
  script : Script
  deriving DecidableEq, Repr

namespace Library

open Script (Progress)

def fileName : String := "librockchip_mpp.so"

def complaint (text : String) (ret : Int) : List (Event LibraryCall) :=
  if ret = successCode then []
  else [.log ⟨.debug, .library, text ++ Text.signedDecimal ret⟩]

def create (library : Library) : Stateful Progress LibraryCall (Except Int Context) :=
  fun progress =>
    let ret := library.script.create.getD progress.created 0
    let context : Context := ⟨progress.created + 1, library.script.table⟩
    ⟨(Script.outcome ret context, { progress with created := progress.created + 1 }),
     [.call (.create context.number ret)]⟩

def check (library : Library) (codec : Codec) :
    Stateful Progress LibraryCall (Except Int Unit) := fun progress =>
  let ret := library.script.check.getD progress.checked 0
  ⟨(Script.outcome ret (), { progress with checked := progress.checked + 1 }),
   [.call (.check codec ret)]⟩

def init (library : Library) (context : Context) (codec : Codec) :
    Stateful Progress LibraryCall (Except Int Unit) := fun progress =>
  let ret := library.script.init.getD progress.initialised 0
  ⟨(Script.outcome ret (), { progress with initialised := progress.initialised + 1 }),
   [.call (.init context.number codec ret)]⟩

/-- Without a table, or without its entry, resetting makes no call. -/
def reset (library : Library) (context : Context) : Stateful Progress LibraryCall Unit :=
  match context.table with
  | .complete => fun progress =>
      let ret := library.script.reset.getD progress.resets 0
      ⟨((), { progress with resets := progress.resets + 1 }),
       .call (.reset context.number ret) :: complaint "mpp reset returned " ret⟩
  | .missing | .withoutReset => Stateful.note .library "mpp context has no reset entry"

def destroy (library : Library) (context : Context) : Stateful Progress LibraryCall Unit :=
  fun progress =>
    let ret := library.script.destroy.getD progress.destroyed 0
    ⟨((), { progress with destroyed := progress.destroyed + 1 }),
     .call (.destroy context.number ret) :: complaint "mpp destroy returned " ret⟩

/-- Unloading is logged under the usual name, whatever name was loaded. -/
def unload : Traced LibraryCall Unit := Traced.note .library ("unloading " ++ fileName)

def runtime (library : Library) : CodecRuntime Progress LibraryCall Context where
  create := library.create
  check := library.check
  init := library.init
  reset := library.reset
  destroy := library.destroy
  release := StateT.lift unload

def probe (library : Library) : Traced LibraryCall CodecSet := (library.runtime.probe).run' {}

end Library

structure SharedObject where
  exported : EntryPoint → Bool
  script : Script

abbrev Loader := String → Except LoadError SharedObject

namespace Loader

open Traced

/-- One NUL byte at the end of a name is dropped; no other one may occur. -/
def nameOf (name : String) : Except LoadError String :=
  let chars := name.toList
  let kept := if chars.getLast? = some '\x00' then chars.dropLast else chars
  if '\x00' ∈ kept then .error .nulInName else .ok (String.ofList kept)

def find (loader : Loader) (name : String) : Except LoadError (String × SharedObject) := do
  let file ← nameOf name
  return (file, ← loader file)

def load (loader : Loader) (name : String) : Traced LibraryCall (Except ProbeError Library) := do
  match loader.find name with
  | .error cause => return .error (.libraryNotLoaded cause)
  | .ok (file, object) =>
      note .library ("loaded " ++ name)
      match EntryPoint.all.find? fun entry => !object.exported entry with
      | some entry =>
          note .library s!"{file}: undefined symbol: {entry.symbol}"
          return .error (.symbolNotFound entry.symbol)
      | none => return .ok ⟨object.script⟩

def probe (loader : Loader) (name : String) : Traced LibraryCall (Except ProbeError CodecSet) := do
  match ← loader.load name with
  | .error error => return .error error
  | .ok library => Except.ok <$> library.probe

end Loader

end DecodeProbe
