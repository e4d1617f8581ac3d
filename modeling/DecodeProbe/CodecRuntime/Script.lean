import DecodeProbe.CodecRuntime.Recorded

/-!
# Scripted runtimes

A script lists the return codes of each kind of call.  The n-th call of a kind
returns the n-th code of its list and zero past the end.  A context is known by
the number of the call that created it.
-/

namespace DecodeProbe

inductive OperationTable where
  | complete
  | missing
  | withoutReset
  deriving DecidableEq, Repr

structure Script where
  create : List Int := []
  check : List Int := []
  init : List Int := []
  reset : List Int := []
  destroy : List Int := []
  table : OperationTable := .complete
  deriving DecidableEq, Repr

namespace Script

structure Progress where
  created : Nat := 0
  checked : Nat := 0
  initialised : Nat := 0
  resets : Nat := 0
  destroyed : Nat := 0
  deriving DecidableEq, Repr

def outcome {α : Type} (ret : Int) (value : α) : Except Int α :=
  if ret = 0 then .ok value else .error ret

/-- The runtime that fails exactly when a code is not zero. -/
def answers (script : Script) : RuntimeAnswers Progress Nat where
  create progress :=
    (outcome (script.create.getD progress.created 0) (progress.created + 1),
     { progress with created := progress.created + 1 })
  check _ progress :=
    (outcome (script.check.getD progress.checked 0) (),
     { progress with checked := progress.checked + 1 })
  init _ _ progress :=
    (outcome (script.init.getD progress.initialised 0) (),
     { progress with initialised := progress.initialised + 1 })

def probe (script : Script) : Traced (RuntimeCall Nat) CodecSet :=
  (script.answers.recorded.probe).run' {}

end Script

end DecodeProbe
