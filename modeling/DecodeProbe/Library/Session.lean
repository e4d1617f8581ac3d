import DecodeProbe.Library

/-!
# Sessions on a loaded library

Single operations on a loaded library.  Each context that is made fills the next
slot, later steps name contexts by slot, and destroying empties the slot.  A
step on a slot that holds nothing makes no call.
-/

namespace DecodeProbe.Library

open Script (Progress)

inductive Step where
  | create
  | check (codec : Codec)
  | init (slot : Nat) (codec : Codec)
  | reset (slot : Nat)
  | destroy (slot : Nat)
  deriving DecidableEq, Repr

inductive Answer where
  | succeeded
  | failed (ret : Int)
  | done
  | missing
  deriving DecidableEq, Repr

def Answer.ofResult {α : Type} : Except Int α → Answer
  | .ok _ => .succeeded
  | .error ret => .failed ret

structure Session where
  slots : List (Option Context) := []
  progress : Progress := {}
  deriving DecidableEq, Repr

namespace Session

def holding (session : Session) (slot : Nat) : Option Context := (session.slots[slot]?).join

end Session

def within {α : Type} (operation : Stateful Progress LibraryCall α) :
    Stateful Session LibraryCall α := fun session => do
  let (answer, progress) ← operation session.progress
  return (answer, { session with progress := progress })

def withSlot (slot : Nat) (use : Context → Stateful Session LibraryCall Answer) :
    Stateful Session LibraryCall Answer := do
  match (← get).holding slot with
  | none => return .missing
  | some context => use context

def perform (library : Library) : Step → Stateful Session LibraryCall Answer
  | .create => do
      let made ← within library.create
      if let .ok context := made then
        modify fun session => { session with slots := session.slots ++ [some context] }
      return .ofResult made
  | .check codec => return .ofResult (← within (library.check codec))
  | .init slot codec =>
      withSlot slot fun context => return .ofResult (← within (library.init context codec))
  | .reset slot =>
      withSlot slot fun context => do
        within (library.reset context)
        return .done
  | .destroy slot =>
      withSlot slot fun context => do
        modify fun session => { session with slots := session.slots.set slot none }
        within (library.destroy context)
        return .done

def performAll (library : Library) : Session → List Step → List (Traced LibraryCall Answer)
  | _, [] => []
  | session, step :: steps =>
      let run := (library.perform step).run session
      ⟨run.value.1, run.events⟩ :: library.performAll run.value.2 steps

inductive Stage where
  | refused (error : ProbeError)
  | loaded
  | answered (answer : Answer)
  | unloaded
  deriving DecidableEq, Repr

def session (loader : Loader) (name : String) (steps : List Step) :
    List (Traced LibraryCall Stage) :=
  let loading := loader.load name
  match loading.value with
  | .error error => [⟨.refused error, loading.events⟩]
  | .ok library =>
      ⟨.loaded, loading.events⟩ ::
        (library.performAll {} steps).map (fun run => Stage.answered <$> run) ++
        [(fun () => Stage.unloaded) <$> unload]

end DecodeProbe.Library
