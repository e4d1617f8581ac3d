import DecodeProbe.IoError
import DecodeProbe.Report

/-!
# Writing to a sink that may fail

A sink takes bytes in portions, may be interrupted now and then, may run full
and may fail to flush.  A report is written piece by piece; an interrupted write
is repeated, and any other failure ends the writing.
-/

namespace DecodeProbe

open DecodeProbe.Text.Utf8 (Bytes)

/-- How a full sink fails.  An interruption is no way to: the write would be made for ever. -/
structure Sink.Fault where
  errno : Errno
  lasting : errno ≠ .interrupted
  deriving DecidableEq, Repr

namespace Sink.Fault

def noSpace : Fault := ⟨.noSpace, by decide⟩
def badDescriptor : Fault := ⟨.badDescriptor, by decide⟩

def ofErrno? (errno : Errno) : Option Fault :=
  if hlasting : errno ≠ .interrupted then some ⟨errno, hlasting⟩ else none

/-- A sink that may only be interrupted has no fault. -/
instance : Coe (Option Errno) (Option Fault) := ⟨fun errno? => errno?.bind ofErrno?⟩

end Sink.Fault

structure Sink where
  /-- The most bytes that one write takes. -/
  chunk : Option Nat := none
  /-- Every other write is interrupted. -/
  interrupts : Bool := false
  /-- The most bytes that are taken in all. -/
  limit : Option Nat := none
  /-- How a full sink fails; without a fault it takes no byte. -/
  fault : Option Sink.Fault := none
  flushFault : Option Errno := none
  deriving DecidableEq, Repr

namespace Sink

/-- What a sink has taken, how often it was flushed, and whether the next write is interrupted. -/
structure State where
  taken : Bytes := []
  flushes : Nat := 0
  interruptNext : Bool := true
  deriving DecidableEq, Repr

inductive Written where
  | interrupted
  | failed (errno : Errno)
  | took (count : Nat)
  deriving DecidableEq, Repr

def portion (sink : Sink) (state : State) (input : Bytes) : Nat :=
  let wanted := min input.length (sink.chunk.getD input.length)
  match sink.limit with
  | none => wanted
  | some limit => min wanted (limit - state.taken.length)

def isFull (sink : Sink) (state : State) : Bool :=
  match sink.limit with
  | none => false
  | some limit => limit ≤ state.taken.length

def write (sink : Sink) (state : State) (input : Bytes) : Written × State :=
  if sink.interrupts && state.interruptNext then
    (.interrupted, { state with interruptNext := false })
  else
    match sink.isFull state, sink.fault with
    | true, some fault => (.failed fault.errno, { state with interruptNext := true })
    | _, _ =>
        let count := sink.portion state input
        (.took count,
          { state with taken := state.taken ++ input.take count, interruptNext := true })

theorem write_interrupted {sink : Sink} {state later : State} {input : Bytes}
    (hwrite : sink.write state input = (.interrupted, later)) :
    state.interruptNext = true ∧ later = { state with interruptNext := false } := by
  unfold write at hwrite
  split at hwrite
  · simp_all
  · split at hwrite <;> simp at hwrite

/-- Writes until everything is taken; an interrupted write is repeated. -/
def writeAll (sink : Sink) (state : State) (input : Bytes) : Except IoError Unit × State :=
  if _hinput : input = [] then (.ok (), state)
  else
    match _hwrite : sink.write state input with
    | (.interrupted, later) => sink.writeAll later input
    | (.failed errno, later) => (.error (.os errno), later)
    | (.took 0, later) => (.error .nothingWritten, later)
    | (.took (count + 1), later) => sink.writeAll later (input.drop (count + 1))
termination_by 2 * input.length + state.interruptNext.toNat
decreasing_by
  · obtain ⟨hnext, rfl⟩ := write_interrupted _hwrite
    simp [hnext]
  · have hlength := List.length_pos_iff.mpr _hinput
    have hnext := Bool.toNat_lt later.interruptNext
    simp only [List.length_drop]
    omega

def writePieces (sink : Sink) : State → List Bytes → Except IoError Unit × State
  | state, [] => (.ok (), state)
  | state, piece :: rest =>
      match sink.writeAll state piece with
      | (.ok (), later) => sink.writePieces later rest
      | (.error cause, later) => (.error cause, later)

def flush (sink : Sink) (state : State) : Except IoError Unit × State :=
  let later := { state with flushes := state.flushes + 1 }
  match sink.flushFault with
  | none => (.ok (), later)
  | some errno => (.error (.os errno), later)

/-- Writes the pieces and flushes once if all of them were taken. -/
def deliver (sink : Sink) (pieces : List Bytes) : Except IoError Unit × State :=
  match sink.writePieces {} pieces with
  | (.ok (), state) => sink.flush state
  | (.error cause, state) => (.error cause, state)

end Sink

def Report.flush (report : Report) (format : OutputFormat) (sink : Sink) :
    Except IoError Unit × Sink.State :=
  sink.deliver ((report.pieces format).map Text.Utf8.encode)

end DecodeProbe
