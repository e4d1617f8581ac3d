import DecodeProbe.Sink

/-!
# Standard output

Standard output is a descriptor behind a buffer.  Whole lines are handed on to the
descriptor at once, a line that is not finished waits until it is, until the buffer is
full or until somebody flushes.  A descriptor that is not open for writing counts as
written to, so a program without a standard output runs on, and nobody hears that the
bytes are lost.  The descriptor itself has nothing to flush.
-/

namespace DecodeProbe

open DecodeProbe.Text.Utf8 (Bytes)

/-- How writing fails when the buffer takes the place of the text. -/
def IoError.ofBuffer : IoError → IoError
  | .nothingWritten => .bufferNotWritten
  | cause => cause

structure Stdout where
  descriptor : Sink
  deriving DecidableEq, Repr

namespace Stdout

def writable : Stdout := ⟨{}⟩

def full : Stdout := ⟨{ limit := some 0, fault := some .noSpace }⟩

/-- Open for reading only, or not at all. -/
def closed : Stdout := ⟨{ limit := some 0, fault := some .badDescriptor }⟩

def capacity : Nat := 1024

structure State where
  descriptor : Sink.State := {}
  buffered : Bytes := []
  deriving DecidableEq, Repr

abbrev Writing := ExceptT IoError (StateM State)

/-- A bad descriptor is no reason to fail. -/
def excused : Except IoError Unit → Except IoError Unit
  | .ok () => .ok ()
  | .error cause => if cause = .os .badDescriptor then .ok () else .error cause

/-- Writes to the descriptor. -/
def forward (stdout : Stdout) (state : Sink.State) (input : Bytes) :
    Except IoError Unit × Sink.State :=
  let (result, later) := stdout.descriptor.writeAll state input
  (excused result, later)

/-- Hands bytes on past the buffer. -/
def pass (stdout : Stdout) (input : Bytes) : Writing Unit := fun state =>
  let (result, later) := stdout.forward state.descriptor input
  (result, { state with descriptor := later })

/-- Empties the buffer.  What the descriptor did not take before it failed stays. -/
def drain (stdout : Stdout) : Writing Unit := fun state =>
  match stdout.forward state.descriptor state.buffered with
  | (.ok (), later) => (.ok (), ⟨later, []⟩)
  | (.error cause, later) =>
      let count := later.taken.length - state.descriptor.taken.length
      (.error cause.ofBuffer, ⟨later, state.buffered.drop count⟩)

def keep (input : Bytes) : Writing Unit := fun state =>
  (.ok (), { state with buffered := state.buffered ++ input })

def makeRoom (stdout : Stdout) (count : Nat) : Writing Unit := fun state =>
  if capacity - state.buffered.length < count then stdout.drain state else (.ok (), state)

/-- Bytes that would fill the whole buffer go past it. -/
def buffer (stdout : Stdout) (input : Bytes) : Writing Unit := do
  stdout.makeRoom input.length
  if capacity ≤ input.length then stdout.pass input else keep input

/--
Lines are handed on, with what the buffer holds before them.  Without a line to write,
one that is finished but still in the buffer leaves it before anything follows.
-/
def writeLines (stdout : Stdout) (lines : Bytes) : Writing Unit := fun state =>
  if lines = [] then
    if state.buffered.getLast? = some 0x0A then stdout.drain state else (.ok (), state)
  else if state.buffered = [] then stdout.pass lines state
  else (do stdout.buffer lines; stdout.drain : Writing Unit) state

/-- The bytes up to the last line break. -/
def finished (input : Bytes) : Bytes := (input.reverse.dropWhile (· ≠ 0x0A)).reverse

/-- The bytes after the last line break. -/
def unfinished (input : Bytes) : Bytes := (input.reverse.takeWhile (· ≠ 0x0A)).reverse

def write (stdout : Stdout) (input : Bytes) : Writing Unit := do
  stdout.writeLines (finished input)
  stdout.buffer (unfinished input)

def writePieces (stdout : Stdout) : List Bytes → Writing Unit
  | [] => pure ()
  | piece :: rest => do
      stdout.write piece
      stdout.writePieces rest

def started (writing : Writing Unit) : Except IoError Unit × State :=
  StateT.run (ExceptT.run writing) {}

/-- What the descriptor has got once the program ends, which empties the buffer a last time. -/
def atExit (stdout : Stdout) (state : State) : Bytes := (stdout.drain.run state).2.descriptor.taken

end Stdout

/-- Writes the report and flushes. -/
def Report.print (report : Report) (format : OutputFormat) (stdout : Stdout) :
    Except IoError Unit × Stdout.State :=
  Stdout.started do
    stdout.writePieces ((report.pieces format).map Text.Utf8.encode)
    stdout.drain

end DecodeProbe
