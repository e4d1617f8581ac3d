import DecodeProbe.Proofs.Sink

/-!
# Delivering a report to a faulty sink

Handing over a report ends after a number of writes that its length bounds.  What
the sink has taken by then, how the delivery ends and whether the sink was flushed
depend on its limit and its faults alone: portions and interruptions do not show,
and neither does the way in which a report is cut into pieces.
-/

namespace DecodeProbe

open DecodeProbe.Text.Utf8 (Bytes)

namespace Sink

variable {sink : Sink}

/-! ## How a delivery ends -/

/--
From this state, handing over the pieces and flushing ends so after so many
writes.  An interrupted write is made again, and one that fails or takes no byte
is the last.
-/
inductive Delivers (sink : Sink) :
    State → List Bytes → Nat → Except IoError Unit × State → Prop
  | flushed {state : State} : Delivers sink state [] 0 (sink.flush state)
  | empty {state : State} {rest : List Bytes} {writes : Nat}
      {result : Except IoError Unit × State} :
      Delivers sink state rest writes result → Delivers sink state ([] :: rest) writes result
  | interrupted {state later : State} {input : Bytes} {rest : List Bytes} {writes : Nat}
      {result : Except IoError Unit × State} :
      input ≠ [] → sink.write state input = (.interrupted, later) →
      Delivers sink later (input :: rest) writes result →
      Delivers sink state (input :: rest) (writes + 1) result
  | failed {state later : State} {input : Bytes} {rest : List Bytes} {errno : Errno} :
      input ≠ [] → sink.write state input = (.failed errno, later) →
      Delivers sink state (input :: rest) 1 (.error (.os errno), later)
  | tookNothing {state later : State} {input : Bytes} {rest : List Bytes} :
      input ≠ [] → sink.write state input = (.took 0, later) →
      Delivers sink state (input :: rest) 1 (.error .nothingWritten, later)
  | took {state later : State} {input : Bytes} {rest : List Bytes} {count writes : Nat}
      {result : Except IoError Unit × State} :
      input ≠ [] → sink.write state input = (.took (count + 1), later) →
      Delivers sink later (input.drop (count + 1) :: rest) writes result →
      Delivers sink state (input :: rest) (writes + 1) result

/-- What is left of a delivery, from a state and the pieces that are not handed over yet. -/
def deliverFrom (sink : Sink) (state : State) (pieces : List Bytes) :
    Except IoError Unit × State :=
  match sink.writePieces state pieces with
  | (.ok (), later) => sink.flush later
  | (.error cause, later) => (.error cause, later)

theorem deliver_eq_deliverFrom (sink : Sink) (pieces : List Bytes) :
    sink.deliver pieces = sink.deliverFrom {} pieces := rfl

section

variable {state later : State} {input : Bytes} {rest : List Bytes}

/-- What one write leaves to do. -/
theorem writeAll_eq (hinput : input ≠ []) :
    sink.writeAll state input =
      match sink.write state input with
      | (.interrupted, later) => sink.writeAll later input
      | (.failed errno, later) => (.error (.os errno), later)
      | (.took 0, later) => (.error .nothingWritten, later)
      | (.took (count + 1), later) => sink.writeAll later (input.drop (count + 1)) := by
  rw [writeAll.eq_def, dif_neg hinput]
  split <;> simp_all

theorem deliverFrom_empty : sink.deliverFrom state ([] :: rest) = sink.deliverFrom state rest := by
  simp [deliverFrom, writePieces, writeAll]

theorem deliverFrom_interrupted (hinput : input ≠ [])
    (hwrite : sink.write state input = (.interrupted, later)) :
    sink.deliverFrom state (input :: rest) = sink.deliverFrom later (input :: rest) := by
  have hagain : sink.writeAll state input = sink.writeAll later input := by
    rw [writeAll_eq hinput, hwrite]
  simp only [deliverFrom, writePieces, hagain]

theorem deliverFrom_failed {errno : Errno} (hinput : input ≠ [])
    (hwrite : sink.write state input = (.failed errno, later)) :
    sink.deliverFrom state (input :: rest) = (.error (.os errno), later) := by
  simp only [deliverFrom, writePieces, writeAll_eq hinput, hwrite]

theorem deliverFrom_tookNothing (hinput : input ≠ [])
    (hwrite : sink.write state input = (.took 0, later)) :
    sink.deliverFrom state (input :: rest) = (.error .nothingWritten, later) := by
  simp only [deliverFrom, writePieces, writeAll_eq hinput, hwrite]

theorem deliverFrom_took {count : Nat} (hinput : input ≠ [])
    (hwrite : sink.write state input = (.took (count + 1), later)) :
    sink.deliverFrom state (input :: rest) =
      sink.deliverFrom later (input.drop (count + 1) :: rest) := by
  simp only [deliverFrom, writePieces, writeAll_eq hinput, hwrite]

end

/--
The writes that may still be made: two for each byte, since a write that takes one
may be interrupted once, and two for a last write that fails.
-/
def writesLeft (state : State) (pieces : List Bytes) : Nat :=
  2 * pieces.flatten.length + state.interruptNext.toNat + 1

theorem delivers_cons {rest : List Bytes}
    (hrest : ∀ state, ∃ writes ≤ writesLeft state rest,
      sink.Delivers state rest writes (sink.deliverFrom state rest))
    (state : State) (input : Bytes) :
    ∃ writes ≤ writesLeft state (input :: rest),
      sink.Delivers state (input :: rest) writes (sink.deliverFrom state (input :: rest)) := by
  fun_induction sink.writeAll state input with
  | case1 state =>
      obtain ⟨writes, hle, hdelivers⟩ := hrest state
      rw [deliverFrom_empty]
      exact ⟨writes, hle, .empty hdelivers⟩
  | case2 state input hinput later hwrite ih =>
      obtain ⟨writes, hle, hdelivers⟩ := ih
      obtain ⟨hnext, rfl⟩ := write_interrupted hwrite
      rw [deliverFrom_interrupted hinput hwrite]
      refine ⟨writes + 1, ?_, .interrupted hinput hwrite hdelivers⟩
      simp only [writesLeft, hnext, Bool.toNat_true, Bool.toNat_false] at hle ⊢
      omega
  | case3 state input hinput errno later hwrite =>
      rw [deliverFrom_failed hinput hwrite]
      exact ⟨1, Nat.le_add_left _ _, .failed hinput hwrite⟩
  | case4 state input hinput later hwrite =>
      rw [deliverFrom_tookNothing hinput hwrite]
      exact ⟨1, Nat.le_add_left _ _, .tookNothing hinput hwrite⟩
  | case5 state input hinput count later hwrite ih =>
      obtain ⟨writes, hle, hdelivers⟩ := ih
      rw [deliverFrom_took hinput hwrite]
      refine ⟨writes + 1, ?_, .took hinput hwrite hdelivers⟩
      have hlength := List.length_pos_iff.mpr hinput
      have hnext := Bool.toNat_lt later.interruptNext
      simp only [writesLeft, List.flatten_cons, List.length_append, List.length_drop] at hle ⊢
      omega

theorem delivers_deliverFrom (sink : Sink) (state : State) (pieces : List Bytes) :
    ∃ writes ≤ writesLeft state pieces,
      sink.Delivers state pieces writes (sink.deliverFrom state pieces) := by
  induction pieces generalizing state with
  | nil => exact ⟨0, Nat.zero_le _, .flushed⟩
  | cons input rest ih => exact delivers_cons ih state input

/-! ## What the limit leaves room for -/

/-- The bytes do not all fit. -/
def Overflows (sink : Sink) (input : Bytes) : Prop :=
  ∃ limit, sink.limit = some limit ∧ limit < input.length

/-- How the sink fails once it is full. -/
def failure (sink : Sink) : IoError :=
  match sink.fault with
  | some fault => .os fault.errno
  | none => .nothingWritten

def flushAnswer (sink : Sink) : Except IoError Unit :=
  match sink.flushFault with
  | some errno => .error (.os errno)
  | none => .ok ()

/-- The first bytes, as many as fit. -/
def fitting (sink : Sink) (input : Bytes) : Bytes :=
  match sink.limit with
  | some limit => input.take limit
  | none => input

theorem accepted_eq_fitting (hchunk : sink.chunk ≠ some 0) (input : Bytes) :
    sink.accepted 0 input = sink.fitting input := by
  rw [accepted, room_of_chunk_ne_zero hchunk, fitting]
  cases sink.limit <;> rfl

theorem fitting_eq_self_iff (sink : Sink) (input : Bytes) :
    sink.fitting input = input ↔ ¬ sink.Overflows input := by
  cases hlimit : sink.limit with
  | none => simp [fitting, Overflows, hlimit]
  | some limit =>
      have hfits : input.take limit = input ↔ input.length ≤ limit := by
        constructor
        · intro htake
          rw [← htake]
          exact List.length_take_le _ _
        · exact List.take_of_length_le
      simp [fitting, Overflows, hlimit, hfits]

/-- A sink that took all that fits of more is full. -/
theorem overflow_eq_failure {state : State} {input : Bytes} (hoverflows : sink.Overflows input)
    (htaken : state.taken = sink.fitting input) : sink.overflow state = sink.failure := by
  obtain ⟨limit, hlimit, hlt⟩ := hoverflows
  have hfull : sink.isFull state = true := by
    simp only [isFull, hlimit, htaken, fitting, List.length_take, decide_eq_true_eq]
    omega
  rw [overflow, failure, hfull]
  cases sink.fault <;> rfl

/-- Two sinks that may differ in their portions and their interruptions only. -/
structure Alike (sink other : Sink) : Prop where
  limit : other.limit = sink.limit
  fault : other.fault = sink.fault
  flushFault : other.flushFault = sink.flushFault

namespace Alike

variable {other : Sink}

theorem overflows_iff (halike : sink.Alike other) (input : Bytes) :
    other.Overflows input ↔ sink.Overflows input := by
  rw [Overflows, Overflows, halike.limit]

theorem fitting_eq (halike : sink.Alike other) (input : Bytes) :
    other.fitting input = sink.fitting input := by
  rw [fitting, fitting, halike.limit]

theorem failure_eq (halike : sink.Alike other) : other.failure = sink.failure := by
  rw [failure, failure, halike.fault]

theorem flushAnswer_eq (halike : sink.Alike other) : other.flushAnswer = sink.flushAnswer := by
  rw [flushAnswer, flushAnswer, halike.flushFault]

end Alike

end Sink

namespace Report

open Sink (Overflows)

variable {sink : Sink}

theorem taken_flush (hchunk : sink.chunk ≠ some 0) (report : Report) (format : OutputFormat) :
    (report.flush format sink).2.taken = sink.fitting (report.bytes format) := by
  rw [(report.delivered_flush format sink).taken, Sink.accepted_eq_fitting hchunk]

theorem flush_of_overflows (hchunk : sink.chunk ≠ some 0) {report : Report}
    {format : OutputFormat} (hoverflows : sink.Overflows (report.bytes format)) :
    (report.flush format sink).1 = .error sink.failure ∧
      (report.flush format sink).2.flushes = 0 := by
  have hdelivered := report.delivered_flush format sink
  have hrest : sink.accepted 0 (report.bytes format) ≠ report.bytes format := by
    rw [Sink.accepted_eq_fitting hchunk]
    exact fun heq => (sink.fitting_eq_self_iff _).mp heq hoverflows
  rw [hdelivered.outcome, hdelivered.flushes, if_neg hrest, if_neg hrest,
    Sink.overflow_eq_failure hoverflows (taken_flush hchunk report format)]
  exact ⟨rfl, rfl⟩

theorem flush_of_fits (hchunk : sink.chunk ≠ some 0) {report : Report} {format : OutputFormat}
    (hfits : ¬ sink.Overflows (report.bytes format)) :
    (report.flush format sink).2.taken = report.bytes format ∧
      (report.flush format sink).2.flushes = 1 ∧
      (report.flush format sink).1 = sink.flushAnswer := by
  have hdelivered := report.delivered_flush format sink
  have hall : sink.accepted 0 (report.bytes format) = report.bytes format := by
    rw [Sink.accepted_eq_fitting hchunk, Sink.fitting_eq_self_iff]
    exact hfits
  rw [hdelivered.taken, hdelivered.flushes, hdelivered.outcome, if_pos hall, if_pos hall,
    Sink.flushAnswer]
  refine ⟨hall, rfl, ?_⟩
  cases sink.flushFault <;> rfl

/-- Two writes for each byte and two more are enough. -/
theorem delivers_flush (report : Report) (format : OutputFormat) (sink : Sink) :
    ∃ writes ≤ 2 * (report.bytes format).length + 2,
      sink.Delivers {} ((report.pieces format).map Text.Utf8.encode) writes
        (report.flush format sink) := by
  obtain ⟨writes, hle, hdelivers⟩ :=
    sink.delivers_deliverFrom {} ((report.pieces format).map Text.Utf8.encode)
  rw [Sink.writesLeft, Text.Utf8.flatten_map_encode] at hle
  rw [← Sink.deliver_eq_deliverFrom] at hdelivers
  exact ⟨writes, hle, hdelivers⟩

theorem flush_of_alike (hchunk : sink.chunk ≠ some 0) {other : Sink}
    (hother : other.chunk ≠ some 0) (halike : sink.Alike other) (report : Report)
    (format : OutputFormat) :
    let result := report.flush format sink
    let result' := report.flush format other
    result'.1 = result.1 ∧ result'.2.taken = result.2.taken ∧
      result'.2.flushes = result.2.flushes := by
  intro result result'
  have htaken : result'.2.taken = result.2.taken := by
    rw [taken_flush hother, taken_flush hchunk, halike.fitting_eq]
  by_cases hoverflows : sink.Overflows (report.bytes format)
  · have hfull := flush_of_overflows hchunk hoverflows
    have hfull' := flush_of_overflows hother ((halike.overflows_iff _).mpr hoverflows)
    rw [halike.failure_eq] at hfull'
    exact ⟨hfull'.1.trans hfull.1.symm, htaken, hfull'.2.trans hfull.2.symm⟩
  · have hfits := flush_of_fits hchunk hoverflows
    have hfits' := flush_of_fits hother (mt (halike.overflows_iff _).mp hoverflows)
    rw [halike.flushAnswer_eq] at hfits'
    exact ⟨hfits'.2.2.trans hfits.2.2.symm, htaken, hfits'.2.1.trans hfits.2.1.symm⟩

/--
A flush loses nothing silently.  It ends; the sink has then taken the first bytes of
the rendering, as many as fit.  If some do not, it fails as the full sink fails and
flushes nothing; otherwise it flushes once and answers as that flush does.  Neither
the portions nor the interruptions change any of this.
-/
theorem flush_takes_what_fits (hchunk : sink.chunk ≠ some 0) (report : Report)
    (format : OutputFormat) :
    let whole := report.bytes format
    let result := report.flush format sink
    (∃ writes ≤ 2 * whole.length + 2,
      sink.Delivers {} ((report.pieces format).map Text.Utf8.encode) writes result) ∧
    result.2.taken = sink.fitting whole ∧
    (sink.Overflows whole ↔ result.1 = .error sink.failure ∧ result.2.flushes = 0) ∧
    (¬ sink.Overflows whole →
      result.2.taken = whole ∧ result.2.flushes = 1 ∧ result.1 = sink.flushAnswer) ∧
    ∀ other : Sink, other.chunk ≠ some 0 → sink.Alike other →
      let result' := report.flush format other
      result'.1 = result.1 ∧ result'.2.taken = result.2.taken ∧
        result'.2.flushes = result.2.flushes := by
  intro whole result
  refine ⟨report.delivers_flush format sink, taken_flush hchunk report format, ⟨?full, ?unflushed⟩,
    flush_of_fits hchunk, ?alike⟩
  case full => exact flush_of_overflows hchunk
  case unflushed =>
    rintro ⟨-, hflushes⟩
    by_contra hfits
    have hone := (flush_of_fits hchunk hfits).2.1
    rw [hflushes] at hone
    cases hone
  case alike => exact fun other hother halike => flush_of_alike hchunk hother halike report format

/-- The last byte that fits is the first half of a letter. -/
theorem flush_takes_what_fits_in_portions :
    let report : Report := ⟨[("K", "é")]⟩
    let plain : Sink := { limit := some 3, fault := some .noSpace }
    let sink : Sink := { plain with chunk := some 2, interrupts := true }
    let result := report.flush .lines sink
    sink.chunk ≠ some 0 ∧ result.2.taken = [0x4B, 0x0A, 0xC3] ∧
      result.1 = .error (.os .noSpace) ∧ result.2.flushes = 0 ∧
      (report.flush .lines plain).2.taken = result.2.taken := by
  intro report plain sink result
  have hchunk : sink.chunk ≠ some 0 := by decide
  obtain ⟨-, htaken, hoverflows, -, halike⟩ := flush_takes_what_fits hchunk report .lines
  have hrest : sink.Overflows (report.bytes .lines) := ⟨3, rfl, by decide⟩
  obtain ⟨herror, hflushes⟩ := hoverflows.mp hrest
  refine ⟨hchunk, ?_, herror, hflushes, ?_⟩
  · rw [htaken]
    decide
  · exact (halike plain (by decide) ⟨rfl, rfl, rfl⟩).2.1

end Report

end DecodeProbe
