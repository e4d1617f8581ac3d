import DecodeProbe.Sink
import Mathlib.Data.List.Basic

/-!
# What a sink takes

Portions and interruptions do not show: a sink takes as much of what it is given
as its limit leaves room for, and writing fails exactly when something is left
over.
-/

namespace DecodeProbe

open DecodeProbe.Text.Utf8 (Bytes)

namespace Sink

variable {sink : Sink}

/-! ## The bytes that there is room for -/

/-- The most bytes that are taken in all; without one a sink never runs full. -/
def room (sink : Sink) : Option Nat :=
  if sink.chunk = some 0 then some 0 else sink.limit

/-- What is taken of some bytes after `taken` others. -/
def accepted (sink : Sink) (taken : Nat) (input : Bytes) : Bytes :=
  match sink.room with
  | none => input
  | some room => input.take (room - taken)

/-- How writing fails in a state without room. -/
def overflow (sink : Sink) (state : State) : IoError :=
  match sink.isFull state, sink.fault with
  | true, some fault => .os fault.errno
  | _, _ => .nothingWritten

theorem room_of_chunk_eq_zero (hchunk : sink.chunk = some 0) : sink.room = some 0 := by
  rw [room, if_pos hchunk]

theorem room_of_chunk_ne_zero (hchunk : sink.chunk ≠ some 0) : sink.room = sink.limit := by
  rw [room, if_neg hchunk]

theorem accepted_of_endless (hroom : sink.room = none) (taken : Nat) (input : Bytes) :
    sink.accepted taken input = input := by
  simp [accepted, hroom]

theorem accepted_of_room {room : Nat} (hroom : sink.room = some room) (taken : Nat)
    (input : Bytes) : sink.accepted taken input = input.take (room - taken) := by
  simp [accepted, hroom]

theorem accepted_eq_nil {room taken : Nat} (hroom : sink.room = some room) (hle : room ≤ taken)
    (input : Bytes) : sink.accepted taken input = [] := by
  rw [accepted_of_room hroom, Nat.sub_eq_zero_of_le hle, List.take_zero]

@[simp] theorem accepted_nil (taken : Nat) : sink.accepted taken [] = [] := by
  cases hroom : sink.room with
  | none => exact accepted_of_endless hroom taken []
  | some room => rw [accepted_of_room hroom, List.take_nil]

theorem accepted_singleton (taken : Nat) (byte : UInt8) :
    sink.accepted taken [byte] = [] ∨ sink.accepted taken [byte] = [byte] := by
  cases hroom : sink.room with
  | none => exact .inr (accepted_of_endless hroom taken [byte])
  | some room =>
      rw [accepted_of_room hroom]
      cases room - taken with
      | zero => exact .inl rfl
      | succ left => exact .inr (congrArg (byte :: ·) List.take_nil)

theorem accepted_append (sink : Sink) (taken : Nat) (first second : Bytes) :
    sink.accepted taken (first ++ second) =
      sink.accepted taken first ++ sink.accepted (taken + first.length) second := by
  cases hroom : sink.room with
  | none => simp [accepted_of_endless hroom]
  | some room => simp [accepted_of_room hroom, List.take_append, Nat.sub_add_eq]

/-- After bytes that did not all fit nothing more does. -/
theorem accepted_of_rest {taken : Nat} {first : Bytes} (second : Bytes)
    (hrest : sink.accepted taken first ≠ first) :
    sink.accepted (taken + first.length) second = [] := by
  cases hroom : sink.room with
  | none => exact absurd (accepted_of_endless hroom taken first) hrest
  | some room =>
      have hlt : room - taken < first.length := by
        by_contra hle
        apply hrest
        rw [accepted_of_room hroom, List.take_of_length_le (by omega)]
      exact accepted_eq_nil hroom (by omega) second

theorem length_accepted_le (sink : Sink) (taken : Nat) (input : Bytes) :
    (sink.accepted taken input).length ≤ input.length := by
  cases hroom : sink.room with
  | none => simp [accepted_of_endless hroom]
  | some room =>
      rw [accepted_of_room hroom]
      exact List.length_take_le' _ _

theorem accepted_append_eq_iff (sink : Sink) (taken : Nat) (first second : Bytes) :
    sink.accepted taken (first ++ second) = first ++ second ↔
      sink.accepted taken first = first ∧
        sink.accepted (taken + first.length) second = second := by
  rw [accepted_append]
  constructor
  · intro heq
    -- neither part can grow, so both have kept their length
    have hlength := congrArg List.length heq
    simp only [List.length_append] at hlength
    have hfirst := sink.length_accepted_le taken first
    have hsecond := sink.length_accepted_le (taken + first.length) second
    exact List.append_inj heq (by omega)
  · rintro ⟨hfirst, hsecond⟩
    rw [hfirst, hsecond]

/-! ## One write -/

theorem write_cases {state later : State} {input : Bytes} {written : Written}
    (hwrite : sink.write state input = (written, later)) :
    (written = .interrupted ∧ later = { state with interruptNext := false }) ∨
    (∃ fault, sink.isFull state = true ∧ sink.fault = some fault ∧
      written = .failed fault.errno ∧ later = { state with interruptNext := true }) ∨
    ((sink.isFull state = true → sink.fault = none) ∧
      written = .took (sink.portion state input) ∧
      later =
        { state with
          taken := state.taken ++ input.take (sink.portion state input)
          interruptNext := true }) := by
  unfold write at hwrite
  split at hwrite
  · cases hwrite
    exact .inl ⟨rfl, rfl⟩
  · cases hfull : sink.isFull state <;> cases hfault : sink.fault <;>
      simp_all

theorem accepted_take_portion (sink : Sink) (state : State) (input : Bytes) :
    sink.accepted state.taken.length (input.take (sink.portion state input)) =
      input.take (sink.portion state input) := by
  by_cases hchunk : sink.chunk = some 0
  · have hzero : sink.portion state input = 0 := by
      cases hlimit : sink.limit <;> simp [portion, hchunk, hlimit]
    rw [hzero, List.take_zero, accepted_nil]
  · have hroom := room_of_chunk_ne_zero hchunk
    cases hlimit : sink.limit with
    | none => exact accepted_of_endless (hroom.trans hlimit) _ _
    | some limit =>
        rw [accepted_of_room (hroom.trans hlimit), List.take_take]
        congr 1
        simp only [portion, hlimit]
        omega

/-- A write that takes no byte of some has no room for any. -/
theorem accepted_of_portion_eq_zero {state : State} {input : Bytes} (hinput : input ≠ [])
    (hzero : sink.portion state input = 0) : sink.accepted state.taken.length input = [] := by
  by_cases hchunk : sink.chunk = some 0
  · exact accepted_eq_nil (room_of_chunk_eq_zero hchunk) (Nat.zero_le _) input
  · have hroom := room_of_chunk_ne_zero hchunk
    have hlength := List.length_pos_iff.mpr hinput
    have hwanted : 0 < min input.length (sink.chunk.getD input.length) := by
      cases hcount : sink.chunk with
      | none => simpa using hlength
      | some count =>
          have hpos : count ≠ 0 := by
            rintro rfl
            exact hchunk hcount
          simp only [Option.getD_some]
          omega
    cases hlimit : sink.limit with
    | none =>
        simp only [portion, hlimit] at hzero
        omega
    | some limit =>
        simp only [portion, hlimit] at hzero
        exact accepted_eq_nil (hroom.trans hlimit) (by omega) input

theorem accepted_of_isFull {state : State} (hfull : sink.isFull state = true) (input : Bytes) :
    sink.accepted state.taken.length input = [] := by
  by_cases hchunk : sink.chunk = some 0
  · exact accepted_eq_nil (room_of_chunk_eq_zero hchunk) (Nat.zero_le _) input
  · have hroom := room_of_chunk_ne_zero hchunk
    unfold isFull at hfull
    cases hlimit : sink.limit with
    | none => simp [hlimit] at hfull
    | some limit => exact accepted_eq_nil (hroom.trans hlimit) (by simpa [hlimit] using hfull) input

/-! ## Writing everything -/

/-- What writing some bytes from a state comes to. -/
structure Wrote (sink : Sink) (state : State) (input : Bytes)
    (result : Except IoError Unit × State) : Prop where
  taken : result.2.taken = state.taken ++ sink.accepted state.taken.length input
  flushes : result.2.flushes = state.flushes
  outcome : result.1 =
    if sink.accepted state.taken.length input = input then .ok ()
    else .error (sink.overflow result.2)

/-- Writing that goes on after a part was taken has written the part and the rest. -/
theorem Wrote.append {state later : State} {part rest : Bytes}
    {result : Except IoError Unit × State}
    (hrest : sink.Wrote later rest result) (htaken : later.taken = state.taken ++ part)
    (hflushes : later.flushes = state.flushes)
    (hpart : sink.accepted state.taken.length part = part) :
    sink.Wrote state (part ++ rest) result := by
  have hlength : later.taken.length = state.taken.length + part.length := by simp [htaken]
  refine ⟨?_, hrest.flushes.trans hflushes, ?_⟩
  · rw [hrest.taken, hlength, htaken, accepted_append, hpart, List.append_assoc]
  · rw [hrest.outcome, hlength]
    simp [accepted_append_eq_iff, hpart]

theorem Wrote.stopped {state later : State} {input : Bytes} {cause : IoError} (hinput : input ≠ [])
    (hnone : sink.accepted state.taken.length input = []) (htaken : later.taken = state.taken)
    (hflushes : later.flushes = state.flushes) (hcause : cause = sink.overflow later) :
    sink.Wrote state input (.error cause, later) := by
  refine ⟨?_, hflushes, ?_⟩
  · rw [hnone, List.append_nil, htaken]
  · rw [hnone, if_neg hinput.symm, hcause]

theorem overflow_of_isFull {state : State} {fault : Fault} (hfull : sink.isFull state = true)
    (hfault : sink.fault = some fault) : sink.overflow state = .os fault.errno := by
  rw [overflow, hfull, hfault]

theorem overflow_of_no_fault {state : State}
    (hfault : sink.isFull state = true → sink.fault = none) :
    sink.overflow state = .nothingWritten := by
  unfold overflow
  cases hfull : sink.isFull state with
  | false => rfl
  | true => rw [hfault hfull]

theorem isFull_congr {state later : State} (htaken : later.taken = state.taken) :
    sink.isFull later = sink.isFull state := by
  rw [isFull, isFull, htaken]

theorem wrote_writeAll (sink : Sink) (state : State) (input : Bytes) :
    sink.Wrote state input (sink.writeAll state input) := by
  fun_induction sink.writeAll state input with
  | case1 state => exact ⟨by simp, rfl, by simp⟩
  | case2 state input hinput later hwrite ih =>
      obtain ⟨-, rfl⟩ | ⟨_, _, _, heq, _⟩ | ⟨_, heq, _⟩ := write_cases hwrite
      · exact ⟨ih.taken, ih.flushes, ih.outcome⟩
      · cases heq
      · cases heq
  | case3 state input hinput errno later hwrite =>
      obtain ⟨heq, _⟩ | ⟨_, hfull, hfault, heq, rfl⟩ | ⟨_, heq, _⟩ := write_cases hwrite
      · cases heq
      · cases heq
        refine Wrote.stopped hinput (accepted_of_isFull hfull input) ?_ ?_ ?_
        · rfl
        · rfl
        · exact (overflow_of_isFull ((isFull_congr rfl).trans hfull) hfault).symm
      · cases heq
  | case4 state input hinput later hwrite =>
      obtain ⟨heq, _⟩ | ⟨_, _, _, heq, _⟩ | ⟨hfault, heq, rfl⟩ := write_cases hwrite
      · cases heq
      · cases heq
      · simp only [Written.took.injEq] at heq
        have htaken : state.taken ++ input.take (sink.portion state input) = state.taken := by
          simp [← heq]
        refine Wrote.stopped hinput (accepted_of_portion_eq_zero hinput heq.symm) htaken ?_ ?_
        · rfl
        · -- a full sink that can fail fails, so this one is not full or cannot
          apply Eq.symm
          apply overflow_of_no_fault
          rw [isFull_congr htaken]
          exact hfault
  | case5 state input hinput count later hwrite ih =>
      obtain ⟨heq, _⟩ | ⟨_, _, _, heq, _⟩ | ⟨_, heq, rfl⟩ := write_cases hwrite
      · cases heq
      · cases heq
      · simp only [Written.took.injEq] at heq
        have hpart := accepted_take_portion sink state input
        rw [← heq] at hpart ih ⊢
        have hwrote := ih.append rfl rfl hpart
        rw [List.take_append_drop] at hwrote
        exact hwrote

theorem Wrote.of_ok {state later : State} {input : Bytes}
    (hwrote : sink.Wrote state input (.ok (), later)) :
    sink.accepted state.taken.length input = input := by
  have houtcome := hwrote.outcome
  by_contra hrest
  rw [if_neg hrest] at houtcome
  cases houtcome

theorem Wrote.of_error {state later : State} {input : Bytes} {cause : IoError}
    (hwrote : sink.Wrote state input (.error cause, later)) :
    sink.accepted state.taken.length input ≠ input ∧ cause = sink.overflow later := by
  have houtcome := hwrote.outcome
  by_cases hall : sink.accepted state.taken.length input = input
  · rw [if_pos hall] at houtcome
    cases houtcome
  · rw [if_neg hall] at houtcome
    exact ⟨hall, Except.error.inj houtcome⟩

theorem wrote_writePieces (sink : Sink) (state : State) (pieces : List Bytes) :
    sink.Wrote state pieces.flatten (sink.writePieces state pieces) := by
  induction pieces generalizing state with
  | nil => exact ⟨by simp [writePieces], rfl, by simp [writePieces]⟩
  | cons piece rest ih =>
      have hpiece := wrote_writeAll sink state piece
      unfold writePieces
      rw [List.flatten_cons]
      cases hresult : sink.writeAll state piece with
      | mk outcome later =>
          rw [hresult] at hpiece
          have htaken : later.taken = _ := hpiece.taken
          cases outcome with
          | ok _ =>
              rw [hpiece.of_ok] at htaken
              exact (ih later).append htaken hpiece.flushes hpiece.of_ok
          | error cause =>
              obtain ⟨hrest, hcause⟩ := hpiece.of_error
              have hjoin := accepted_append sink state.taken.length piece rest.flatten
              rw [accepted_of_rest rest.flatten hrest, List.append_nil] at hjoin
              refine ⟨?_, hpiece.flushes, ?_⟩
              · rw [hjoin]
                exact htaken
              · simp [accepted_append_eq_iff, hrest, hcause]

/-! ## Delivering -/

/-- What handing over a text and flushing it comes to. -/
structure Delivered (sink : Sink) (input : Bytes) (result : Except IoError Unit × State) :
    Prop where
  taken : result.2.taken = sink.accepted 0 input
  flushes : result.2.flushes = if sink.accepted 0 input = input then 1 else 0
  outcome : result.1 =
    if sink.accepted 0 input = input then
      match sink.flushFault with
      | none => .ok ()
      | some errno => .error (.os errno)
    else .error (sink.overflow result.2)

theorem delivered_deliver (sink : Sink) (pieces : List Bytes) :
    sink.Delivered pieces.flatten (sink.deliver pieces) := by
  have hwrote := wrote_writePieces sink {} pieces
  unfold deliver
  cases hresult : sink.writePieces {} pieces with
  | mk outcome later =>
      rw [hresult] at hwrote
      have htaken : later.taken = _ := hwrote.taken
      have hflushes : later.flushes = _ := hwrote.flushes
      cases outcome with
      | ok _ =>
          have hfits : sink.accepted 0 pieces.flatten = pieces.flatten := hwrote.of_ok
          cases hfault : sink.flushFault <;>
            exact ⟨by simp [flush, hfault, htaken], by simp [flush, hfault, hflushes, hfits],
              by simp [flush, hfault, hfits]⟩
      | error cause =>
          obtain ⟨hrest, hcause⟩ := hwrote.of_error
          have hrest : sink.accepted 0 pieces.flatten ≠ pieces.flatten := hrest
          exact ⟨by simp [htaken], by simp [hflushes, hrest], by simp [hrest, hcause]⟩

/-- A sink that never runs full and can be flushed takes everything. -/
theorem Delivered.of_endless {input : Bytes} {result : Except IoError Unit × State}
    (hdelivered : sink.Delivered input result) (hroom : sink.room = none)
    (hflush : sink.flushFault = none) : result.1 = .ok () ∧ result.2.taken = input := by
  have hall : sink.accepted 0 input = input := accepted_of_endless hroom 0 input
  constructor
  · rw [hdelivered.outcome, if_pos hall, hflush]
  · rw [hdelivered.taken, hall]

end Sink

/-! ## Reports -/

namespace Text.Utf8

theorem flatten_map_encode (pieces : List (List Char)) :
    (pieces.map encode).flatten = encode pieces.flatten := by
  induction pieces with
  | nil => rfl
  | cons piece rest ih => simp [ih]

theorem encode_ne_nil {text : List Char} (htext : text ≠ []) : encode text ≠ [] := by
  cases text with
  | nil => exact absurd rfl htext
  | cons c rest =>
      have hlength : 0 < (String.utf8EncodeChar c).length := by
        rw [String.length_utf8EncodeChar]
        exact c.utf8Size_pos
      rw [encode_cons]
      exact List.append_ne_nil_of_left_ne_nil (List.ne_nil_of_length_pos hlength) _

end Text.Utf8

namespace Report

def bytes (format : OutputFormat) (report : Report) : Bytes :=
  Text.Utf8.encode (report.chars format)

theorem delivered_flush (report : Report) (format : OutputFormat) (sink : Sink) :
    sink.Delivered (report.bytes format) (report.flush format sink) := by
  have hdelivered := sink.delivered_deliver ((report.pieces format).map Text.Utf8.encode)
  rw [Text.Utf8.flatten_map_encode] at hdelivered
  exact hdelivered

theorem bytes_ne_nil {report : Report} (hentries : report.entries ≠ [])
    (format : OutputFormat) : report.bytes format ≠ [] := by
  obtain ⟨entry, rest, hreport⟩ := List.exists_cons_of_ne_nil hentries
  apply Text.Utf8.encode_ne_nil
  cases format <;> simp [chars, pieces, linePieces, objectPieces, hreport]

end Report

end DecodeProbe
