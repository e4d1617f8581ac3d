import DecodeProbe.Proofs.Sink
import DecodeProbe.Stdout

/-!
# What standard output lets through

The buffer decides when bytes go to the descriptor and not which.  Whatever was handed
over has been passed on or is in the buffer, in that order, until the descriptor fails.
Then nothing more is taken, and writing fails too, unless the descriptor is a bad one:
in that case the writing goes on and what is written is lost.
-/

namespace DecodeProbe

open DecodeProbe.Text.Utf8 (Bytes)

/-! ## The descriptor -/

namespace Sink

variable {sink : Sink}

theorem overflow_congr {state later : State} (htaken : later.taken = state.taken) :
    sink.overflow later = sink.overflow state := by
  rw [overflow, overflow, isFull_congr htaken]

/-- Once some bytes did not all fit there is no room left. -/
theorem accepted_after_rest {input : Bytes} (hrest : sink.accepted 0 input ≠ input)
    (more : Bytes) : sink.accepted (sink.accepted 0 input).length more = [] := by
  cases hroom : sink.room with
  | none => exact absurd (accepted_of_endless hroom 0 input) hrest
  | some room =>
      apply accepted_eq_nil hroom
      rw [accepted_of_room hroom, Nat.sub_zero, List.length_take]
      have hlength : room < input.length := by
        by_contra hle
        apply hrest
        rw [accepted_of_room hroom, List.take_of_length_le (by omega)]
      omega

end Sink

namespace Stdout

variable {stdout : Stdout}

/-! ## What becomes of some bytes -/

/-- What the descriptor gets of the bytes. -/
def got (stdout : Stdout) (input : Bytes) : Bytes := stdout.descriptor.accepted 0 input

/-- The descriptor gets all of the bytes. -/
def Takes (stdout : Stdout) (input : Bytes) : Prop := stdout.got input = input

/-- How the descriptor fails on the first byte that it does not get. -/
def failure (stdout : Stdout) (input : Bytes) : IoError :=
  stdout.descriptor.overflow { taken := stdout.got input }

/-- Some of the bytes are lost on a bad descriptor. -/
structure Loses (stdout : Stdout) (input : Bytes) : Prop where
  rest : ¬ stdout.Takes input
  bad : stdout.failure input = .os .badDescriptor

/-- Writing the bytes succeeds, whatever becomes of them. -/
def Allows (stdout : Stdout) (input : Bytes) : Prop := stdout.Takes input ∨ stdout.Loses input

section

variable {input : Bytes}

theorem allows_iff :
    stdout.Allows input ↔ stdout.Takes input ∨ stdout.failure input = .os .badDescriptor := by
  constructor
  · exact Or.imp_right Loses.bad
  · intro hallows
    by_cases htakes : stdout.Takes input
    · exact .inl htakes
    · exact .inr ⟨htakes, hallows.resolve_left htakes⟩

theorem got_append_of_takes (htakes : stdout.Takes input) (more : Bytes) :
    stdout.got (input ++ more) =
      input ++ stdout.descriptor.accepted input.length more := by
  rw [got, Sink.accepted_append, Nat.zero_add, show stdout.descriptor.accepted 0 input = input
    from htakes]

theorem got_append_of_rest (hrest : ¬ stdout.Takes input) (more : Bytes) :
    stdout.got (input ++ more) = stdout.got input := by
  have hnone := Sink.accepted_of_rest more hrest
  rw [got, Sink.accepted_append, hnone, List.append_nil, got]

theorem not_takes_append (hrest : ¬ stdout.Takes input) (more : Bytes) :
    ¬ stdout.Takes (input ++ more) := by
  intro htakes
  exact hrest ((Sink.accepted_append_eq_iff _ _ _ _).mp htakes).1

theorem failure_append (hrest : ¬ stdout.Takes input) (more : Bytes) :
    stdout.failure (input ++ more) = stdout.failure input := by
  rw [failure, got_append_of_rest hrest, failure]

theorem not_allows_append (hnot : ¬ stdout.Allows input) (more : Bytes) :
    ¬ stdout.Allows (input ++ more) := by
  rw [allows_iff, not_or] at hnot ⊢
  exact ⟨not_takes_append hnot.1 more, by rw [failure_append hnot.1]; exact hnot.2⟩

end

/-! ## Passing bytes on -/

/-- These bytes have been passed on to the descriptor. -/
structure Passed (stdout : Stdout) (given : Bytes) (state : Sink.State) : Prop where
  taken : state.taken = stdout.got given
  allowed : stdout.Allows given

/-- How forwarding may end after these bytes in all. -/
inductive Forwarded (stdout : Stdout) (given : Bytes) : Except IoError Unit × Sink.State → Prop
  | done {state : Sink.State} :
      stdout.Passed given state → Forwarded stdout given (.ok (), state)
  | failed {state : Sink.State} : state.taken = stdout.got given → ¬ stdout.Allows given →
      Forwarded stdout given (.error (stdout.failure given), state)

theorem Forwarded.of_rest {given : Bytes} {state : Sink.State}
    (htaken : state.taken = stdout.got given) (hrest : ¬ stdout.Takes given) :
    stdout.Forwarded given (excused (.error (stdout.failure given)), state) := by
  by_cases hbad : stdout.failure given = .os .badDescriptor
  · rw [show excused (.error (stdout.failure given)) = .ok () from if_pos hbad]
    exact .done ⟨htaken, .inr ⟨hrest, hbad⟩⟩
  · rw [show excused (.error (stdout.failure given)) = .error _ from if_neg hbad]
    exact .failed htaken fun hallows => hbad ((allows_iff.mp hallows).resolve_left hrest)

theorem forwarded_forward {given : Bytes} {state : Sink.State}
    (hpassed : stdout.Passed given state) (input : Bytes) :
    stdout.Forwarded (given ++ input) (stdout.forward state input) := by
  have hwrote := Sink.wrote_writeAll stdout.descriptor state input
  rw [forward]
  generalize stdout.descriptor.writeAll state input = run at hwrote ⊢
  obtain ⟨result, later⟩ := run
  have htaken : later.taken = _ := hwrote.taken
  have houtcome : result = _ := hwrote.outcome
  have hoverflow {more} (hmore : later.taken = stdout.got more) :
      stdout.descriptor.overflow later = stdout.failure more := Sink.overflow_congr hmore
  rw [hpassed.taken] at htaken houtcome
  obtain htakes | hloses := hpassed.allowed
  · -- the descriptor has got everything, so it gets what fits of the rest
    rw [htakes] at htaken houtcome
    rw [← got_append_of_takes htakes] at htaken
    by_cases hall : stdout.descriptor.accepted given.length input = input
    · have htakesAll : stdout.Takes (given ++ input) := by
        rw [Takes, got_append_of_takes htakes, hall]
      rw [houtcome, if_pos hall]
      exact .done ⟨htaken, .inl htakesAll⟩
    · have hrest : ¬ stdout.Takes (given ++ input) := by
        rw [Takes, got_append_of_takes htakes]
        exact fun heq => hall (List.append_cancel_left heq)
      rw [houtcome, if_neg hall, hoverflow htaken]
      exact .of_rest htaken hrest
  · -- a bad descriptor gets nothing more, which only an empty text does not meet
    have hnone : stdout.descriptor.accepted (stdout.got given).length input = [] :=
      Sink.accepted_after_rest hloses.rest input
    rw [hnone] at htaken houtcome
    rw [List.append_nil, ← got_append_of_rest hloses.rest input] at htaken
    have hrest := not_takes_append hloses.rest input
    have hbad := (failure_append hloses.rest input).trans hloses.bad
    have hexcused : excused result = .ok () := by
      rw [houtcome, hoverflow htaken, hbad]
      split <;> rfl
    change stdout.Forwarded _ (excused result, later)
    rw [hexcused]
    exact .done ⟨htaken, .inr ⟨hrest, hbad⟩⟩

/-! ## Handing bytes over -/

/-- What was handed over has been passed on or is in the buffer. -/
def Holds (stdout : Stdout) (given : Bytes) (state : State) : Prop :=
  ∃ passed, stdout.Passed passed state.descriptor ∧ passed ++ state.buffered = given

/-- How writing may end after these bytes in all. -/
inductive Ended (stdout : Stdout) (given : Bytes) : Except IoError Unit × State → Prop
  | done {state : State} : stdout.Holds given state → Ended stdout given (.ok (), state)
  | failed {state : State} {cause : IoError} :
      state.descriptor.taken = stdout.got given → ¬ stdout.Allows given →
      cause = stdout.failure given ∨ cause = (stdout.failure given).ofBuffer →
      Ended stdout given (.error cause, state)

/-- The writing hands over these bytes. -/
structure Hands (stdout : Stdout) (input : Bytes) (writing : Writing Unit) : Prop where
  ended : ∀ {given state}, stdout.Holds given state → stdout.Ended (given ++ input) (writing state)

theorem Ended.append {given : Bytes} {cause : IoError} {state : State}
    (hended : stdout.Ended given (.error cause, state)) (more : Bytes) :
    stdout.Ended (given ++ more) (.error cause, state) := by
  cases hended with
  | failed htaken hnot hcause =>
      have hrest : ¬ stdout.Takes given := fun htakes => hnot (.inl htakes)
      refine .failed ?_ (not_allows_append hnot more) ?_
      · rw [htaken, got_append_of_rest hrest]
      · rwa [failure_append hrest]

theorem run_bind (first next : Writing Unit) (state : State) :
    (do first; next : Writing Unit) state =
      match first state with
      | (.ok (), later) => next later
      | (.error cause, later) => (.error cause, later) := by
  change (match first state with | (result, later) => ExceptT.bindCont (fun _ => next) result later)
    = _
  rcases first state with ⟨_ | _, later⟩ <;> rfl

theorem Hands.bind {first next : Writing Unit} {begun rest : Bytes}
    (hfirst : stdout.Hands begun first) (hnext : stdout.Hands rest next) :
    stdout.Hands (begun ++ rest) (do first; next) := by
  refine ⟨fun {given state} hholds => ?_⟩
  have hended := hfirst.ended hholds
  rw [run_bind, ← List.append_assoc]
  cases hrun : first state with
  | mk result later =>
      rw [hrun] at hended
      cases hended with
      | done hlater => exact hnext.ended hlater
      | failed htaken hnot hcause => exact (Ended.failed htaken hnot hcause).append rest

theorem hands_keep (input : Bytes) : stdout.Hands input (keep input) := by
  refine ⟨?_⟩
  rintro given state ⟨passed, hpassed, rfl⟩
  exact .done ⟨passed, hpassed, (List.append_assoc ..).symm⟩

/-- Only an empty buffer may be passed by. -/
theorem ended_pass {given : Bytes} {state : State} (hholds : stdout.Holds given state)
    (hempty : state.buffered = []) (input : Bytes) :
    stdout.Ended (given ++ input) (stdout.pass input state) := by
  obtain ⟨passed, hpassed, rfl⟩ := hholds
  rw [hempty, List.append_nil]
  have hforwarded := forwarded_forward hpassed input
  rw [pass]
  generalize stdout.forward state.descriptor input = run at hforwarded ⊢
  cases hforwarded with
  | done hlater => exact .done ⟨_, hlater, by rw [hempty, List.append_nil]⟩
  | failed htaken hnot => exact .failed htaken hnot (.inl rfl)

theorem hands_drain (stdout : Stdout) : stdout.Hands [] stdout.drain := by
  refine ⟨?_⟩
  rintro given state ⟨passed, hpassed, rfl⟩
  have hforwarded := forwarded_forward hpassed state.buffered
  rw [List.append_nil, drain]
  generalize stdout.forward state.descriptor state.buffered = run at hforwarded ⊢
  cases hforwarded with
  | done hlater => exact .done ⟨_, hlater, List.append_nil _⟩
  | failed htaken hnot => exact .failed htaken hnot (.inr rfl)

theorem buffered_of_drain {state later : State} (hdrain : stdout.drain state = (.ok (), later)) :
    later.buffered = [] := by
  unfold drain at hdrain
  split at hdrain <;> cases hdrain
  rfl

theorem hands_makeRoom (stdout : Stdout) (count : Nat) :
    stdout.Hands [] (stdout.makeRoom count) := by
  refine ⟨fun {given state} hholds => ?_⟩
  unfold makeRoom
  split
  · exact (hands_drain stdout).ended hholds
  · rw [List.append_nil]
    exact .done hholds

theorem room_of_makeRoom {state later : State} {count : Nat}
    (hrun : stdout.makeRoom count state = (.ok (), later)) :
    later.buffered = [] ∨ count ≤ capacity - later.buffered.length := by
  unfold makeRoom at hrun
  split at hrun
  · exact .inl (buffered_of_drain hrun)
  · next hroom =>
    cases hrun
    exact .inr (Nat.le_of_not_lt hroom)

theorem hands_buffer (stdout : Stdout) (input : Bytes) :
    stdout.Hands input (stdout.buffer input) := by
  refine ⟨fun {given state} hholds => ?_⟩
  have hroom := (hands_makeRoom stdout input.length).ended hholds
  rw [List.append_nil] at hroom
  rw [buffer, run_bind]
  cases hrun : stdout.makeRoom input.length state with
  | mk result later =>
      rw [hrun] at hroom
      cases hroom with
      | failed htaken hnot hcause => exact (Ended.failed htaken hnot hcause).append input
      | done hlater =>
          by_cases hlong : capacity ≤ input.length
          · rw [if_pos hlong]
            -- so much room is there in an empty buffer only
            have hempty : later.buffered = [] := by
              obtain hempty | hroom := room_of_makeRoom hrun
              · exact hempty
              · have hpos : 0 < capacity := by decide
                exact List.length_eq_zero_iff.mp (by omega)
            exact ended_pass hlater hempty input
          · rw [if_neg hlong]
            exact (hands_keep input).ended hlater

theorem hands_writeLines (stdout : Stdout) (lines : Bytes) :
    stdout.Hands lines (stdout.writeLines lines) := by
  refine ⟨fun {given state} hholds => ?_⟩
  unfold writeLines
  split
  · next hnone =>
    rw [hnone]
    split
    · exact (hands_drain stdout).ended hholds
    · rw [List.append_nil]
      exact .done hholds
  · split
    · next hempty => exact ended_pass hholds hempty lines
    · have hboth := (hands_buffer stdout lines).bind (hands_drain stdout)
      rw [List.append_nil] at hboth
      exact hboth.ended hholds

theorem finished_append_unfinished (input : Bytes) :
    finished input ++ unfinished input = input := by
  rw [finished, unfinished, ← List.reverse_append, List.takeWhile_append_dropWhile,
    List.reverse_reverse]

theorem hands_write (stdout : Stdout) (input : Bytes) :
    stdout.Hands input (stdout.write input) := by
  have hboth := (hands_writeLines stdout (finished input)).bind
    (hands_buffer stdout (unfinished input))
  rwa [finished_append_unfinished] at hboth

theorem hands_writePieces (stdout : Stdout) (pieces : List Bytes) :
    stdout.Hands pieces.flatten (stdout.writePieces pieces) := by
  induction pieces with
  | nil =>
      refine ⟨fun hholds => ?_⟩
      rw [List.flatten_nil, List.append_nil]
      exact .done hholds
  | cons piece rest ih => exact (hands_write stdout piece).bind ih

/-! ## From the start to the end -/

theorem passed_start (stdout : Stdout) : stdout.Passed [] {} :=
  ⟨(Sink.accepted_nil 0).symm, .inl (Sink.accepted_nil 0)⟩

theorem holds_start (stdout : Stdout) : stdout.Holds [] {} := ⟨[], passed_start stdout, rfl⟩

theorem Hands.ended_started {input : Bytes} {writing : Writing Unit}
    (hhands : stdout.Hands input writing) : stdout.Ended input (started writing) :=
  hhands.ended (holds_start stdout)

theorem atExit_eq (stdout : Stdout) (state : State) :
    stdout.atExit state = (stdout.forward state.descriptor state.buffered).2.taken := by
  change (stdout.drain state).2.descriptor.taken = _
  unfold drain
  split <;> simp_all

/-- The last flush takes along what is in the buffer, unless the descriptor has failed. -/
theorem Ended.atExit {given : Bytes} {written : Except IoError Unit × State}
    (hended : stdout.Ended given written) : stdout.atExit written.2 = stdout.got given := by
  rw [atExit_eq]
  cases hended with
  | @done state hholds =>
      obtain ⟨passed, hpassed, rfl⟩ := hholds
      have hforwarded := forwarded_forward hpassed state.buffered
      generalize stdout.forward state.descriptor state.buffered = run at hforwarded ⊢
      cases hforwarded with
      | done hlater => exact hlater.taken
      | failed htaken _ => exact htaken
  | @failed state cause htaken hnot _ =>
      have hrest : ¬ stdout.Takes given := fun htakes => hnot (.inl htakes)
      have hwrote := Sink.wrote_writeAll stdout.descriptor state.descriptor state.buffered
      calc (stdout.forward state.descriptor state.buffered).2.taken
          = stdout.got given ++
              stdout.descriptor.accepted (stdout.got given).length state.buffered := by
            rw [← htaken]
            exact hwrote.taken
        _ = stdout.got given := by
            rw [show stdout.descriptor.accepted (stdout.got given).length state.buffered = []
              from Sink.accepted_after_rest hrest state.buffered, List.append_nil]

/-- What writing a whole text from the start comes to. -/
structure Delivered (stdout : Stdout) (input : Bytes) (written : Except IoError Unit × State) :
    Prop where
  atExit : stdout.atExit written.2 = stdout.got input
  ok_iff : written.1 = .ok () ↔ stdout.Allows input
  cause : ∀ {cause}, written.1 = .error cause →
    cause = stdout.failure input ∨ cause = (stdout.failure input).ofBuffer

theorem Delivered.exists_cause {input : Bytes} {written : Except IoError Unit × State}
    (hdelivered : stdout.Delivered input written) (hnot : ¬ stdout.Allows input) :
    ∃ cause, written.1 = .error cause := by
  cases hresult : written.1 with
  | ok done => exact absurd (hdelivered.ok_iff.mp hresult) hnot
  | error cause => exact ⟨cause, rfl⟩

/-- Success is final once the buffer is empty. -/
theorem Ended.delivered {input : Bytes} {written : Except IoError Unit × State}
    (hended : stdout.Ended input written)
    (hempty : written.1 = .ok () → written.2.buffered = []) : stdout.Delivered input written := by
  refine ⟨hended.atExit, ?_, ?_⟩
  · cases hended with
    | done hholds =>
        obtain ⟨passed, hpassed, rfl⟩ := hholds
        rw [hempty rfl, List.append_nil]
        exact iff_of_true rfl hpassed.allowed
    | failed htaken hnot hcause => exact iff_of_false (by simp) hnot
  · intro cause herror
    cases hended with
    | done hholds => cases herror
    | failed htaken hnot hcause =>
        cases herror
        exact hcause

theorem buffered_of_bind_drain {writing : Writing Unit} {state : State}
    (hok : ((do writing; stdout.drain : Writing Unit) state).1 = .ok ()) :
    ((do writing; stdout.drain : Writing Unit) state).2.buffered = [] := by
  rw [run_bind] at hok ⊢
  cases hrun : writing state with
  | mk result later =>
      rw [hrun] at hok
      cases result with
      | error cause => cases hok
      | ok done =>
          cases hdrain : stdout.drain later with
          | mk result last =>
              simp only [hdrain] at hok ⊢
              rw [hok] at hdrain
              exact buffered_of_drain hdrain

theorem buffered_pass (stdout : Stdout) (input : Bytes) (state : State) :
    (stdout.pass input state).2.buffered = state.buffered := rfl

theorem buffer_nil (stdout : Stdout) (state : State) :
    stdout.buffer [] state = (.ok (), state) := by
  have hroom : stdout.makeRoom 0 state = (.ok (), state) := if_neg (Nat.not_lt_zero _)
  have hshort : ¬ capacity ≤ 0 := by decide
  rw [buffer, run_bind, List.length_nil, hroom, if_neg hshort]
  change (Except.ok (), State.mk state.descriptor (state.buffered ++ [])) = _
  rw [List.append_nil]

/-- A text that ends with a line break goes past an empty buffer. -/
theorem write_of_break {input : Bytes} (hbreak : input.getLast? = some 0x0A) {state : State}
    (hempty : state.buffered = []) : stdout.write input state = stdout.pass input state := by
  have hnone : unfinished input = [] := by
    obtain ⟨lines, rfl⟩ := List.getLast?_eq_some_iff.mp hbreak
    simp [unfinished]
  have hlines : finished input = input := by
    have hboth := finished_append_unfinished input
    rwa [hnone, List.append_nil] at hboth
  have hinput : input ≠ [] := by
    rintro rfl
    cases hbreak
  have hpass : stdout.writeLines input state = stdout.pass input state := by
    rw [writeLines, if_neg hinput, if_pos hempty]
  rw [write, hnone, hlines, run_bind, hpass]
  cases hrun : stdout.pass input state with
  | mk result later =>
      cases result with
      | error cause => rfl
      | ok done => exact stdout.buffer_nil later

theorem delivered_write {input : Bytes} (hbreak : input.getLast? = some 0x0A) :
    stdout.Delivered input (started (stdout.write input)) := by
  have hpass : started (stdout.write input) = stdout.pass input {} := write_of_break hbreak rfl
  refine (hands_write stdout input).ended_started.delivered fun _ => ?_
  rw [hpass, buffered_pass]

/-! ## When writing succeeds -/

theorem takes_writable (input : Bytes) : writable.Takes input :=
  Sink.accepted_of_endless rfl 0 input

/-- Whatever there is to write fails, in whatever state. -/
def Refuses (stdout : Stdout) : Prop :=
  ∀ state input, input ≠ [] → ∃ cause, (stdout.forward state input).1 = .error cause

theorem Refuses.not_allows (hrefuses : stdout.Refuses) {input : Bytes} (hinput : input ≠ []) :
    ¬ stdout.Allows input := by
  obtain ⟨cause, herror⟩ := hrefuses {} input hinput
  have hforwarded := forwarded_forward (passed_start stdout) input
  rw [List.nil_append] at hforwarded
  generalize stdout.forward {} input = run at herror hforwarded
  cases hforwarded with
  | done => cases herror
  | failed _ hnot => exact hnot

/-- Not even one byte gets through, so none of a longer text does. -/
theorem Refuses.got_eq_nil (hrefuses : stdout.Refuses) (input : Bytes) :
    stdout.got input = [] := by
  cases input with
  | nil => exact Sink.accepted_nil 0
  | cons byte rest =>
      have hrest : ¬ stdout.Takes [byte] :=
        fun htakes => hrefuses.not_allows (List.cons_ne_nil byte []) (.inl htakes)
      calc stdout.got (byte :: rest)
          = stdout.got [byte] := got_append_of_rest hrest rest
        _ = [] := (Sink.accepted_singleton 0 byte).resolve_right hrest

theorem refuses_full : full.Refuses := by
  intro state input hinput
  have hnone : full.descriptor.accepted state.taken.length input = [] :=
    Sink.accepted_eq_nil rfl (Nat.zero_le _) input
  have houtcome := (Sink.wrote_writeAll full.descriptor state input).outcome
  rw [hnone, if_neg hinput.symm] at houtcome
  refine ⟨.os .noSpace, ?_⟩
  change excused (full.descriptor.writeAll state input).1 = _
  rw [houtcome]
  rfl

theorem got_closed (input : Bytes) : closed.got input = [] :=
  Sink.accepted_eq_nil rfl (Nat.le_refl 0) input

theorem loses_closed {input : Bytes} (hinput : input ≠ []) : closed.Loses input where
  rest := by
    rw [Takes, got_closed]
    exact hinput.symm
  bad := by
    rw [failure, got_closed]
    rfl

end Stdout

namespace Report

open Stdout

theorem delivered_print (report : Report) (format : OutputFormat) (stdout : Stdout) :
    stdout.Delivered (report.bytes format) (report.print format stdout) := by
  have hhands := (hands_writePieces stdout ((report.pieces format).map Text.Utf8.encode)).bind
    (hands_drain stdout)
  rw [List.append_nil, Text.Utf8.flatten_map_encode] at hhands
  exact hhands.ended_started.delivered buffered_of_bind_drain

end Report

end DecodeProbe
