import DecodeProbe.Library
import DecodeProbe.Proofs.CodecRuntime.Attempt
import Mathlib.Tactic.MkIffOfInductiveProp

/-!
# The codec library as a runtime

A loaded library does what the plain runtime of its script does.  It differs in
what it counts of resets and destructions, in whether a reset reaches the
library at all, and in the return codes that it logs; none of this shows in the
mask or in the other calls.
-/

namespace DecodeProbe

/-! ## What is compared -/

/-- The call of a plain runtime that a library call stands for. -/
@[simp] def LibraryCall.plain : LibraryCall → RuntimeCall Nat
  | .create context ret => .create (Script.outcome ret context)
  | .check codec ret => .check codec (Script.outcome ret ())
  | .init context codec ret => .init context codec (Script.outcome ret ())
  | .reset context _ => .reset context
  | .destroy context _ => .destroy context

/-- Resets reach a library through its table only, and letting go of it is no call. -/
@[simp] def RuntimeCall.reaches {χ : Type} (table : OperationTable) : RuntimeCall χ → Bool
  | .create _ | .check .. | .init .. | .destroy _ => true
  | .reset _ => table = .complete
  | .release => false

/-- The calls to one of the four entry points. -/
@[simp] def RuntimeCall.isEntry {χ : Type} : RuntimeCall χ → Bool
  | .create _ | .check .. | .init .. | .destroy _ => true
  | .reset _ | .release => false

/-- The counters of a plain runtime, which does not count resets and destructions. -/
def Script.Progress.plain (progress : Script.Progress) : Script.Progress :=
  { progress with resets := 0, destroyed := 0 }

namespace Script.Progress

@[simp] theorem created_plain (progress : Progress) : progress.plain.created = progress.created :=
  rfl

@[simp] theorem checked_plain (progress : Progress) : progress.plain.checked = progress.checked :=
  rfl

@[simp] theorem initialised_plain (progress : Progress) :
    progress.plain.initialised = progress.initialised := rfl

@[simp] theorem resets_plain (progress : Progress) : progress.plain.resets = 0 := rfl

@[simp] theorem destroyed_plain (progress : Progress) : progress.plain.destroyed = 0 := rfl

@[simp] theorem plain_mk (created checked initialised resets destroyed : Nat) :
    (⟨created, checked, initialised, resets, destroyed⟩ : Progress).plain =
      ⟨created, checked, initialised, 0, 0⟩ := rfl

end Script.Progress

/-! ## The codes that decide -/

namespace Script

open RuntimeAnswers

/-- How many earlier candidates had a context made for them. -/
def createdBefore (script : Script) (candidate : Nat) : Nat :=
  (List.range candidate).countP fun earlier => script.create.getD earlier 0 = 0

/-- How many earlier candidates had a context made for them and passed the check. -/
def checkedBefore (script : Script) (candidate : Nat) : Nat :=
  (List.range candidate).countP fun earlier =>
    script.create.getD earlier 0 = 0 ∧ script.check.getD (script.createdBefore earlier) 0 = 0

/-- The counters when a candidate's turn comes. -/
def turn (script : Script) (candidate : Nat) : Progress where
  created := candidate
  checked := script.createdBefore candidate
  initialised := script.checkedBefore candidate

/-- The candidate passes all three stages. -/
@[mk_iff] structure Supports (script : Script) (candidate : Nat) : Prop where
  create : script.create.getD candidate 0 = 0
  check : script.check.getD (script.createdBefore candidate) 0 = 0
  init : script.init.getD (script.checkedBefore candidate) 0 = 0

variable (script : Script)

theorem createdBefore_succ (candidate : Nat) :
    script.createdBefore (candidate + 1) =
      script.createdBefore candidate +
        if script.create.getD candidate 0 = 0 then 1 else 0 := by
  simp [createdBefore, List.range_succ, List.countP_singleton]

theorem checkedBefore_succ (candidate : Nat) :
    script.checkedBefore (candidate + 1) =
      script.checkedBefore candidate +
        if script.create.getD candidate 0 = 0 ∧
          script.check.getD (script.createdBefore candidate) 0 = 0 then 1 else 0 := by
  simp [checkedBefore, List.range_succ, List.countP_singleton]

theorem attempt_turn (codec : Codec) (candidate : Nat) :
    let attempt := script.answers.attempt codec (script.turn candidate)
    attempt.2 = script.turn (candidate + 1) ∧
      (attempt.1.opens = true ↔ script.Supports candidate) ∧
      (attempt.1.opens = true → attempt.1.context? = some (candidate + 1)) := by
  have hsupports := supports_iff script candidate
  simp only [attempt, answers, turn, createdBefore_succ, checkedBefore_succ]
  by_cases hcreate : script.create[candidate]?.getD 0 = 0
  · by_cases hcheck : script.check[script.createdBefore candidate]?.getD 0 = 0
    · by_cases hinit : script.init[script.checkedBefore candidate]?.getD 0 = 0 <;>
        simp [hsupports, hcreate, hcheck, hinit, outcome, Attempt.opens, Attempt.context?]
    · simp [hsupports, hcreate, hcheck, outcome, Attempt.opens]
  · simp [hsupports, hcreate, outcome, Attempt.opens]

theorem stateAt_answers (codec : Codec) :
    script.answers.stateAt {} codec = script.turn codec.position := by
  have hzero : ({} : Progress) = script.turn 0 := rfl
  have hstep : ∀ codec candidate,
      (script.answers.attempt codec (script.turn candidate)).2 = script.turn (candidate + 1) :=
    fun codec candidate => (script.attempt_turn codec candidate).1
  rw [hzero]
  cases codec <;> simp [stateAt, Codec.all, List.takeWhile, Codec.position, hstep]

theorem contains_probe (codec : Codec) :
    script.probe.value.contains codec = true ↔ script.Supports codec.position := by
  rw [Script.probe, StateT.run'_eq, Traced.value_map, contains_run_probe, attemptAt,
    stateAt_answers]
  exact (script.attempt_turn codec codec.position).2.1

theorem calls_probe :
    script.probe.calls =
      Codec.all.flatMap (fun codec => (script.answers.attemptAt {} codec).calls codec) ++
        [.release] := by
  rw [Script.probe, StateT.run'_eq, Traced.calls_map, calls_run_probe]

theorem reset_mem_calls_probe (context : Nat) :
    .reset context ∈ script.probe.calls ↔
      ∃ codec, script.probe.value.contains codec = true ∧ context = codec.position + 1 := by
  have hblock : ∀ codec, .reset context ∈ (script.answers.attemptAt {} codec).calls codec ↔
      script.probe.value.contains codec = true ∧ context = codec.position + 1 := by
    intro codec
    obtain ⟨-, hopens, hcontext⟩ := script.attempt_turn codec codec.position
    rw [contains_probe, ← hopens, Attempt.reset_mem_calls, attemptAt, stateAt_answers,
      and_congr_right_iff]
    intro hopened
    rw [hcontext hopened, Option.some_inj, eq_comm]
  rw [calls_probe]
  simp only [List.mem_append, List.mem_flatMap, hblock]
  simp

end Script

/-! ## The operations -/

namespace Library

open CodecRuntime RuntimeAnswers Script

variable (library : Library)

theorem calls_complaint (text : String) (ret : Int) :
    (complaint text ret).filterMap Event.call? = [] := by
  unfold complaint
  split <;> rfl

@[simp] theorem value_run_create (progress : Progress) :
    (library.create.run progress).value =
      (outcome (library.script.create.getD progress.created 0)
        ⟨progress.created + 1, library.script.table⟩,
       { progress with created := progress.created + 1 }) := rfl

@[simp] theorem calls_run_create (progress : Progress) :
    (library.create.run progress).calls =
      [.create (progress.created + 1) (library.script.create.getD progress.created 0)] := rfl

@[simp] theorem value_run_check (codec : Codec) (progress : Progress) :
    ((library.check codec).run progress).value =
      (outcome (library.script.check.getD progress.checked 0) (),
       { progress with checked := progress.checked + 1 }) := rfl

@[simp] theorem calls_run_check (codec : Codec) (progress : Progress) :
    ((library.check codec).run progress).calls =
      [.check codec (library.script.check.getD progress.checked 0)] := rfl

@[simp] theorem value_run_init (context : Context) (codec : Codec) (progress : Progress) :
    ((library.init context codec).run progress).value =
      (outcome (library.script.init.getD progress.initialised 0) (),
       { progress with initialised := progress.initialised + 1 }) := rfl

@[simp] theorem calls_run_init (context : Context) (codec : Codec) (progress : Progress) :
    ((library.init context codec).run progress).calls =
      [.init context.number codec (library.script.init.getD progress.initialised 0)] := rfl

@[simp] theorem plain_run_reset (context : Context) (progress : Progress) :
    ((library.reset context).run progress).value.2.plain = progress.plain := by
  unfold reset
  cases context.table <;> rfl

@[simp] theorem calls_run_reset (context : Context) (progress : Progress) :
    ((library.reset context).run progress).calls =
      if context.table = .complete then
        [.reset context.number (library.script.reset.getD progress.resets 0)]
      else [] := by
  unfold reset
  cases context.table with
  | complete =>
      change _ :: (complaint _ _).filterMap Event.call? = _
      simp [calls_complaint]
  | missing => simp
  | withoutReset => simp

@[simp] theorem plain_run_destroy (context : Context) (progress : Progress) :
    ((library.destroy context).run progress).value.2.plain = progress.plain := rfl

@[simp] theorem calls_run_destroy (context : Context) (progress : Progress) :
    ((library.destroy context).run progress).calls =
      [.destroy context.number (library.script.destroy.getD progress.destroyed 0)] := by
  change _ :: (complaint _ _).filterMap Event.call? = _
  rw [calls_complaint]

/-! ## One codec -/

theorem run_tryCodec (codecs : CodecSet) (codec : Codec) (progress : Progress) :
    let run := (library.runtime.tryCodec codecs codec).run progress
    let attempt := library.script.answers.attempt codec progress.plain
    run.value.1 = attempt.1.found codecs codec ∧
      run.value.2.plain = attempt.2 ∧
      run.calls.map LibraryCall.plain =
        (attempt.1.calls codec).filter (RuntimeCall.reaches library.script.table) := by
  simp only [tryCodec, runtime, StateT.run_bind, attempt, answers]
  by_cases hcreate : library.script.create[progress.created]?.getD 0 = 0
  · by_cases hcheck : library.script.check[progress.checked]?.getD 0 = 0
    · by_cases hinit : library.script.init[progress.initialised]?.getD 0 = 0
      · cases htable : library.script.table <;>
          simp [hcreate, hcheck, hinit, htable, outcome, Attempt.found, Attempt.opens,
            Attempt.calls, List.filter_cons]
      · simp [hcreate, hcheck, hinit, outcome, Attempt.found, Attempt.opens, Attempt.calls,
          List.filter_cons]
    · simp [hcreate, hcheck, outcome, Attempt.found, Attempt.opens, Attempt.calls,
        List.filter_cons]
  · simp [hcreate, outcome, Attempt.found, Attempt.opens, Attempt.calls, List.filter_cons]

/-! ## A whole probe -/

theorem run_foldlM_tryCodec (tried : List Codec) (codecs : CodecSet) (progress : Progress) :
    let run := (tried.foldlM library.runtime.tryCodec codecs).run progress
    let attempts := library.script.answers.attempts tried progress.plain
    run.value.1 = foundIn codecs attempts ∧
      run.calls.map LibraryCall.plain =
        (attempts.flatMap fun one => one.2.calls one.1).filter
          (RuntimeCall.reaches library.script.table) := by
  induction tried generalizing codecs progress with
  | nil => simp [attempts, foundIn]
  | cons codec tried ih =>
      obtain ⟨hvalue, hplain, hcalls⟩ := library.run_tryCodec codecs codec progress
      simp only [List.foldlM_cons, StateT.run_bind, Traced.value_bind, Traced.calls_bind,
        List.map_append, hvalue, hcalls]
      obtain ⟨hfound, hlater⟩ := ih
        ((library.script.answers.attempt codec progress.plain).1.found codecs codec)
        ((library.runtime.tryCodec codecs codec).run progress).value.2
      rw [hplain] at hfound hlater
      rw [hfound, hlater]
      simp [attempts, foundIn]

theorem value_probe : library.probe.value = library.script.probe.value := by
  have hfound := (library.run_foldlM_tryCodec Codec.all .empty {}).1
  simp only [Library.probe, CodecRuntime.probe, StateT.run'_eq, StateT.run_bind, StateT.run_pure,
    Traced.value_map, Traced.value_bind, Traced.value_pure]
  rw [hfound, Script.probe, StateT.run'_eq, Traced.value_map, value_run_probe]
  rfl

theorem calls_probe :
    library.probe.calls.map LibraryCall.plain =
      library.script.probe.calls.filter (RuntimeCall.reaches library.script.table) := by
  have hcalls := (library.run_foldlM_tryCodec Codec.all .empty {}).2
  have hrelease : ∀ progress, (library.runtime.release.run progress).calls = [] := by
    intro progress
    simp [runtime, unload]
  simp only [Library.probe, CodecRuntime.probe, StateT.run'_eq, StateT.run_bind, StateT.run_pure,
    Traced.calls_map, Traced.calls_bind, Traced.calls_pure, hrelease, List.append_nil]
  rw [hcalls, Script.probe, StateT.run'_eq, Traced.calls_map, calls_run_probe, attempts_all]
  simp [List.flatMap_map]

theorem entries_probe :
    (library.probe.calls.map LibraryCall.plain).filter RuntimeCall.isEntry =
      library.script.probe.calls.filter RuntimeCall.isEntry := by
  rw [calls_probe, List.filter_filter]
  congr 1
  funext call
  cases call <;> rfl

theorem blocks_probe :
    library.probe.calls.map LibraryCall.plain =
      Codec.all.flatMap fun codec =>
        ((library.script.answers.attemptAt {} codec).calls codec).filter
          (RuntimeCall.reaches library.script.table) := by
  rw [calls_probe, Script.calls_probe, List.filter_append, List.filter_flatMap]
  simp

theorem reset_mem_calls_probe (context : Nat) :
    (∃ ret, .reset context ret ∈ library.probe.calls) ↔
      library.script.table = .complete ∧ .reset context ∈ library.script.probe.calls := by
  have hplain : (∃ ret, .reset context ret ∈ library.probe.calls) ↔
      .reset context ∈ library.probe.calls.map LibraryCall.plain := by
    rw [List.mem_map]
    constructor
    · rintro ⟨ret, hmem⟩
      exact ⟨_, hmem, rfl⟩
    · rintro ⟨call, hmem, heq⟩
      cases call with
      | reset context' ret =>
          obtain rfl : context' = context := by simpa using heq
          exact ⟨ret, hmem⟩
      | create | check | init | destroy => simp at heq
  rw [hplain, calls_probe, List.mem_filter]
  simp [and_comm]

end Library

/-! ## A library with all its entry points -/

namespace Loader

variable {loader : Loader} {name file : String} {object : SharedObject}

theorem load_complete (hfind : loader.find name = .ok (file, object))
    (hcomplete : ∀ entry, object.exported entry = true) :
    loader.load name =
      (fun _ => .ok ⟨object.script⟩) <$> Traced.note .library ("loaded " ++ name) := by
  simp [load, hfind, EntryPoint.all, hcomplete]

theorem value_probe_complete (hfind : loader.find name = .ok (file, object))
    (hcomplete : ∀ entry, object.exported entry = true) :
    (loader.probe name).value = .ok (Library.probe ⟨object.script⟩).value := by
  simp [probe, load_complete hfind hcomplete]

theorem calls_probe_complete (hfind : loader.find name = .ok (file, object))
    (hcomplete : ∀ entry, object.exported entry = true) :
    (loader.probe name).calls = (Library.probe ⟨object.script⟩).calls := by
  simp [probe, load_complete hfind hcomplete]

/--
A complete library answers and calls as the plain runtime of its script does,
resets reaching it only through a complete table.  Whatever the codes of resets
and destructions and whatever the table, the codes of the other three kinds
decide the mask and the calls to the entry points.
-/
theorem probe_complete (hfind : loader.find name = .ok (file, object))
    (hcomplete : ∀ entry, object.exported entry = true) :
    let script := object.script
    let found := script.probe.value
    let entries := script.probe.calls.filter RuntimeCall.isEntry
    let run := loader.probe name
    let made := run.calls.map LibraryCall.plain
    run.value = .ok found ∧
      made.filter RuntimeCall.isEntry = entries ∧
      (∀ reset destroy table,
        let other := Library.probe ⟨{ script with reset, destroy, table }⟩
        other.value = found ∧
          (other.calls.map LibraryCall.plain).filter RuntimeCall.isEntry = entries) ∧
      (∀ codec, found.contains codec = true ↔ script.Supports codec.position) ∧
      made = Codec.all.flatMap (fun codec =>
        ((script.answers.attemptAt {} codec).calls codec).filter
          (RuntimeCall.reaches script.table)) ∧
      (∀ context, (∃ ret, .reset context ret ∈ run.calls) ↔
        script.table = .complete ∧
          ∃ codec, found.contains codec = true ∧ context = codec.position + 1) := by
  intro script found entries run made
  have hcalls : run.calls = (Library.probe ⟨script⟩).calls := calls_probe_complete hfind hcomplete
  have hmade : made = (Library.probe ⟨script⟩).calls.map LibraryCall.plain :=
    congrArg (List.map LibraryCall.plain) hcalls
  refine ⟨?_, ?_, ?_, script.contains_probe, ?_, ?_⟩
  · exact (value_probe_complete hfind hcomplete).trans
      (congrArg Except.ok (Library.value_probe ⟨script⟩))
  · rw [hmade]
    exact Library.entries_probe ⟨script⟩
  · intro reset destroy table
    -- the plain runtime of a script reads none of the three
    exact ⟨Library.value_probe _, Library.entries_probe _⟩
  · rw [hmade]
    exact Library.blocks_probe ⟨script⟩
  · intro context
    rw [hcalls, Library.reset_mem_calls_probe, Script.reset_mem_calls_probe]

/-- The first context fails, so the later codecs read the codes of earlier turns. -/
def shifting : SharedObject where
  exported := fun _ => true
  script :=
    { create := [-1], check := [-2], init := [0, -3], reset := [7], table := .withoutReset }

theorem probe_complete_shifting :
    let loader : Loader := fun _ => .ok shifting
    loader.find Library.fileName = .ok (Library.fileName, shifting) ∧
      (∀ entry, shifting.exported entry = true) ∧
      (loader.probe Library.fileName).value = .ok ⟨0x40⟩ ∧
      ∀ context ret, .reset context ret ∉ (loader.probe Library.fileName).calls := by
  intro loader
  have hfind : loader.find Library.fileName = .ok (Library.fileName, shifting) := rfl
  have hcomplete : ∀ entry, shifting.exported entry = true := fun _ => rfl
  have hfound : shifting.script.probe.value = ⟨0x40⟩ := by decide +kernel
  obtain ⟨hvalue, -, -, -, -, hreset⟩ := probe_complete hfind hcomplete
  refine ⟨hfind, hcomplete, hvalue.trans (congrArg Except.ok hfound), ?_⟩
  intro context ret hmem
  obtain ⟨htable, -⟩ := (hreset context).mp ⟨ret, hmem⟩
  exact absurd htable (by decide)

end Loader

end DecodeProbe
