import DecodeProbe.Proofs.Library.Refinement

/-!
# What a library probe reports

The log of a probe can be read off its calls.  A call that fails is followed by one
record with its code, a successful initialisation by the name of the codec and, when
resetting will make no call, by a record of that; nothing else is logged between
loading and unloading.  The step is one codec, which fares in one of four ways.
-/

namespace DecodeProbe

open DecodeProbe.Log (Record)

/-! ## Records of a call -/

namespace LibraryCall

def ret : LibraryCall → Int
  | .create _ ret | .check _ ret | .init _ _ ret | .reset _ ret | .destroy _ ret => ret

/-- What is said when the call failed while a codec was tried. -/
def failure (codec : Codec) : LibraryCall → String
  | .create _ ret => "can not create mpp context for " ++ CodecRuntime.failureText codec ret
  | .check _ ret => "mpp does not support " ++ CodecRuntime.failureText codec ret
  | .init _ _ ret => "mpp can not init " ++ CodecRuntime.failureText codec ret
  | .reset _ ret => "mpp reset returned " ++ Text.signedDecimal ret
  | .destroy _ ret => "mpp destroy returned " ++ Text.signedDecimal ret

/-- What is said when it succeeded; without a reset entry no reset will follow. -/
def success (table : OperationTable) (codec : Codec) : LibraryCall → List String
  | .init .. =>
      ("mpp decodes " ++ codec.name) ::
        if table = .complete then [] else ["mpp context has no reset entry"]
  | .create .. | .check .. | .reset .. | .destroy .. => []

def records (table : OperationTable) (codec : Codec) (call : LibraryCall) : List Record :=
  (if call.ret = successCode then call.success table codec else [call.failure codec]).map
    fun message => ⟨.debug, .library, message⟩

/-- The call with what is logged before the next one. -/
def events (table : OperationTable) (codec : Codec) (call : LibraryCall) :
    List (Event LibraryCall) :=
  .call call :: (call.records table codec).map .log

section

variable (table : OperationTable) (codec : Codec) (call : LibraryCall)

theorem events_of_failed (hfailed : call.ret ≠ successCode) :
    call.events table codec =
      [.call call, .log ⟨.debug, .library, call.failure codec⟩] := by
  rw [events, records, if_neg hfailed]
  rfl

theorem events_of_succeeded (hsucceeded : call.ret = successCode) :
    call.events table codec =
      .call call :: (call.success table codec).map fun message =>
        .log ⟨.debug, .library, message⟩ := by
  rw [events, records, if_pos hsucceeded, List.map_map]
  rfl

/-- A call whose success is not worth a record. -/
theorem events_of_quiet (hquiet : call.success table codec = []) :
    call.events table codec = .call call ::
      if call.ret = successCode then [] else [.log ⟨.debug, .library, call.failure codec⟩] := by
  by_cases hret : call.ret = successCode
  · rw [events_of_succeeded _ _ _ hret, hquiet, if_pos hret, List.map_nil]
  · rw [events_of_failed _ _ _ hret, if_neg hret]

end

end LibraryCall

/-! ## How a codec fares -/

namespace Library

open CodecRuntime RuntimeAnswers Script

abbrev FailureCode := { ret : Int // ret ≠ successCode }

inductive Turn where
  | createFailed (context : Nat) (ret : FailureCode)
  | checkFailed (context : Nat) (ret : FailureCode)
  | initFailed (context : Nat) (ret : FailureCode)
  | opened (context : Nat) (reset destroy : Int)

namespace Turn

/-- What the probe makes of it. -/
def attempt : Turn → Attempt Nat
  | .createFailed _ ret => .createFailed ret
  | .checkFailed context ret => .checkFailed context ret
  | .initFailed context ret => .initFailed context ret
  | .opened context _ _ => .opened context

/-- A context that was opened is destroyed whatever its reset returned. -/
def calls (table : OperationTable) (codec : Codec) : Turn → List LibraryCall
  | .createFailed context ret => [.create context ret]
  | .checkFailed context ret => [.create context successCode, .check codec ret]
  | .initFailed context ret =>
      [.create context successCode, .check codec successCode, .init context codec ret]
  | .opened context reset destroy =>
      [.create context successCode, .check codec successCode, .init context codec successCode] ++
        (if table = .complete then [.reset context reset] else []) ++ [.destroy context destroy]

def events (table : OperationTable) (codec : Codec) (turn : Turn) : List (Event LibraryCall) :=
  (turn.calls table codec).flatMap (LibraryCall.events table codec)

end Turn

section

variable (table : OperationTable) (codec : Codec) (context : Nat)

theorem events_createFailed (ret : FailureCode) :
    (Turn.createFailed context ret).events table codec =
      [.call (.create context ret),
       .log ⟨.debug, .library, "can not create mpp context for " ++ failureText codec ret⟩] := by
  rw [Turn.events, Turn.calls, List.flatMap_singleton,
    LibraryCall.events_of_failed _ _ (.create context ret) ret.2]
  rfl

theorem events_checkFailed (ret : FailureCode) :
    (Turn.checkFailed context ret).events table codec =
      [.call (.create context successCode), .call (.check codec ret),
       .log ⟨.debug, .library, "mpp does not support " ++ failureText codec ret⟩] := by
  rw [Turn.events, Turn.calls, List.flatMap_cons, List.flatMap_singleton,
    LibraryCall.events_of_failed _ _ (.check codec ret) ret.2]
  rfl

theorem events_initFailed (ret : FailureCode) :
    (Turn.initFailed context ret).events table codec =
      [.call (.create context successCode), .call (.check codec successCode),
       .call (.init context codec ret),
       .log ⟨.debug, .library, "mpp can not init " ++ failureText codec ret⟩] := by
  rw [Turn.events, Turn.calls, List.flatMap_cons, List.flatMap_cons, List.flatMap_singleton,
    LibraryCall.events_of_failed _ _ (.init context codec ret) ret.2]
  rfl

theorem events_opened (reset destroy : Int) :
    (Turn.opened context reset destroy).events table codec =
      [.call (.create context successCode), .call (.check codec successCode),
       .call (.init context codec successCode),
       .log ⟨.debug, .library, "mpp decodes " ++ codec.name⟩] ++
      (if table = .complete then
        .call (.reset context reset) :: complaint "mpp reset returned " reset
      else [.log ⟨.debug, .library, "mpp context has no reset entry"⟩]) ++
      .call (.destroy context destroy) :: complaint "mpp destroy returned " destroy := by
  have hreset := LibraryCall.events_of_quiet table codec (.reset context reset) rfl
  have hdestroy := LibraryCall.events_of_quiet table codec (.destroy context destroy) rfl
  have hinit := LibraryCall.events_of_succeeded table codec (.init context codec successCode) rfl
  rw [Turn.events, Turn.calls, List.flatMap_append, List.flatMap_append, List.flatMap_cons,
    List.flatMap_cons, List.flatMap_singleton, List.flatMap_singleton, hinit, hdestroy]
  by_cases htable : table = .complete
  · rw [if_pos htable, if_pos htable, List.flatMap_singleton, hreset, LibraryCall.success,
      if_pos htable]
    rfl
  · rw [if_neg htable, if_neg htable, LibraryCall.success, if_neg htable]
    rfl

end

variable (library : Library)

@[simp] theorem events_run_create (progress : Progress) :
    (library.create.run progress).events =
      [.call (.create (progress.created + 1) (library.script.create.getD progress.created 0))] := rfl

@[simp] theorem events_run_check (codec : Codec) (progress : Progress) :
    ((library.check codec).run progress).events =
      [.call (.check codec (library.script.check.getD progress.checked 0))] := rfl

@[simp] theorem events_run_init (context : Context) (codec : Codec) (progress : Progress) :
    ((library.init context codec).run progress).events =
      [.call (.init context.number codec (library.script.init.getD progress.initialised 0))] := rfl

@[simp] theorem events_run_reset (context : Context) (progress : Progress) :
    ((library.reset context).run progress).events =
      if context.table = .complete then
        .call (.reset context.number (library.script.reset.getD progress.resets 0)) ::
          complaint "mpp reset returned " (library.script.reset.getD progress.resets 0)
      else [.log ⟨.debug, .library, "mpp context has no reset entry"⟩] := by
  unfold reset
  cases context.table <;> rfl

@[simp] theorem events_run_destroy (context : Context) (progress : Progress) :
    ((library.destroy context).run progress).events =
      .call (.destroy context.number (library.script.destroy.getD progress.destroyed 0)) ::
        complaint "mpp destroy returned "
          (library.script.destroy.getD progress.destroyed 0) := rfl

@[simp] theorem destroyed_run_reset (context : Context) (progress : Progress) :
    ((library.reset context).run progress).value.2.destroyed = progress.destroyed := by
  unfold reset
  cases context.table <;> rfl

/-! ## One codec -/

theorem events_tryCodec (codecs : CodecSet) (codec : Codec) (progress : Progress) :
    let run := (library.runtime.tryCodec codecs codec).run progress
    ∃ turn : Turn, run.value.1 = turn.attempt.found codecs codec ∧
      run.events = turn.events library.script.table codec := by
  simp only [tryCodec, runtime, StateT.run_bind]
  by_cases hcreate : library.script.create[progress.created]?.getD 0 = 0
  · by_cases hcheck : library.script.check[progress.checked]?.getD 0 = 0
    · by_cases hinit : library.script.init[progress.initialised]?.getD 0 = 0
      · refine ⟨.opened (progress.created + 1) (library.script.reset.getD progress.resets 0)
          (library.script.destroy.getD progress.destroyed 0), ?_, ?_⟩
        · simp [hcreate, hcheck, hinit, outcome, Turn.attempt, Attempt.found, Attempt.opens]
        · rw [events_opened]
          simp [hcreate, hcheck, hinit, outcome, successCode]
      · refine ⟨.initFailed (progress.created + 1) ⟨_, hinit⟩, ?_, ?_⟩
        · simp [hcreate, hcheck, hinit, outcome, Turn.attempt, Attempt.found, Attempt.opens]
        · rw [events_initFailed]
          simp [hcreate, hcheck, hinit, outcome, successCode]
    · refine ⟨.checkFailed (progress.created + 1) ⟨_, hcheck⟩, ?_, ?_⟩
      · simp [hcreate, hcheck, outcome, Turn.attempt, Attempt.found, Attempt.opens]
      · rw [events_checkFailed]
        simp [hcreate, hcheck, outcome, successCode]
  · refine ⟨.createFailed (progress.created + 1) ⟨_, hcreate⟩, ?_, ?_⟩
    · simp [hcreate, outcome, Turn.attempt, Attempt.found, Attempt.opens]
    · rw [events_createFailed]
      simp [hcreate, outcome]

/-! ## One codec after the other -/

def attempts (turns : List (Codec × Turn)) : List (Codec × Attempt Nat) :=
  turns.map fun one => (one.1, one.2.attempt)

theorem events_foldlM_tryCodec (tried : List Codec) (codecs : CodecSet) (progress : Progress) :
    let run := (tried.foldlM library.runtime.tryCodec codecs).run progress
    ∃ turns : List (Codec × Turn), turns.map Prod.fst = tried ∧
      run.value.1 = foundIn codecs (attempts turns) ∧
      run.events = turns.flatMap fun one => one.2.events library.script.table one.1 := by
  induction tried generalizing codecs progress with
  | nil => exact ⟨[], rfl, rfl, rfl⟩
  | cons codec tried ih =>
      obtain ⟨turn, hvalue, hevents⟩ := library.events_tryCodec codecs codec progress
      obtain ⟨turns, hturns, hfound, hlater⟩ := ih
        ((library.runtime.tryCodec codecs codec).run progress).value.1
        ((library.runtime.tryCodec codecs codec).run progress).value.2
      refine ⟨(codec, turn) :: turns, ?_, ?_, ?_⟩
      · rw [List.map_cons, hturns]
      · rw [List.foldlM_cons, StateT.run_bind, Traced.value_bind, hfound, hvalue]
        rfl
      · rw [List.foldlM_cons, StateT.run_bind, Traced.events_bind, hlater, List.flatMap_cons,
          hevents]

theorem contains_foundIn_attempts (turns : List (Codec × Turn)) (codec : Codec) :
    (foundIn .empty (attempts turns)).contains codec = true ↔
      ∃ turn, (codec, turn) ∈ turns ∧ turn.attempt.opens = true := by
  rw [contains_foundIn, CodecSet.contains_empty]
  simp [attempts]

theorem events_probe :
    ∃ turns : List (Codec × Turn), turns.map Prod.fst = Codec.all ∧
      library.probe.value = foundIn .empty (attempts turns) ∧
      library.probe.events =
        (turns.flatMap fun one => one.2.events library.script.table one.1) ++ unload.events := by
  obtain ⟨turns, hturns, hfound, hevents⟩ :=
    library.events_foldlM_tryCodec Codec.all .empty {}
  have hrelease : ∀ progress, (library.runtime.release.run progress).events = unload.events :=
    fun _ => rfl
  refine ⟨turns, hturns, ?_, ?_⟩
  · simpa [Library.probe, CodecRuntime.probe] using hfound
  · simp [Library.probe, CodecRuntime.probe, hevents, hrelease]

/-! ## Calls and records apart -/

theorem Turn.call?_events (table : OperationTable) (codec : Codec) (turn : Turn) :
    (turn.events table codec).filterMap Event.call? = turn.calls table codec := by
  have hcall : ∀ call : LibraryCall,
      (call.events table codec).filterMap Event.call? = [call] := by
    intro call
    simp [LibraryCall.events, Event.call?, List.filterMap_map, Function.comp_def]
  simp [Turn.events, List.filterMap_flatMap, hcall]

theorem Turn.record?_events (table : OperationTable) (codec : Codec) (turn : Turn) :
    (turn.events table codec).filterMap Event.record? =
      (turn.calls table codec).flatMap (LibraryCall.records table codec) := by
  have hcall : ∀ call : LibraryCall,
      (call.events table codec).filterMap Event.record? = call.records table codec := by
    intro call
    simp [LibraryCall.events, List.filterMap_cons, Event.record?, List.filterMap_map,
      Function.comp_def]
  simp [Turn.events, List.filterMap_flatMap, hcall]

end Library

/-! ## From loading to unloading -/

namespace Loader

open Library

variable {loader : Loader} {name file : String} {object : SharedObject}

theorem events_probe_complete (hfind : loader.find name = .ok (file, object))
    (hcomplete : ∀ entry, object.exported entry = true) :
    (loader.probe name).events =
      .log ⟨.debug, .library, "loaded " ++ name⟩ :: (Library.probe ⟨object.script⟩).events := by
  simp [probe, load_complete hfind hcomplete]

/--
The log of a probe of a complete library is decided by its calls.  Every codec has
its turn; the records of a turn are those of its calls, in their order, and nothing
else is logged between the record of loading and that of unloading.
-/
theorem probe_reports (hfind : loader.find name = .ok (file, object))
    (hcomplete : ∀ entry, object.exported entry = true) :
    let table := object.script.table
    let loaded : Record := ⟨.debug, .library, "loaded " ++ name⟩
    let unloading : Record := ⟨.debug, .library, "unloading librockchip_mpp.so"⟩
    let run := loader.probe name
    ∃ (found : CodecSet) (turns : List (Codec × Turn)),
      turns.map Prod.fst = Codec.all ∧
      run.value = .ok found ∧
      (∀ codec, found.contains codec = true ↔
        ∃ turn, (codec, turn) ∈ turns ∧ turn.attempt.opens = true) ∧
      run.calls = turns.flatMap (fun one => one.2.calls table one.1) ∧
      run.log = loaded :: turns.flatMap (fun one =>
        (one.2.calls table one.1).flatMap (LibraryCall.records table one.1)) ++ [unloading] ∧
      run.events = .log loaded :: turns.flatMap (fun one =>
        (one.2.calls table one.1).flatMap (LibraryCall.events table one.1)) ++ [.log unloading] := by
  intro table loaded unloading run
  obtain ⟨turns, hturns, hfound, hevents⟩ := Library.events_probe ⟨object.script⟩
  have hrun : run.events = .log loaded :: turns.flatMap (fun one => one.2.events table one.1) ++
      [.log unloading] := by
    rw [show run.events = _ from events_probe_complete hfind hcomplete, hevents]
    rfl
  refine ⟨_, turns, hturns, value_probe_complete hfind hcomplete, ?_, ?_, ?_, hrun⟩
  · intro codec
    rw [hfound, contains_foundIn_attempts]
  · simp [Traced.calls, hrun, List.filterMap_cons, Event.call?, List.filterMap_flatMap,
      Turn.call?_events]
  · simp [Traced.log, hrun, Event.record?, List.filterMap_flatMap, Turn.record?_events]

/-- Every kind of call fails for one of the codecs. -/
def faltering : SharedObject where
  exported := fun _ => true
  script := { create := [-1], check := [-2], init := [0, -3], reset := [7], destroy := [-5] }

theorem probe_reports_faltering :
    let loader : Loader := fun _ => .ok faltering
    let run := loader.probe fileName
    loader.find fileName = .ok (fileName, faltering) ∧
      (∀ entry, faltering.exported entry = true) ∧
      (∃ (found : CodecSet) (turns : List (Codec × Turn)), turns.map Prod.fst = Codec.all ∧
        run.value = .ok found ∧
        run.calls = turns.flatMap (fun one => one.2.calls .complete one.1) ∧
        run.log = ⟨.debug, .library, "loaded librockchip_mpp.so"⟩ :: turns.flatMap (fun one =>
          (one.2.calls .complete one.1).flatMap (LibraryCall.records .complete one.1)) ++
            [⟨.debug, .library, "unloading librockchip_mpp.so"⟩]) ∧
      run.log.map Record.message =
        ["loaded librockchip_mpp.so", "can not create mpp context for codec id 0x7 (-1)",
         "mpp does not support codec id 0x9 (-2)", "mpp decodes VP9", "mpp reset returned 7",
         "mpp destroy returned -5", "mpp can not init codec id 0x1000008 (-3)",
         "unloading librockchip_mpp.so"] := by
  intro loader run
  have hfind : loader.find fileName = .ok (fileName, faltering) := rfl
  have hcomplete : ∀ entry, faltering.exported entry = true := fun _ => rfl
  obtain ⟨found, turns, hturns, hvalue, -, hcalls, hlog, -⟩ := probe_reports hfind hcomplete
  exact ⟨hfind, hcomplete, ⟨found, turns, hturns, hvalue, hcalls, hlog⟩, by decide +kernel⟩

end Loader

end DecodeProbe
