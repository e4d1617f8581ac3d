import DecodeProbe.Library.Session
import DecodeProbe.Proofs.Library.Calls
import DecodeProbe.Proofs.Library.Refinement

/-!
# Contexts of a session

Contexts are numbered by the calls that ask for one and slots by the calls that are
given one, so the two drift apart with every refusal.  The calls made so far decide
what each slot holds: the context of its own successful call, until that context is
destroyed.  Since steps reach contexts through slots only, none is used before it was
made or after it was destroyed.
-/

namespace DecodeProbe

namespace Library

/-! ## What a step does -/

/-- The slot that a step names. -/
@[simp] def Step.slot? : Step → Option Nat
  | .create | .check _ => none
  | .init slot _ | .reset slot | .destroy slot => some slot

/-- The calls of a step on a slot that holds the context. -/
def Step.callsOn (context : Context) (ret : Int) : Step → List LibraryCall
  | .create | .check _ => []
  | .init _ codec => [.init context.number codec ret]
  | .reset _ => if context.table = .complete then [.reset context.number ret] else []
  | .destroy _ => [.destroy context.number ret]

section

variable {session : Session} {slot : Nat} {context : Context}

@[simp] theorem value_run_within {α : Type} (operation : Stateful Script.Progress LibraryCall α)
    (session : Session) :
    ((within operation).run session).value =
      ((operation.run session.progress).value.1,
        { session with progress := (operation.run session.progress).value.2 }) := rfl

@[simp] theorem calls_run_within {α : Type} (operation : Stateful Script.Progress LibraryCall α)
    (session : Session) :
    ((within operation).run session).calls = (operation.run session.progress).calls :=
  congrArg (List.filterMap Event.call?) (List.append_nil _)

theorem run_withSlot_of_empty (hempty : session.holding slot = none)
    (use : Context → Stateful Session LibraryCall Answer) :
    (withSlot slot use).run session = ⟨(.missing, session), []⟩ := by
  simp [withSlot, hempty]
  rfl

theorem run_withSlot_of_held (hheld : session.holding slot = some context)
    (use : Context → Stateful Session LibraryCall Answer) :
    (withSlot slot use).run session = (use context).run session := by
  simp [withSlot, hheld]

theorem run_perform_of_empty (library : Library) {step : Step} (hslot : step.slot? = some slot)
    (hempty : session.holding slot = none) :
    (library.perform step).run session = ⟨(.missing, session), []⟩ := by
  cases step with
  | create | check => cases hslot
  | init | reset | destroy =>
      obtain rfl := Option.some.inj hslot
      exact run_withSlot_of_empty hempty _

end

/-- The slots and the count of contexts are as they were. -/
structure Session.Same (session next : Session) : Prop where
  slots : next.slots = session.slots
  created : next.progress.created = session.progress.created

/-- What a step may do: the calls it makes and the session it leaves. -/
inductive Effect (library : Library) (session : Session) :
    Step → List LibraryCall → Session → Prop where
  | made {next : Session} (hcreated : next.progress.created = session.progress.created + 1)
      (hslots : next.slots =
        session.slots ++ [some ⟨session.progress.created + 1, library.script.table⟩]) :
      Effect library session .create
        [.create (session.progress.created + 1) successCode] next
  | refused {next : Session} (hcreated : next.progress.created = session.progress.created + 1)
      (hslots : next.slots = session.slots) {ret : Int} (hret : ret ≠ successCode) :
      Effect library session .create [.create (session.progress.created + 1) ret] next
  | checked {next : Session} (hsame : session.Same next) (codec : Codec) (ret : Int) :
      Effect library session (.check codec) [.check codec ret] next
  | missing {step : Step} {slot : Nat} (hslot : step.slot? = some slot)
      (hempty : session.holding slot = none) : Effect library session step [] session
  | initialised {next : Session} (hsame : session.Same next) {slot : Nat} {context : Context}
      (hheld : session.holding slot = some context) (codec : Codec) (ret : Int) :
      Effect library session (.init slot codec) [.init context.number codec ret] next
  | reset {next : Session} (hsame : session.Same next) {slot : Nat} {context : Context}
      (hheld : session.holding slot = some context) (ret : Int) :
      Effect library session (.reset slot)
        (if context.table = .complete then [.reset context.number ret] else []) next
  | destroyed {next : Session} (hcreated : next.progress.created = session.progress.created)
      {slot : Nat} (hslots : next.slots = session.slots.set slot none) {context : Context}
      (hheld : session.holding slot = some context) (ret : Int) :
      Effect library session (.destroy slot) [.destroy context.number ret] next

theorem created_run_reset (library : Library) (context : Context) (progress : Script.Progress) :
    ((library.reset context).run progress).value.2.created = progress.created := by
  rw [← Script.Progress.created_plain, plain_run_reset, Script.Progress.created_plain]

theorem effect_create (library : Library) (session : Session) :
    let run := (library.perform .create).run session
    Effect library session .create run.calls run.value.2 := by
  intro run
  by_cases hret : library.script.create[session.progress.created]?.getD 0 = 0
  · have hcalls : run.calls = [.create (session.progress.created + 1) successCode] := by
      simp [run, perform, Script.outcome, hret, successCode]
    rw [hcalls]
    refine .made ?_ ?_ <;> simp [run, perform, Script.outcome, hret]
  · have hcalls : run.calls = [.create (session.progress.created + 1)
        (library.script.create[session.progress.created]?.getD 0)] := by
      simp [run, perform, Script.outcome, hret]
    rw [hcalls]
    refine .refused ?_ ?_ hret <;> simp [run, perform, Script.outcome, hret]

theorem effect_of_held (library : Library) {session : Session} {step : Step} {slot : Nat}
    {context : Context} (hslot : step.slot? = some slot)
    (hheld : session.holding slot = some context) :
    let run := (library.perform step).run session
    Effect library session step run.calls run.value.2 := by
  intro run
  have hrun : ∀ use : Context → Stateful Session LibraryCall Answer,
      (withSlot slot use).run session = (use context).run session := run_withSlot_of_held hheld
  cases step with
  | create | check => cases hslot
  | init named codec =>
      obtain rfl : named = slot := Option.some.inj hslot
      have hcalls : run.calls = [.init context.number codec
          (library.script.init[session.progress.initialised]?.getD 0)] := by
        simp [run, perform, hrun]
      rw [hcalls]
      refine .initialised ⟨?_, ?_⟩ hheld codec _ <;> simp [run, perform, hrun]
  | reset named =>
      obtain rfl : named = slot := Option.some.inj hslot
      have hcalls : run.calls = if context.table = .complete then [.reset context.number
          (library.script.reset[session.progress.resets]?.getD 0)] else [] := by
        simp [run, perform, hrun]
      rw [hcalls]
      refine .reset ⟨?_, ?_⟩ hheld _
      · simp [run, perform, hrun]
      · simp [run, perform, hrun, created_run_reset]
  | destroy named =>
      obtain rfl : named = slot := Option.some.inj hslot
      have hcalls : run.calls = [.destroy context.number
          (library.script.destroy[session.progress.destroyed]?.getD 0)] := by
        simp [run, perform, hrun]
      rw [hcalls]
      refine .destroyed ?_ ?_ hheld _
      · simp only [run, perform, hrun]
        rfl
      · simp [run, perform, hrun]

theorem effect_perform (library : Library) (session : Session) (step : Step) :
    let run := (library.perform step).run session
    Effect library session step run.calls run.value.2 := by
  intro run
  cases hslot : step.slot? with
  | none =>
      cases step with
      | create => exact library.effect_create session
      | check codec =>
          have hcalls : run.calls = [.check codec
              (library.script.check[session.progress.checked]?.getD 0)] := by
            simp [run, perform]
          rw [hcalls]
          refine .checked ⟨?_, ?_⟩ codec _ <;> simp [run, perform]
      | init | reset | destroy => cases hslot
  | some slot =>
      cases hholding : session.holding slot with
      | none =>
          rw [show run = _ from library.run_perform_of_empty hslot hholding]
          exact .missing hslot hholding
      | some context => exact library.effect_of_held hslot hholding

/-! ## Sessions -/

/-- What the slots hold, by the calls made so far. -/
def slotsOf (table : OperationTable) (calls : List LibraryCall) : List (Option Context) :=
  (made calls).map fun context =>
    if context ∈ destroyed calls then none else some ⟨context, table⟩

/-- The session that the calls have led to. -/
structure Session.Follows (session : Session) (table : OperationTable)
    (calls : List LibraryCall) : Prop where
  asked : asked calls = List.range' 1 session.progress.created
  slots : session.slots = slotsOf table calls
  used : UsedWhileOpen calls

theorem slotsOf_concat_of_kept (table : OperationTable) (calls : List LibraryCall)
    {call : LibraryCall} (hmade : call.made? = none) (hdestroyed : call.destroyed? = none) :
    slotsOf table (calls ++ [call]) = slotsOf table calls := by
  rw [slotsOf, made_concat, destroyed_concat, hmade, hdestroyed, Option.toList_none,
    List.append_nil, List.append_nil, slotsOf]

theorem slotsOf_concat_create (table : OperationTable) {calls : List LibraryCall} {context : Nat}
    (hfresh : context ∉ destroyed calls) :
    slotsOf table (calls ++ [.create context successCode]) =
      slotsOf table calls ++ [some ⟨context, table⟩] := by
  simp [slotsOf, hfresh]

theorem slotsOf_concat_destroy (table : OperationTable) {calls : List LibraryCall}
    {context slot : Nat} (hnodup : (made calls).Nodup)
    (hslot : (made calls)[slot]? = some context) (ret : Int) :
    slotsOf table (calls ++ [.destroy context ret]) = (slotsOf table calls).set slot none := by
  apply List.ext_getElem?
  intro index
  have hmade : made (calls ++ [.destroy context ret]) = made calls := by simp
  have hdestroyed : destroyed (calls ++ [.destroy context ret]) = destroyed calls ++ [context] := by
    simp
  obtain ⟨hlength, -⟩ := List.getElem?_eq_some_iff.mp hslot
  rw [slotsOf, hmade, hdestroyed, slotsOf, List.getElem?_set, List.length_map, List.getElem?_map,
    List.getElem?_map]
  by_cases hindex : slot = index
  · rw [if_pos hindex, if_pos hlength, ← hindex, hslot]
    simp
  · rw [if_neg hindex]
    cases hother : (made calls)[index]? with
    | none => rfl
    | some other =>
        -- another slot holds another context
        have hne : other ≠ context := by
          rintro rfl
          exact hindex ((List.getElem?_inj hlength hnodup).mp (hslot.trans hother.symm))
        simp [hne]

namespace Session.Follows

variable {session next : Session} {table : OperationTable} {calls : List LibraryCall}

theorem empty (table : OperationTable) : Session.Follows {} table [] where
  asked := rfl
  slots := rfl
  used := usedWhileOpen_nil

section

variable (hfollows : session.Follows table calls)

include hfollows

theorem nodup_asked : (Library.asked calls).Nodup := by
  rw [hfollows.asked]
  exact List.nodup_range'

theorem nodup_made : (made calls).Nodup := (made_sublist_asked calls).nodup hfollows.nodup_asked

theorem fresh : session.progress.created + 1 ∉ made calls := by
  intro hmem
  have hasked := (made_sublist_asked calls).subset hmem
  rw [hfollows.asked, List.mem_range'_1] at hasked
  omega

theorem destroyed_subset_made : destroyed calls ⊆ made calls := by
  intro context hmem
  obtain ⟨ret, hcall⟩ := mem_destroyed.mp hmem
  exact hfollows.used.mem_made hcall rfl

theorem of_holding {slot : Nat} {context : Context} (hheld : session.holding slot = some context) :
    (made calls)[slot]? = some context.number ∧ context.number ∉ destroyed calls ∧
      context.table = table := by
  rw [Session.holding, Option.join_eq_some_iff, hfollows.slots, slotsOf, List.getElem?_map,
    Option.map_eq_some_iff] at hheld
  obtain ⟨number, hmade, hopen⟩ := hheld
  split at hopen
  · cases hopen
  · next hlive =>
    obtain rfl := Option.some.inj hopen
    exact ⟨hmade, hlive, rfl⟩

/-- The context in a slot may be used. -/
theorem usable {slot : Nat} {context : Context} (hheld : session.holding slot = some context) :
    context.number ∈ made calls ∧ context.number ∉ destroyed calls := by
  obtain ⟨hmade, hlive, -⟩ := hfollows.of_holding hheld
  exact ⟨List.mem_of_getElem? hmade, hlive⟩

theorem asked_concat_create (hcreated : next.progress.created = session.progress.created + 1)
    (ret : Int) :
    Library.asked (calls ++ [.create (session.progress.created + 1) ret]) =
      List.range' 1 next.progress.created := by
  rw [hcreated, List.range'_concat, ← hfollows.asked]
  simp [Nat.add_comm]

theorem concat_made (hcreated : next.progress.created = session.progress.created + 1)
    (hslots : next.slots = session.slots ++ [some ⟨session.progress.created + 1, table⟩]) :
    next.Follows table (calls ++ [.create (session.progress.created + 1) successCode]) where
  asked := hfollows.asked_concat_create hcreated successCode
  slots := by
    have hlive := fun hmem => hfollows.fresh (hfollows.destroyed_subset_made hmem)
    rw [hslots, hfollows.slots, slotsOf_concat_create table hlive]
  used := usedWhileOpen_concat.mpr ⟨hfollows.used, by simp⟩

theorem concat_refused (hcreated : next.progress.created = session.progress.created + 1)
    (hslots : next.slots = session.slots) {ret : Int} (hret : ret ≠ successCode) :
    next.Follows table (calls ++ [.create (session.progress.created + 1) ret]) where
  asked := hfollows.asked_concat_create hcreated ret
  slots := by
    have hmade : (LibraryCall.create (session.progress.created + 1) ret).made? = none :=
      if_neg hret
    rw [hslots, hfollows.slots, slotsOf_concat_of_kept table calls hmade rfl]
  used := usedWhileOpen_concat.mpr ⟨hfollows.used, by simp⟩

theorem same (hsame : session.Same next) : next.Follows table calls where
  asked := by rw [hsame.created, hfollows.asked]
  slots := by rw [hsame.slots, hfollows.slots]
  used := hfollows.used

/-- A call that neither asks for a context nor destroys one. -/
theorem concat_kept {call : LibraryCall} (hasked : call.asked? = none)
    (hdestroyed : call.destroyed? = none)
    (hused : ∀ context, call.used? = some context →
      context ∈ made calls ∧ context ∉ destroyed calls) :
    session.Follows table (calls ++ [call]) where
  asked := by rw [Library.asked_concat, hasked, Option.toList_none, List.append_nil, hfollows.asked]
  slots := by
    have hmade := LibraryCall.made?_eq_none hasked
    rw [hfollows.slots, slotsOf_concat_of_kept table calls hmade hdestroyed]
  used := usedWhileOpen_concat.mpr ⟨hfollows.used, hused⟩

theorem concat_destroyed (hcreated : next.progress.created = session.progress.created) {slot : Nat}
    (hslots : next.slots = session.slots.set slot none) {context : Context}
    (hheld : session.holding slot = some context) (ret : Int) :
    next.Follows table (calls ++ [.destroy context.number ret]) where
  asked := by simp [hcreated, hfollows.asked]
  slots := by
    obtain ⟨hslot, -, -⟩ := hfollows.of_holding hheld
    rw [hslots, hfollows.slots, slotsOf_concat_destroy table hfollows.nodup_made hslot]
  used := by
    refine usedWhileOpen_concat.mpr ⟨hfollows.used, ?_⟩
    rintro _ ⟨⟩
    exact hfollows.usable hheld

end

/-- A step takes the calls that it makes along. -/
theorem perform {library : Library} (hfollows : session.Follows library.script.table calls)
    (step : Step) :
    let run := (library.perform step).run session
    run.value.2.Follows library.script.table (calls ++ run.calls) := by
  intro run
  have heffect : Effect library session step run.calls run.value.2 :=
    library.effect_perform session step
  generalize run.calls = more, run.value.2 = next at heffect ⊢
  cases heffect with
  | made hcreated hslots => exact hfollows.concat_made hcreated hslots
  | refused hcreated hslots hret => exact hfollows.concat_refused hcreated hslots hret
  | checked hsame codec ret => exact (hfollows.same hsame).concat_kept rfl rfl (by simp)
  | missing hslot hempty => rwa [List.append_nil]
  | initialised hsame hheld codec ret =>
      refine (hfollows.same hsame).concat_kept rfl rfl ?_
      rintro _ ⟨⟩
      exact hfollows.usable hheld
  | reset hsame hheld ret =>
      split
      · refine (hfollows.same hsame).concat_kept rfl rfl ?_
        rintro _ ⟨⟩
        exact hfollows.usable hheld
      · rw [List.append_nil]
        exact hfollows.same hsame
  | destroyed hcreated hslots hheld ret => exact hfollows.concat_destroyed hcreated hslots hheld ret

end Session.Follows

/-- The session that steps leave. -/
def after (library : Library) (session : Session) (steps : List Step) : Session :=
  steps.foldl (fun session step => ((library.perform step).run session).value.2) session

theorem after_concat (library : Library) (session : Session) (steps : List Step) (step : Step) :
    library.after session (steps ++ [step]) =
      ((library.perform step).run (library.after session steps)).value.2 := by
  rw [after, List.foldl_concat, after]

theorem performAll_concat (library : Library) (session : Session) (steps : List Step)
    (step : Step) :
    let run := (library.perform step).run (library.after session steps)
    library.performAll session (steps ++ [step]) =
      library.performAll session steps ++ [⟨run.value.1, run.events⟩] := by
  induction steps generalizing session with
  | nil => rfl
  | cons first steps ih => exact congrArg (List.cons _) (ih _)

theorem follows_after (library : Library) (steps : List Step) :
    (library.after {} steps).Follows library.script.table
      ((library.performAll {} steps).flatMap Traced.calls) := by
  induction steps using List.reverseRecOn with
  | nil => exact .empty library.script.table
  | append_singleton steps step ih =>
      rw [after_concat, performAll_concat, List.flatMap_append, List.flatMap_singleton]
      exact ih.perform step

/-! ## One more step -/

namespace Effect

variable {library : Library} {session next : Session} {step : Step} {calls : List LibraryCall}
  {slot : Nat} {context : Context}

theorem slots_of_create (heffect : Effect library session .create calls next) :
    ∃ context ret, calls = [.create context ret] ∧ next.slots = session.slots ++
      if ret = successCode then [some ⟨context, library.script.table⟩] else [] := by
  cases heffect with
  | made hcreated hslots => exact ⟨_, _, rfl, hslots⟩
  | refused hcreated hslots hret =>
      exact ⟨_, _, rfl, by rw [if_neg hret, List.append_nil, hslots]⟩
  | missing hslot => cases hslot

theorem calls_of_held (heffect : Effect library session step calls next)
    (hslot : step.slot? = some slot) (hheld : session.holding slot = some context) :
    ∃ ret, calls = step.callsOn context ret := by
  cases heffect with
  | made | refused | checked => cases hslot
  | missing hnamed hempty =>
      obtain rfl := Option.some.inj (hnamed.symm.trans hslot)
      cases hempty.symm.trans hheld
  | initialised hsame hheld' codec ret
  | reset hsame hheld' ret
  | destroyed hcreated hslots hheld' ret =>
      obtain rfl := Option.some.inj hslot
      obtain rfl := Option.some.inj (hheld'.symm.trans hheld)
      exact ⟨ret, rfl⟩

theorem holding_of_ne (heffect : Effect library session step calls next)
    (hslot : step.slot? = some slot) {other : Nat} (hne : other ≠ slot) :
    next.holding other = session.holding other := by
  cases heffect with
  | made | refused | checked => cases hslot
  | missing => rfl
  | initialised hsame | reset hsame => rw [Session.holding, hsame.slots, Session.holding]
  | destroyed hcreated hslots =>
      obtain rfl := Option.some.inj hslot
      rw [Session.holding, hslots, List.getElem?_set_ne hne.symm, Session.holding]

end Effect

/--
Over all steps on a loaded library, a context is used only after the call that made it
and before the one that destroys it, and so destroyed once at most.  Each slot stands
for one successful call and holds its context until that is destroyed.  A step on a slot
that holds nothing does nothing, a step on any other calls with the context in it, and
neither touches the other slots.
-/
theorem contexts_used_while_open (library : Library) (steps : List Step) :
    let calls := (library.performAll {} steps).flatMap Traced.calls
    let session := library.after {} steps
    let run := fun step => (library.perform step).run session
    session.slots = (made calls).map (fun context =>
      if context ∈ destroyed calls then none else some ⟨context, library.script.table⟩) ∧
    (∀ before call later, calls = before ++ call :: later →
      ∀ context, call.used? = some context →
        .create context successCode ∈ before ∧ ∀ ret, .destroy context ret ∉ before) ∧
    (destroyed calls).Nodup ∧
    (∀ context ret, .create context ret ∈ calls → ret ≠ successCode →
      ∀ call ∈ calls, call.used? ≠ some context) ∧
    (∃ context ret, (run .create).calls = [.create context ret] ∧
      (run .create).value.2.slots = session.slots ++
        if ret = successCode then [some ⟨context, library.script.table⟩] else []) ∧
    (∀ step slot, step.slot? = some slot → session.holding slot = none →
      run step = ⟨(.missing, session), []⟩) ∧
    (∀ slot context, session.holding slot = some context →
      (∀ codec, ∃ ret, (run (.init slot codec)).calls = [.init context.number codec ret]) ∧
      (∃ ret, (run (.reset slot)).calls =
        if context.table = .complete then [.reset context.number ret] else []) ∧
      (∃ ret, (run (.destroy slot)).calls = [.destroy context.number ret])) ∧
    (∀ step slot, step.slot? = some slot → ∀ other, other ≠ slot →
      (run step).value.2.holding other = session.holding other) := by
  intro calls session run
  have hfollows : session.Follows library.script.table calls := library.follows_after steps
  have heffect : ∀ step, Effect library session step (run step).calls (run step).value.2 :=
    library.effect_perform session
  refine ⟨hfollows.slots, ?_, hfollows.used.nodup_destroyed, ?_, (heffect .create).slots_of_create,
    ?_, ?_, ?_⟩
  · intro before call later hsplit context hused
    obtain ⟨hmade, hopen⟩ := hfollows.used before call later hsplit context hused
    exact ⟨mem_made.mp hmade, fun ret hmem => hopen (mem_destroyed.mpr ⟨ret, hmem⟩)⟩
  · intro context ret hmem hret call hcall hused
    exact notMem_made_of_failed hfollows.nodup_asked hmem hret (hfollows.used.mem_made hcall hused)
  · intro step slot hslot hempty
    exact library.run_perform_of_empty hslot hempty
  · intro slot context hheld
    refine ⟨fun codec => ?_, ?_, ?_⟩
    · exact (heffect (.init slot codec)).calls_of_held rfl hheld
    · exact (heffect (.reset slot)).calls_of_held rfl hheld
    · exact (heffect (.destroy slot)).calls_of_held rfl hheld
  · intro step slot hslot other hne
    exact (heffect step).holding_of_ne hslot hne

/-- The first context is refused, so slots and numbers differ, and the second one is destroyed. -/
theorem contexts_used_while_open_drifting :
    let library : Library := ⟨{ create := [-1], destroy := [-5], table := .withoutReset }⟩
    let steps : List Step := [.create, .create, .init 0 .h264, .destroy 0, .create]
    let before : List LibraryCall := [.create 1 (-1), .create 2 0, .init 2 .h264 0]
    let calls := (library.performAll {} steps).flatMap Traced.calls
    let session := library.after {} steps
    let run := fun step => (library.perform step).run session
    (calls = before ++ .destroy 2 (-5) :: [.create 3 0] ∧
      .create 2 successCode ∈ before ∧ ∀ ret, .destroy 2 ret ∉ before) ∧
    (.create 1 (-1) ∈ calls ∧ ∀ call ∈ calls, call.used? ≠ some 1) ∧
    (session.holding 0 = none ∧ run (.init 0 .vp8) = ⟨(.missing, session), []⟩) ∧
    (session.holding 1 = some ⟨3, .withoutReset⟩ ∧ (run (.reset 1)).calls = []) ∧
    (run (.destroy 1)).value.2.holding 0 = session.holding 0 := by
  intro library steps before calls session run
  obtain ⟨-, hused, -, hfailed, -, hmissing, hheld, hother⟩ := contexts_used_while_open library steps
  have hcalls : calls = before ++ .destroy 2 (-5) :: [.create 3 0] := by decide
  have hrefused : .create 1 (-1) ∈ calls := by decide
  have hempty : session.holding 0 = none := by decide
  have hholding : session.holding 1 = some ⟨3, .withoutReset⟩ := by decide
  obtain ⟨-, ⟨ret, hreset⟩, -⟩ := hheld 1 _ hholding
  exact ⟨⟨hcalls, hused _ _ _ hcalls 2 rfl⟩, ⟨hrefused, hfailed 1 (-1) hrefused (by decide)⟩,
    ⟨hempty, hmissing _ 0 rfl hempty⟩, ⟨hholding, hreset⟩, hother _ 1 rfl 0 (by decide)⟩

end Library

end DecodeProbe
