import DecodeProbe.Device
import DecodeProbe.Proofs.Node.Queries
import Mathlib.Data.List.Forall2

/-!
# Sessions on a device

A path is tried once for each interruption and once more, and is open for as long
as the session lasts: every step asks queries only, and one call to close comes
at the very end.  A step finds a device as every other step does, so what it does
in a session it does alone.
-/

namespace DecodeProbe

open DecodeProbe.Text.Utf8 (Bytes)

@[simp] theorem Event.call?_comp_call {κ : Type} : (call? ∘ call : κ → Option κ) = some := rfl

namespace Device

open Traced

/-! ## Opening -/

/-- How many calls to open are interrupted before one is not. -/
def interruptions (opens : List (Option Errno)) : Nat :=
  (opens.takeWhile (· = some .interrupted)).length

/-- How the first call that is not interrupted fails, if it does. -/
def refusal? (opens : List (Option Errno)) : Option Errno := opens[interruptions opens]?.join

/-- Every call opens for reading and writing, without blocking. -/
def openCalls (opens : List (Option Errno)) : List NodeCall :=
  List.replicate (interruptions opens + 1) (.openNode true true)

section

variable {answer : Option Errno} {opens later : List (Option Errno)}

theorem interruptions_interrupted (later : List (Option Errno)) :
    interruptions (some .interrupted :: later) = interruptions later + 1 := by
  simp [interruptions]

theorem interruptions_of_ne (hanswer : answer ≠ some .interrupted) :
    interruptions (answer :: later) = 0 := by
  simp [interruptions, hanswer]

theorem refusal?_interrupted (later : List (Option Errno)) :
    refusal? (some .interrupted :: later) = refusal? later := by
  rw [refusal?, interruptions_interrupted, List.getElem?_cons_succ, refusal?]

theorem refusal?_of_ne (hanswer : answer ≠ some .interrupted) :
    refusal? (answer :: later) = answer := by
  rw [refusal?, interruptions_of_ne hanswer, List.getElem?_cons_zero, Option.join_some]

theorem openCalls_interrupted (later : List (Option Errno)) :
    openCalls (some .interrupted :: later) = .openNode true true :: openCalls later := by
  rw [openCalls, interruptions_interrupted, List.replicate_succ, openCalls]

theorem openCalls_of_ne (hanswer : answer ≠ some .interrupted) :
    openCalls (answer :: later) = [.openNode true true] := by
  rw [openCalls, interruptions_of_ne hanswer, List.replicate_one]

theorem acquire_eq (opens : List (Option Errno)) :
    acquire opens =
      ⟨match refusal? opens with
        | none => .ok ()
        | some errno => .error errno, (openCalls opens).map .call⟩ := by
  induction opens with
  | nil => rfl
  | cons answer later ih =>
      by_cases hanswer : answer = some .interrupted
      · subst hanswer
        rw [refusal?_interrupted, openCalls_interrupted]
        apply Traced.ext
        · simp [acquire, ih]
        · simp [acquire, ih]
      · rw [refusal?_of_ne hanswer, openCalls_of_ne hanswer]
        cases answer with
        | none => rfl
        | some errno =>
            have hother : errno ≠ .interrupted := fun heq => hanswer (congrArg some heq)
            simp only [acquire, if_neg hother]
            rfl

end

section

variable {kernel : Kernel} {path : Bytes}

theorem openPath_of_nul (hpath : 0 ∈ path) :
    openPath kernel path = ⟨.error (.open path .nulInPath), []⟩ := by
  rw [openPath, if_pos hpath]
  rfl

theorem openPath_of_refusal {errno : Errno} (hpath : 0 ∉ path)
    (hopen : refusal? kernel.opens = some errno) :
    openPath kernel path =
      ⟨.error (.open path (.os errno)), (openCalls kernel.opens).map .call⟩ := by
  rw [openPath, if_neg hpath, acquire_eq, hopen]
  exact Traced.ext rfl (List.append_nil _)

/-- The record of a path that could be opened. -/
def openedRecord (path : Bytes) : Log.Record :=
  ⟨.debug, .device, "opened " ++ Text.Utf8.shown path⟩

theorem openPath_of_open (hpath : 0 ∉ path) (hopen : refusal? kernel.opens = none) :
    openPath kernel path =
      ⟨.ok ⟨kernel, path⟩,
        (openCalls kernel.opens).map .call ++ [.log (openedRecord path)]⟩ := by
  rw [openPath, if_neg hpath, acquire_eq, hopen]
  rfl

end

/-! ## Steps -/

theorem isQuery_of_mem_perform {device : Device} {step : Step} {call : NodeCall}
    (hmem : call ∈ (device.perform step).calls) : call.IsQuery := by
  cases step with
  | query =>
      obtain rfl : call = .queryCapabilities := by simpa [perform] using hmem
      exact .capabilities
  | enumFormat queue index =>
      obtain rfl : call = .enumFormat queue index := by simpa [perform] using hmem
      exact .format queue index
  | scan queue =>
      rw [perform, calls_map, Node.calls_supportedFormats] at hmem
      exact Node.isQuery_of_mem_queries hmem
  | check =>
      rw [perform, calls_map] at hmem
      exact Node.isQuery_of_mem_check hmem

/-! ## Sessions -/

/-- The first stage of a session on a path that could be opened. -/
def opening (opens : List (Option Errno)) (path : Bytes) : Traced NodeCall Stage :=
  ⟨.opened path, (openCalls opens).map .call ++ [.log (openedRecord path)]⟩

def closing : Traced NodeCall Stage := ⟨.closed, [.call .close]⟩

/-- One stage for each step, in order. -/
def answers (device : Device) (steps : List Step) : List (Traced NodeCall Stage) :=
  steps.map fun step => Stage.answered <$> device.perform step

section

variable {kernel : Kernel} {path : Bytes}

theorem session_of_nul (hpath : 0 ∈ path) (steps : List Step) :
    session kernel path steps = [⟨.refused (.open path .nulInPath), []⟩] := by
  rw [session, openPath_of_nul hpath]

theorem session_of_refusal {errno : Errno} (hpath : 0 ∉ path)
    (hopen : refusal? kernel.opens = some errno) (steps : List Step) :
    session kernel path steps =
      [⟨.refused (.open path (.os errno)), (openCalls kernel.opens).map .call⟩] := by
  rw [session, openPath_of_refusal hpath hopen]

theorem session_of_open (hpath : 0 ∉ path) (hopen : refusal? kernel.opens = none)
    (steps : List Step) :
    session kernel path steps =
      opening kernel.opens path :: answers ⟨kernel, path⟩ steps ++ [closing] := by
  rw [session, openPath_of_open hpath hopen]
  rfl

theorem isQuery_of_mem_answers {device : Device} {steps : List Step} {stage : Traced NodeCall Stage}
    (hstage : stage ∈ answers device steps) {call : NodeCall} (hcall : call ∈ stage.calls) :
    call.IsQuery := by
  obtain ⟨step, -, rfl⟩ := List.mem_map.mp hstage
  rw [calls_map] at hcall
  exact isQuery_of_mem_perform hcall

theorem calls_opening (opens : List (Option Errno)) (path : Bytes) :
    (opening opens path).calls = openCalls opens := by
  simp [opening, calls, Event.call?]

/-- A step alone, on a device that was opened for it. -/
theorem session_singleton (hpath : 0 ∉ path) {fresh : List (Option Errno)}
    (hfresh : refusal? fresh = none) (step : Step) :
    session { kernel with opens := fresh } path [step] =
      [opening fresh path, Stage.answered <$> perform ⟨kernel, path⟩ step, closing] := by
  have hstep : perform ⟨{ kernel with opens := fresh }, path⟩ step =
      perform ⟨kernel, path⟩ step := by
    cases step <;> rfl
  rw [session_of_open hpath hfresh, answers, List.map_singleton, hstep]
  rfl

theorem forall₂_answers (hpath : 0 ∉ path) (steps : List Step) :
    List.Forall₂ (fun step stage => ∀ fresh, refusal? fresh = none →
        session { kernel with opens := fresh } path [step] = [opening fresh path, stage, closing])
      steps (answers ⟨kernel, path⟩ steps) := by
  induction steps with
  | nil => exact .nil
  | cons step steps ih =>
      refine .cons ?_ ih
      intro fresh hfresh
      exact session_singleton hpath hfresh step

end

/--
A session opens its path as often as it must and no more, asks queries only, and
closes once, at the end.  It makes no query and does not close when the path could
not be opened.
-/
theorem session_opens_and_closes_once (kernel : Kernel) (path : Bytes) (steps : List Step) :
    (0 ∈ path → session kernel path steps = [⟨.refused (.open path .nulInPath), []⟩]) ∧
    (0 ∉ path → ∀ errno, refusal? kernel.opens = some errno →
      session kernel path steps =
        [⟨.refused (.open path (.os errno)), (openCalls kernel.opens).map .call⟩]) ∧
    (0 ∉ path → refusal? kernel.opens = none → ∃ stages,
      session kernel path steps = opening kernel.opens path :: stages ++ [closing] ∧
      (session kernel path steps).flatMap Traced.calls =
        openCalls kernel.opens ++ stages.flatMap Traced.calls ++ [.close] ∧
      (∀ stage ∈ stages, ∀ call ∈ stage.calls, call.IsQuery) ∧
      List.Forall₂ (fun step stage => ∀ fresh, refusal? fresh = none →
          session { kernel with opens := fresh } path [step] =
            [opening fresh path, stage, closing])
        steps stages) := by
  refine ⟨fun hpath => session_of_nul hpath steps,
    fun hpath errno hopen => session_of_refusal hpath hopen steps, fun hpath hopen => ?_⟩
  have hsession := session_of_open hpath hopen steps
  refine ⟨answers ⟨kernel, path⟩ steps, hsession, ?_, ?_, forall₂_answers hpath steps⟩
  · rw [hsession, List.flatMap_append, List.flatMap_cons, calls_opening]
    rfl
  · intro stage hstage call hcall
    exact isQuery_of_mem_answers hstage hcall

theorem session_opens_and_closes_once_interrupted :
    let path := Text.Utf8.bytes "v"
    let busy : Kernel := { Kernel.absent with opens := [some .interrupted, some .interrupted] }
    let absent : Kernel := { Kernel.absent with opens := [some .interrupted, some .notFound] }
    (0 ∈ 0 :: path ∧ session busy (0 :: path) [.check] =
      [⟨.refused (.open (0 :: path) .nulInPath), []⟩]) ∧
    (0 ∉ path ∧ refusal? absent.opens = some .notFound ∧ session absent path [.check] =
      [⟨.refused (.open path (.os .notFound)),
        [.call (.openNode true true), .call (.openNode true true)]⟩]) ∧
    (refusal? busy.opens = none ∧ ∃ queries,
      (session busy path [.query, .scan (.output true), .check]).flatMap Traced.calls =
        List.replicate 3 (.openNode true true) ++ queries ++ [.close] ∧
      ∀ call ∈ queries, call.IsQuery) := by
  intro path busy absent
  have hpath : 0 ∉ path := by decide
  have hrefused : refusal? absent.opens = some .notFound := by decide
  have hopen : refusal? busy.opens = none := by decide
  obtain ⟨hnul, -, -⟩ := session_opens_and_closes_once busy (0 :: path) [.check]
  obtain ⟨-, hrefusal, -⟩ := session_opens_and_closes_once absent path [.check]
  obtain ⟨-, -, hopened⟩ :=
    session_opens_and_closes_once busy path [.query, .scan (.output true), .check]
  obtain ⟨stages, -, hcalls, hqueries, -⟩ := hopened hpath hopen
  refine ⟨⟨by simp, hnul (by simp)⟩, ⟨hpath, hrefused, hrefusal hpath _ hrefused⟩, hopen,
    stages.flatMap Traced.calls, hcalls, ?_⟩
  intro call hcall
  obtain ⟨stage, hstage, hmem⟩ := List.mem_flatMap.mp hcall
  exact hqueries stage hstage call hmem

end Device

end DecodeProbe
