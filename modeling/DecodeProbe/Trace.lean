import DecodeProbe.Log.Record

/-!
# Traced computations

A probe asks the outside world for answers and keeps a log.  `Traced` is the
value of a computation together with everything it did, in order: the calls it
made and the records it wrote.
-/

namespace DecodeProbe

open DecodeProbe.Log (Level Record Target)

inductive Event (κ : Type) where
  | call (call : κ)
  | log (record : Record)
  deriving DecidableEq, Repr

namespace Event

variable {κ : Type}

def call? : Event κ → Option κ
  | .call made => some made
  | .log _ => none

def record? : Event κ → Option Record
  | .call _ => none
  | .log written => some written

end Event

structure Traced (κ α : Type) where
  value : α
  events : List (Event κ) := []
  deriving Repr

namespace Traced

variable {κ α β : Type}

@[simp] theorem eta (run : Traced κ α) : (⟨run.value, run.events⟩ : Traced κ α) = run := rfl

@[ext] theorem ext {first second : Traced κ α} (hvalue : first.value = second.value)
    (hevents : first.events = second.events) : first = second := by
  cases first; cases second
  simp_all

instance : Monad (Traced κ) where
  pure value := ⟨value, []⟩
  bind run next :=
    let further := next run.value
    ⟨further.value, run.events ++ further.events⟩

def made (call : κ) : Traced κ Unit := ⟨(), [.call call]⟩

def wrote (record : Record) : Traced κ Unit := ⟨(), [.log record]⟩

def note (target : Target) (message : String) : Traced κ Unit := wrote ⟨.debug, target, message⟩

def calls (run : Traced κ α) : List κ := run.events.filterMap Event.call?

def log (run : Traced κ α) : List Record := run.events.filterMap Event.record?

@[simp] theorem value_pure (value : α) : (pure value : Traced κ α).value = value := rfl

@[simp] theorem events_pure (value : α) : (pure value : Traced κ α).events = [] := rfl

@[simp] theorem value_bind (run : Traced κ α) (next : α → Traced κ β) :
    (run >>= next).value = (next run.value).value := rfl

@[simp] theorem events_bind (run : Traced κ α) (next : α → Traced κ β) :
    (run >>= next).events = run.events ++ (next run.value).events := rfl

@[simp] theorem value_map (f : α → β) (run : Traced κ α) : (f <$> run).value = f run.value := rfl

@[simp] theorem events_map (f : α → β) (run : Traced κ α) :
    (f <$> run).events = run.events := List.append_nil _

instance : LawfulMonad (Traced κ) := LawfulMonad.mk' (Traced κ)
  (fun run => Traced.ext rfl (List.append_nil _))
  (fun _ _ => Traced.ext rfl (List.nil_append _))
  (fun _ _ _ => Traced.ext rfl (List.append_assoc _ _ _))

@[simp] theorem events_made (call : κ) : (made call).events = [.call call] := rfl

@[simp] theorem events_wrote (record : Record) :
    (wrote record : Traced κ Unit).events = [.log record] := rfl

@[simp] theorem events_note (target : Target) (message : String) :
    (note target message : Traced κ Unit).events = [.log ⟨.debug, target, message⟩] := rfl

@[simp] theorem calls_pure (value : α) : (pure value : Traced κ α).calls = [] := rfl

@[simp] theorem log_pure (value : α) : (pure value : Traced κ α).log = [] := rfl

@[simp] theorem calls_bind (run : Traced κ α) (next : α → Traced κ β) :
    (run >>= next).calls = run.calls ++ (next run.value).calls := by
  simp [calls]

@[simp] theorem log_bind (run : Traced κ α) (next : α → Traced κ β) :
    (run >>= next).log = run.log ++ (next run.value).log := by
  simp [log]

@[simp] theorem calls_map (f : α → β) (run : Traced κ α) : (f <$> run).calls = run.calls := by
  simp [calls]

@[simp] theorem log_map (f : α → β) (run : Traced κ α) : (f <$> run).log = run.log := by
  simp [log]

@[simp] theorem calls_made (call : κ) : (made call).calls = [call] := by
  simp [calls, Event.call?]

@[simp] theorem log_made (call : κ) : (made call).log = [] := by
  simp [log, Event.record?]

@[simp] theorem calls_note (target : Target) (message : String) :
    (note target message : Traced κ Unit).calls = [] := by
  simp [calls, Event.call?]

@[simp] theorem log_note (target : Target) (message : String) :
    (note target message : Traced κ Unit).log = [⟨.debug, target, message⟩] := by
  simp [log, Event.record?]

end Traced

abbrev Stateful (σ κ α : Type) := StateT σ (Traced κ) α

namespace Stateful

variable {σ κ : Type}

def note (target : Target) (message : String) : Stateful σ κ Unit := fun state =>
  ⟨((), state), [.log ⟨.debug, target, message⟩]⟩

@[simp] theorem run_note (target : Target) (message : String) (state : σ) :
    (note target message : Stateful σ κ Unit).run state =
      (fun answer => (answer, state)) <$> Traced.note target message := rfl

end Stateful

end DecodeProbe
