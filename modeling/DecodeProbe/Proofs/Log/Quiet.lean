import DecodeProbe.Device
import DecodeProbe.Library
import DecodeProbe.Run
import Mathlib.Data.List.Basic

/-!
# Probes do not raise alarm

Whatever a probe meets, it writes records of debugging only: what it finds goes
into the report, and errors are for the tool to tell.  A computation is quiet
when its steps are, so one lemma for each operation carries over to the whole.
-/

namespace DecodeProbe

open DecodeProbe.Text.Utf8 (Bytes)

/-! ## Quiet computations -/

/-- Every record that is written is one of debugging. -/
def Traced.Quiet {κ α : Type} (run : Traced κ α) : Prop :=
  ∀ record ∈ run.log, record.level = .debug

/-- Quiet from every state. -/
def Stateful.Quiet {σ κ α : Type} (operation : Stateful σ κ α) : Prop :=
  ∀ state, Traced.Quiet (operation.run state)

namespace Traced

variable {κ α β : Type}

theorem quiet_of_log_eq_nil {run : Traced κ α} (hlog : run.log = []) : run.Quiet := by
  simp [Quiet, hlog]

@[simp] theorem quiet_pure (value : α) : (pure value : Traced κ α).Quiet :=
  quiet_of_log_eq_nil rfl

@[simp] theorem quiet_made (call : κ) : (made call).Quiet := quiet_of_log_eq_nil rfl

@[simp] theorem quiet_note (target : Log.Target) (message : String) :
    (note target message : Traced κ Unit).Quiet := by
  simp [Quiet]

@[simp] theorem quiet_map {f : α → β} {run : Traced κ α} : (f <$> run).Quiet ↔ run.Quiet := by
  simp [Quiet]

theorem quiet_bind {run : Traced κ α} {next : α → Traced κ β} :
    (run >>= next).Quiet ↔ run.Quiet ∧ (next run.value).Quiet := by
  simp [Quiet, or_imp, forall_and]

theorem Quiet.bind {run : Traced κ α} {next : α → Traced κ β} (hrun : run.Quiet)
    (hnext : ∀ value, (next value).Quiet) : (run >>= next).Quiet :=
  quiet_bind.mpr ⟨hrun, hnext run.value⟩

theorem quiet_forM {step : α → Traced κ PUnit} (hstep : ∀ item, (step item).Quiet)
    (items : List α) : (items.forM step).Quiet := by
  induction items with
  | nil => exact quiet_pure _
  | cons item items ih => exact (hstep item).bind fun _ => ih

end Traced

namespace Stateful

variable {σ κ α β : Type}

@[simp] theorem quiet_pure (value : α) : Quiet (pure value : Stateful σ κ α) :=
  fun _ => Traced.quiet_pure _

@[simp] theorem quiet_note (target : Log.Target) (message : String) :
    Quiet (note target message : Stateful σ κ Unit) := by
  intro state
  simp

theorem Quiet.bind {operation : Stateful σ κ α} {next : α → Stateful σ κ β}
    (hoperation : Quiet operation) (hnext : ∀ value, Quiet (next value)) :
    Quiet (operation >>= next) := by
  intro state
  exact (hoperation state).bind fun result => hnext result.1 result.2

theorem quiet_foldlM {step : β → α → Stateful σ κ β} (hstep : ∀ value item, Quiet (step value item))
    (items : List α) (value : β) : Quiet (items.foldlM step value) := by
  induction items generalizing value with
  | nil => exact quiet_pure value
  | cons item items ih => exact (hstep value item).bind ih

end Stateful

/-! ## Device probes -/

section

open Traced (quiet_pure quiet_made quiet_note quiet_map)

namespace Node

variable (node : Node)

theorem quiet_enumerate (queue : Queue) (left index : Nat) (scan : FormatScan) :
    (node.enumerate queue left index scan).Quiet := by
  induction left generalizing index scan with
  | zero => exact (quiet_note _ _).bind fun _ => quiet_pure _
  | succ left ih =>
      refine (quiet_made _).bind fun _ => ?_
      cases node.format queue index with
      | ok format => exact (quiet_note _ _).bind fun _ => ih _ _
      | error errno =>
          by_cases hend : errno = .invalidArgument
          · simp [hend]
          · simp [hend]

theorem quiet_checkQueues (mplane : Bool) : (node.checkQueues mplane).Quiet := by
  refine (node.quiet_enumerate _ _ _ _).bind fun frames => ?_
  split
  · exact quiet_pure _
  · refine (node.quiet_enumerate _ _ _ _).bind fun streams => ?_
    refine (Traced.quiet_forM (fun _ => quiet_note _ _) _).bind fun _ => ?_
    exact (quiet_note _ _).bind fun _ => quiet_pure _

theorem quiet_check : node.check.Quiet := by
  refine (quiet_made _).bind fun _ => ?_
  cases node.capabilities with
  | error errno => exact quiet_pure _
  | ok caps =>
      refine (quiet_note _ _).bind fun _ => ?_
      cases caps.planes with
      | error error => exact quiet_pure _
      | ok mplane => exact node.quiet_checkQueues mplane

end Node

namespace Device

theorem quiet_acquire (opens : List (Option Errno)) : (acquire opens).Quiet := by
  induction opens with
  | nil => exact (quiet_made _).bind fun _ => quiet_pure _
  | cons opened later ih =>
      cases opened with
      | none => exact (quiet_made _).bind fun _ => quiet_pure _
      | some errno =>
          refine (quiet_made _).bind fun _ => ?_
          by_cases hinterrupted : errno = .interrupted
          · simpa [hinterrupted] using ih
          · simp [hinterrupted]

theorem quiet_openPath (kernel : Kernel) (path : Bytes) : (openPath kernel path).Quiet := by
  unfold openPath
  split
  · exact quiet_pure _
  · refine (quiet_acquire kernel.opens).bind fun acquired => ?_
    cases acquired with
    | error errno => exact quiet_pure _
    | ok => exact (quiet_note _ _).bind fun _ => quiet_pure _

end Device

theorem quiet_probeDevice (kernel : Kernel) (path : Bytes) : (probeDevice kernel path).Quiet := by
  refine (quiet_note _ _).bind fun _ => (Device.quiet_openPath kernel path).bind fun opened => ?_
  cases opened with
  | error error => exact quiet_pure _
  | ok device =>
      exact device.node.quiet_check.bind fun _ => (quiet_made _).bind fun _ => quiet_pure _

end

/-! ## Library probes -/

namespace CodecRuntime

open Stateful (quiet_pure quiet_note)

variable {σ κ χ : Type} {runtime : CodecRuntime σ κ χ}

/-- Every operation of the runtime is quiet. -/
structure Quiet (runtime : CodecRuntime σ κ χ) : Prop where
  create : Stateful.Quiet runtime.create
  check (codec : Codec) : Stateful.Quiet (runtime.check codec)
  init (context : χ) (codec : Codec) : Stateful.Quiet (runtime.init context codec)
  reset (context : χ) : Stateful.Quiet (runtime.reset context)
  destroy (context : χ) : Stateful.Quiet (runtime.destroy context)
  release : Stateful.Quiet runtime.release

namespace Quiet

variable (hquiet : runtime.Quiet)

include hquiet

theorem tryCodec (found : CodecSet) (codec : Codec) :
    Stateful.Quiet (runtime.tryCodec found codec) := by
  refine hquiet.create.bind fun created => ?_
  cases created with
  | error ret => exact (quiet_note _ _).bind fun _ => quiet_pure _
  | ok context =>
      refine (hquiet.check codec).bind fun checked => ?_
      cases checked with
      | error ret => exact (quiet_note _ _).bind fun _ => quiet_pure _
      | ok =>
          refine (hquiet.init context codec).bind fun initialised => ?_
          cases initialised with
          | error ret => exact (quiet_note _ _).bind fun _ => quiet_pure _
          | ok =>
              refine (quiet_note _ _).bind fun _ => (hquiet.reset context).bind fun _ => ?_
              exact (hquiet.destroy context).bind fun _ => quiet_pure _

theorem probe : Stateful.Quiet runtime.probe :=
  (Stateful.quiet_foldlM hquiet.tryCodec _ _).bind fun _ =>
    hquiet.release.bind fun _ => quiet_pure _

end Quiet

end CodecRuntime

namespace Library

theorem quiet_complaint (text : String) (ret : Int) :
    ∀ record ∈ (complaint text ret).filterMap Event.record?, record.level = .debug := by
  unfold complaint
  split
  · simp
  · simp [Event.record?]

variable (library : Library)

theorem quiet_reset (context : Context) : Stateful.Quiet (library.reset context) := by
  unfold reset
  cases context.table with
  | complete => exact fun _ => quiet_complaint _ _
  | missing => exact Stateful.quiet_note _ _
  | withoutReset => exact Stateful.quiet_note _ _

theorem quiet_runtime : library.runtime.Quiet where
  create _ := Traced.quiet_of_log_eq_nil rfl
  check _ _ := Traced.quiet_of_log_eq_nil rfl
  init _ _ _ := Traced.quiet_of_log_eq_nil rfl
  reset := library.quiet_reset
  destroy _ _ := quiet_complaint _ _
  release _ := (Traced.quiet_note _ _).bind fun _ => Traced.quiet_pure _

theorem quiet_probe : library.probe.Quiet :=
  Traced.quiet_map.mpr (library.quiet_runtime.probe {})

end Library

theorem Loader.quiet_load (loader : Loader) (name : String) : (loader.load name).Quiet := by
  unfold load
  split
  · exact Traced.quiet_pure _
  · refine (Traced.quiet_note _ _).bind fun _ => ?_
    split
    · exact (Traced.quiet_note _ _).bind fun _ => Traced.quiet_pure _
    · exact Traced.quiet_pure _

/-! ## The probes of the tools -/

theorem Report.quiet_addError {κ : Type} (report : Report) (message : String) :
    (report.addError message : Traced κ Report).Quiet :=
  (Traced.quiet_note _ _).bind fun _ => Traced.quiet_pure _

namespace Run

theorem quiet_device (kernel : Kernel) (path : Bytes) : (device kernel path).Quiet := by
  refine (Traced.quiet_note _ _).bind fun _ => (quiet_probeDevice kernel path).bind fun probed => ?_
  cases probed with
  | ok codecs => exact Traced.quiet_pure _
  | error error => exact (Report.quiet_addError _ _).bind fun _ => Traced.quiet_pure _

theorem quiet_library (loader : Loader) : (library loader).Quiet := by
  refine (Traced.quiet_note _ _).bind fun _ => (loader.quiet_load _).bind fun loaded => ?_
  cases loaded with
  | ok library =>
      exact (Traced.quiet_note _ _).bind fun _ => library.quiet_probe.bind fun _ =>
        Traced.quiet_pure _
  | error error => exact (Report.quiet_addError _ _).bind fun _ => Traced.quiet_pure _

end Run

end DecodeProbe
