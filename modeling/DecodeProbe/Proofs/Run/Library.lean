import DecodeProbe.Proofs.Library.Refinement
import DecodeProbe.Proofs.Run.Device

/-!
# What a library probe tells its caller

A run on the codec library ends with one report and an exit code.  Either all
entry points were bound and the report is the mask of what they decode, or the
report is the first thing that was missing and the library was never called.
-/

namespace DecodeProbe

open CommandLine (Settings)
open DecodeProbe.Text.Utf8 (Bytes)
open Log (Environment)

/-! ## Binding the entry points -/

@[simp] theorem EntryPoint.mem_all (entry : EntryPoint) : entry ∈ all := by
  cases entry <;> decide

/-- Binding stops at this entry point: it is missing, and all before it are exported. -/
structure SharedObject.StopsAt (object : SharedObject) (entry : EntryPoint) : Prop where
  missing : object.exported entry = false
  bound : ∃ before after, EntryPoint.all = before ++ entry :: after ∧
    ∀ earlier ∈ before, object.exported earlier = true

namespace Loader

variable {loader : Loader}

end Loader

/-! ## The mask -/

namespace Run

/-- The report on the library that a loader finds, with its exit code and the calls made. -/
inductive LibraryStory (loader : Loader) : Report → Nat → List LibraryCall → Prop
  | unloaded {cause : LoadError} : loader Library.fileName = .error cause →
      LibraryStory loader ⟨[("ERROR", "MPP cannot load library: " ++ cause.text)]⟩ 4 []
  | unbound {object : SharedObject} {entry : EntryPoint} :
      loader Library.fileName = .ok object → object.StopsAt entry →
      LibraryStory loader ⟨[("ERROR", "MPP cannot bind " ++ entry.symbol)]⟩ 4 []
  | probed {object : SharedObject} {codecs : CodecSet} :
      loader Library.fileName = .ok object → (∀ entry, object.exported entry = true) →
      (Library.probe ⟨object.script⟩).value = codecs → codecs.bits &&& ~~~0xF0 = 0 →
      LibraryStory loader
        ⟨[("SUPPORTED", if codecs.bits = 0 then "FALSE" else "TRUE"),
          ("HWCODECS", Text.decimal codecs.bits.toNat)]⟩ 0
        (Library.probe ⟨object.script⟩).calls

namespace LibraryStory

variable {loader : Loader} {report : Report} {code : Nat} {calls : List LibraryCall}

theorem entries_ne_nil (hstory : LibraryStory loader report code calls) :
    report.entries ≠ [] := by
  cases hstory <;> exact List.cons_ne_nil _ _

end LibraryStory

end Run

/-! ## The ending of a run -/

section

variable {arguments : List Bytes} {settings : Settings}

end

end DecodeProbe
