import DecodeProbe.Log.Environment
import Mathlib.Data.List.Basic

/-!
# What an environment selects

With diagnostics on every record up to debugging is selected, with diagnostics
off none is, and either holds only as long as no filter is given.
-/

namespace DecodeProbe.Log

open DecodeProbe.Text.Utf8 (Bytes)

/-- As chatty as debugging at most. -/
def Record.Plain (record : Record) : Prop := record.level.rank ≤ Level.debug.rank

theorem Record.Plain.of_debug {record : Record} (hlevel : record.level = .debug) : record.Plain :=
  Nat.le_of_eq (congrArg Level.rank hlevel)

theorem Filter.selects_uniform (threshold : Threshold) (record : Record) :
    (Filter.uniform threshold).selects record = threshold.admits record.level := by
  simp [selects, uniform, admits, decisive?, Directive.orLater, Directive.fits]

theorem Filter.filter_uniform_debug {log : List Record} (hplain : ∀ record ∈ log, record.Plain) :
    log.filter (Filter.uniform (some .debug)).selects = log := by
  rw [List.filter_eq_self]
  intro record hmem
  rw [selects_uniform]
  exact decide_eq_true (hplain record hmem)

theorem Filter.filter_uniform_none (log : List Record) :
    log.filter (Filter.uniform none).selects = [] := by
  simp [selects_uniform, Threshold.admits]

namespace Environment

variable {environment : Environment}

theorem reading_of_no_filter (hfilter : environment.filterText = none) :
    environment.reading =
      ⟨.uniform (if debugEnabled environment.debugSwitch then some .debug else none), []⟩ := by
  simp [reading, hfilter]

theorem reading_of_switched_on {rest : Bytes} (hfilter : environment.filterText = none)
    (hswitch : environment.debugSwitch = some (0x31 :: rest)) :
    environment.reading = ⟨.uniform (some .debug), []⟩ := by
  simp [reading_of_no_filter hfilter, hswitch, debugEnabled]

theorem reading_of_switched_off (hfilter : environment.filterText = none)
    (hswitch : ∀ rest, environment.debugSwitch ≠ some (0x31 :: rest)) :
    environment.reading = ⟨.uniform none, []⟩ := by
  have hoff : debugEnabled environment.debugSwitch = false := by
    unfold debugEnabled
    split
    · next first rest hvalue =>
      rw [beq_eq_false_iff_ne]
      rintro rfl
      exact hswitch rest hvalue
    · rfl
  simp [reading_of_no_filter hfilter, hoff]

theorem reading_of_text (switch : Option Bytes) (text : String) :
    reading ⟨switch, some (Text.Utf8.bytes text)⟩ = .ofText text.toList := by
  rw [reading, Option.bind_some, Text.Utf8.bytes, Text.Utf8.decode?_encode]

theorem reading_of_debug (switch : Option Bytes) :
    reading ⟨switch, some (Text.Utf8.bytes "debug")⟩ = ⟨.uniform (some .debug), []⟩ := by
  rw [reading_of_text]
  decide +kernel

end Environment

end DecodeProbe.Log
