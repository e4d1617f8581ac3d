import DecodeProbe.Log.FilterText
import DecodeProbe.Text.Utf8

/-!
# The environment

The environment chooses the filter: one variable holds a filter of its own, the
other only turns diagnostics on.
-/

namespace DecodeProbe.Log

open DecodeProbe.Text.Utf8 (Bytes)

structure Environment where
  /-- Turns diagnostics on when its value starts with `1`. -/
  debugSwitch : Option Bytes := none
  /-- A filter, which takes precedence over the switch. -/
  filterText : Option Bytes := none
  deriving DecidableEq, Repr

def debugVariable : String := "MOZ_GFX_DEBUG"

def filterVariable : String := "RUST_LOG"

def debugEnabled (value : Option Bytes) : Bool :=
  match value with
  | some (first :: _) => first == 0x31
  | _ => false

/-- A filter text that is not UTF-8 counts as unset. -/
def Environment.reading (environment : Environment) : Reading :=
  match environment.filterText.bind Text.Utf8.decode? with
  | some text => .ofText text
  | none => ⟨.uniform (if debugEnabled environment.debugSwitch then some .debug else none), []⟩

end DecodeProbe.Log
