import DecodeProbe.Proofs.Node.Queries

/-!
# Texts of a node

A check looks at two words of the capabilities and at the codes of the formats.
The texts around them go into the log only, so a node without its texts is asked
the same queries and gives the same verdict.
-/

namespace DecodeProbe

/-- Only what the gates are decided by. -/
def Capabilities.withoutTexts (caps : Capabilities) : Capabilities where
  capabilities := caps.capabilities
  deviceCaps := caps.deviceCaps

namespace Capabilities

variable {caps : Capabilities}

theorem planes_withoutTexts (caps : Capabilities) : caps.withoutTexts.planes = caps.planes := rfl

theorem closed_withoutTexts {error : ProbeError} :
    caps.withoutTexts.Closed error ↔ caps.Closed error := by
  rw [← planes_eq_error_iff, planes_withoutTexts, planes_eq_error_iff]

theorem open_withoutTexts {mplane : Bool} : caps.withoutTexts.Open mplane ↔ caps.Open mplane := by
  rw [← planes_eq_ok_iff, planes_withoutTexts, planes_eq_ok_iff]

end Capabilities

def Format.withoutTexts (format : Format) : Format := ⟨format.fourcc, ""⟩

namespace Node

def withoutTexts (node : Node) : Node where
  capabilities := node.capabilities.map Capabilities.withoutTexts
  format queue index := (node.format queue index).map Format.withoutTexts

theorem capabilities_withoutTexts (node : Node) :
    node.withoutTexts.capabilities = node.capabilities.map Capabilities.withoutTexts := rfl

theorem format_withoutTexts (node : Node) (queue : Queue) (index : Nat) :
    node.withoutTexts.format queue index = (node.format queue index).map Format.withoutTexts := rfl

theorem listEnd_withoutTexts (node : Node) (queue : Queue) :
    node.withoutTexts.listEnd queue = node.listEnd queue := by
  have hanswered : ∀ index,
      (node.withoutTexts.format queue index).isOk = (node.format queue index).isOk := by
    intro index
    rw [format_withoutTexts]
    cases node.format queue index <;> rfl
  simp only [listEnd, hanswered]

theorem listed_withoutTexts (node : Node) (queue : Queue) :
    node.withoutTexts.listed queue = node.listed queue := by
  have hcode : ∀ index,
      (node.withoutTexts.format queue index).toOption.map Format.fourcc =
        (node.format queue index).toOption.map Format.fourcc := by
    intro index
    rw [format_withoutTexts]
    cases node.format queue index <;> rfl
  simp only [listed, formatsFrom, List.map_filterMap, listEnd_withoutTexts, hcode]

theorem queries_withoutTexts (node : Node) (queue : Queue) :
    node.withoutTexts.queries queue = node.queries queue := by
  rw [queries, listEnd_withoutTexts, queries]

theorem value_supportedFormats_withoutTexts (node : Node) (queue : Queue) :
    (node.withoutTexts.supportedFormats queue).value = (node.supportedFormats queue).value := by
  rw [value_supportedFormats, listed_withoutTexts, value_supportedFormats]

theorem value_checkQueues_withoutTexts (node : Node) (mplane : Bool) :
    (node.withoutTexts.checkQueues mplane).value = (node.checkQueues mplane).value := by
  simp only [value_checkQueues, value_supportedFormats_withoutTexts]

theorem calls_checkQueues_withoutTexts (node : Node) (mplane : Bool) :
    (node.withoutTexts.checkQueues mplane).calls = (node.checkQueues mplane).calls := by
  simp only [calls_checkQueues, queries_withoutTexts, value_supportedFormats_withoutTexts]

theorem check_withoutTexts (node : Node) :
    node.withoutTexts.check.value = node.check.value ∧
      node.withoutTexts.check.calls = node.check.calls := by
  cases hquery : node.capabilities with
  | error errno =>
      have hmute : node.withoutTexts.capabilities = .error errno := by
        rw [capabilities_withoutTexts, hquery]
        rfl
      rw [value_check_of_queryFailed hquery, value_check_of_queryFailed hmute,
        calls_check_of_queryFailed hquery, calls_check_of_queryFailed hmute]
      exact ⟨rfl, rfl⟩
  | ok caps =>
      have hmute : node.withoutTexts.capabilities = .ok caps.withoutTexts := by
        rw [capabilities_withoutTexts, hquery]
        rfl
      obtain ⟨error, hclosed⟩ | ⟨mplane, hopen⟩ := caps.closed_or_open
      · have hclosed' := Capabilities.closed_withoutTexts.mpr hclosed
        rw [value_check_of_closed hquery hclosed, value_check_of_closed hmute hclosed',
          calls_check_of_closed hquery hclosed, calls_check_of_closed hmute hclosed']
        exact ⟨rfl, rfl⟩
      · have hopen' := Capabilities.open_withoutTexts.mpr hopen
        rw [value_check_of_open hquery hopen, value_check_of_open hmute hopen',
          calls_check_of_open hquery hopen, calls_check_of_open hmute hopen',
          value_checkQueues_withoutTexts, calls_checkQueues_withoutTexts]
        exact ⟨rfl, rfl⟩

end Node

end DecodeProbe
