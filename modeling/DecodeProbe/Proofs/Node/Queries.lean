import DecodeProbe.Proofs.Node.Verdict

/-!
# The queries of a check

An enumeration asks for each index once, in order, up to the one that ends the
list.  A check asks for the capabilities first, then for the capture queue when
the gates are open, and then for the output queue when a raw format was found.
-/

namespace DecodeProbe

/-- A question put to an open device. -/
inductive NodeCall.IsQuery : NodeCall → Prop
  | capabilities : IsQuery .queryCapabilities
  | format (queue : Queue) (index : Nat) : IsQuery (.enumFormat queue index)

theorem Traced.calls_forM_eq_nil {κ α : Type} {step : α → Traced κ PUnit}
    (hstep : ∀ item, (step item).calls = []) (items : List α) : (forM items step).calls = [] := by
  induction items with
  | nil => rfl
  | cons item items ih => simp [hstep, ih]

namespace Node

open Traced

variable {node : Node} {queue : Queue}

/-- The queries on a queue; the last one fails unless the list is full. -/
def queries (node : Node) (queue : Queue) : List NodeCall :=
  (List.range (min (node.listEnd queue + 1) maxFormats)).map (.enumFormat queue)

theorem calls_enumerate {left index count : Nat} (hstops : node.StopsAfter queue left index count)
    (scan : FormatScan) :
    (node.enumerate queue left index scan).calls =
      (List.range' index (min (count + 1) left)).map (.enumFormat queue) := by
  induction left generalizing index count scan with
  | zero => simp [enumerate]
  | succ left ih =>
      cases hanswer : node.format queue index with
      | error errno =>
          obtain rfl := hstops.zero hanswer
          rw [Nat.min_eq_left (by omega)]
          by_cases hend : errno = .invalidArgument <;> simp [enumerate, hanswer, hend]
      | ok format =>
          obtain ⟨rest, rfl, hrest⟩ := hstops.succ hanswer
          have hlater := ih hrest (scan.record format.fourcc)
          rw [Nat.add_min_add_right, List.range'_succ, List.map_cons, ← hlater]
          simp [enumerate, hanswer]

theorem calls_supportedFormats (node : Node) (queue : Queue) :
    (node.supportedFormats queue).calls = node.queries queue := by
  rw [supportedFormats, calls_enumerate (stopsAfter_listEnd node queue), queries,
    List.range_eq_range']

theorem calls_checkQueues (node : Node) (mplane : Bool) :
    (node.checkQueues mplane).calls =
      node.queries (.capture mplane) ++
        if (node.supportedFormats (.capture mplane)).value.isRaw then node.queries (.output mplane)
        else [] := by
  cases hraw : (node.supportedFormats (.capture mplane)).value.isRaw <;>
    simp [checkQueues, hraw, calls_supportedFormats, calls_forM_eq_nil]

theorem calls_check_of_queryFailed {errno : Errno} (hquery : node.capabilities = .error errno) :
    node.check.calls = [.queryCapabilities] := by
  simp [check, hquery]

theorem calls_check_of_closed {caps : Capabilities} {error : ProbeError}
    (hquery : node.capabilities = .ok caps) (hclosed : caps.Closed error) :
    node.check.calls = [.queryCapabilities] := by
  simp [check, hquery, Capabilities.planes_eq_error_iff.mpr hclosed]

theorem calls_check_of_open {caps : Capabilities} {mplane : Bool}
    (hquery : node.capabilities = .ok caps) (hopen : caps.Open mplane) :
    node.check.calls = .queryCapabilities :: (node.checkQueues mplane).calls := by
  simp [check, hquery, Capabilities.planes_eq_ok_iff.mpr hopen]

/-! ## Nothing but queries -/

theorem isQuery_of_mem_queries {call : NodeCall} (hmem : call ∈ node.queries queue) :
    call.IsQuery := by
  obtain ⟨index, -, rfl⟩ := List.mem_map.mp hmem
  exact .format queue index

theorem isQuery_of_mem_checkQueues {mplane : Bool} {call : NodeCall}
    (hmem : call ∈ (node.checkQueues mplane).calls) : call.IsQuery := by
  rw [calls_checkQueues] at hmem
  rcases List.mem_append.mp hmem with hcapture | houtput
  · exact isQuery_of_mem_queries hcapture
  · split at houtput
    · exact isQuery_of_mem_queries houtput
    · cases houtput

theorem isQuery_of_mem_check {call : NodeCall} (hmem : call ∈ node.check.calls) :
    call.IsQuery := by
  have halone : node.check.calls = [.queryCapabilities] → call.IsQuery := by
    intro hcalls
    obtain rfl : call = .queryCapabilities := by simpa [hcalls] using hmem
    exact .capabilities
  cases hquery : node.capabilities with
  | error errno => exact halone (calls_check_of_queryFailed hquery)
  | ok caps =>
      obtain ⟨error, hclosed⟩ | ⟨mplane, hopen⟩ := caps.closed_or_open
      · exact halone (calls_check_of_closed hquery hclosed)
      · rw [calls_check_of_open hquery hopen] at hmem
        rcases List.mem_cons.mp hmem with rfl | hlater
        · exact .capabilities
        · exact isQuery_of_mem_checkQueues hlater

end Node

end DecodeProbe
