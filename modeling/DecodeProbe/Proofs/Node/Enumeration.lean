import DecodeProbe.Node
import DecodeProbe.Proofs.FormatScan

/-!
# Enumerating the formats of a queue

The list of a queue ends at the first index whose query fails, and at the latest
after `maxFormats` entries.  An enumeration records the formats before that
index and nothing else.
-/

namespace DecodeProbe.Node

open Traced

variable {node : Node} {queue : Queue}

/-! ## Where a list ends -/

def listEnd (node : Node) (queue : Queue) : Nat :=
  (List.range maxFormats).findIdx fun index => !(node.format queue index).isOk

/--
Of the `left` queries from `index` on the first `count` are answered, and the
next one fails if there is a next one.
-/
structure StopsAfter (node : Node) (queue : Queue) (left index count : Nat) : Prop where
  le : count ≤ left
  answered : ∀ offset < count, ∃ format, node.format queue (index + offset) = .ok format
  failed : count < left → ∃ errno, node.format queue (index + count) = .error errno

theorem listEnd_le (node : Node) (queue : Queue) : node.listEnd queue ≤ maxFormats := by
  have hle : node.listEnd queue ≤ (List.range maxFormats).length := List.findIdx_le_length
  simpa using hle

theorem stopsAfter_listEnd (node : Node) (queue : Queue) :
    node.StopsAfter queue maxFormats 0 (node.listEnd queue) where
  le := listEnd_le node queue
  answered := by
    intro offset hoffset
    have hok := List.not_of_lt_findIdx hoffset
    cases hanswer : node.format queue offset with
    | ok format => exact ⟨format, by simpa using hanswer⟩
    | error errno => simp [hanswer, Except.isOk, Except.toBool] at hok
  failed := by
    intro hlt
    rw [Nat.zero_add]
    unfold listEnd at hlt ⊢
    have hfails := @List.findIdx_getElem _ _ _ (hlt.trans_eq List.length_range.symm)
    rw [List.getElem_range] at hfails
    generalize List.findIdx _ _ = index at hfails ⊢
    cases hanswer : node.format queue index with
    | error errno => exact ⟨errno, rfl⟩
    | ok format => simp [hanswer, Except.isOk, Except.toBool] at hfails

/-- After an answered query the rest of the list stops one entry sooner. -/
theorem StopsAfter.succ {left index count : Nat} {format : Format}
    (hstops : node.StopsAfter queue (left + 1) index count)
    (hanswer : node.format queue index = .ok format) :
    ∃ rest, count = rest + 1 ∧ node.StopsAfter queue left (index + 1) rest := by
  cases count with
  | zero =>
      obtain ⟨errno, hfailed⟩ := hstops.failed (by omega)
      rw [Nat.add_zero, hanswer] at hfailed
      contradiction
  | succ rest =>
      refine ⟨rest, rfl, by have := hstops.le; omega, ?_, ?_⟩
      · intro offset hoffset
        simpa [Nat.add_right_comm, Nat.add_assoc] using hstops.answered (offset + 1) (by omega)
      · intro hlt
        simpa [Nat.add_right_comm, Nat.add_assoc] using hstops.failed (by omega)

theorem StopsAfter.zero {left index count : Nat} {errno : Errno}
    (hstops : node.StopsAfter queue (left + 1) index count)
    (hanswer : node.format queue index = .error errno) : count = 0 := by
  by_contra hpos
  obtain ⟨format, hok⟩ := hstops.answered 0 (by omega)
  rw [Nat.add_zero, hanswer] at hok
  contradiction

/-! ## What is recorded -/

/-- The formats answered at `count` indices from `first` on. -/
def formatsFrom (node : Node) (queue : Queue) (first count : Nat) : List Format :=
  (List.range' first count).filterMap fun index => (node.format queue index).toOption

theorem formatsFrom_succ {first : Nat} {format : Format}
    (hanswer : node.format queue first = .ok format) (count : Nat) :
    node.formatsFrom queue first (count + 1) =
      format :: node.formatsFrom queue (first + 1) count := by
  simp [formatsFrom, List.range'_succ, hanswer, Except.toOption]

theorem getElem?_formatsFrom {first count : Nat}
    (hanswered : ∀ offset < count, ∃ format, node.format queue (first + offset) = .ok format)
    (offset : Nat) (format : Format) :
    (node.formatsFrom queue first count)[offset]? = some format ↔
      offset < count ∧ node.format queue (first + offset) = .ok format := by
  induction count generalizing first offset with
  | zero => simp [formatsFrom]
  | succ count ih =>
      obtain ⟨head, hhead⟩ := hanswered 0 (by omega)
      rw [formatsFrom_succ (by simpa using hhead)]
      cases offset with
      | zero => simp_all
      | succ offset =>
          have htail : ∀ offset < count,
              ∃ format, node.format queue (first + 1 + offset) = .ok format := by
            intro later hlater
            simpa [Nat.add_right_comm, Nat.add_assoc] using hanswered (later + 1) (by omega)
          rw [List.getElem?_cons_succ, ih htail]
          simp [Nat.add_right_comm, Nat.add_assoc]

theorem value_enumerate {left index count : Nat} (hstops : node.StopsAfter queue left index count)
    (scan : FormatScan) :
    (node.enumerate queue left index scan).value =
      scan.recordAll ((node.formatsFrom queue index count).map Format.fourcc) := by
  induction left generalizing index count scan with
  | zero =>
      obtain rfl : count = 0 := Nat.le_zero.mp hstops.le
      simp [enumerate, formatsFrom]
  | succ left ih =>
      cases hanswer : node.format queue index with
      | error errno =>
          obtain rfl := hstops.zero hanswer
          simp only [enumerate, hanswer, value_bind, formatsFrom, List.range'_zero,
            List.filterMap_nil, List.map_nil, FormatScan.recordAll_nil]
          split <;> rfl
      | ok format =>
          obtain ⟨rest, rfl, hrest⟩ := hstops.succ hanswer
          simp [enumerate, hanswer, ih hrest, formatsFrom_succ hanswer]

/-! ## What a whole enumeration finds -/

def RawAt (node : Node) (queue : Queue) (index : Nat) : Prop :=
  ∃ format, node.format queue index = .ok format ∧ format.fourcc.IsRaw

def H264At (node : Node) (queue : Queue) (index : Nat) : Prop :=
  ∃ format, node.format queue index = .ok format ∧ format.fourcc = FourCC.h264

def ListsRaw (node : Node) (queue : Queue) : Prop :=
  ∃ index < node.listEnd queue, node.RawAt queue index

/-- Some entry of the list is H264, and no later one is raw. -/
def ListsH264 (node : Node) (queue : Queue) : Prop :=
  ∃ index < node.listEnd queue, node.H264At queue index ∧
    ∀ later, index < later → later < node.listEnd queue → ¬ node.RawAt queue later

def listed (node : Node) (queue : Queue) : List FourCC :=
  (node.formatsFrom queue 0 (node.listEnd queue)).map Format.fourcc

theorem value_supportedFormats (node : Node) (queue : Queue) :
    (node.supportedFormats queue).value = FormatScan.recordAll {} (node.listed queue) :=
  value_enumerate (stopsAfter_listEnd node queue) {}

theorem getElem?_listed (index : Nat) (code : FourCC) :
    (node.listed queue)[index]? = some code ↔ index < node.listEnd queue ∧
      ∃ format, node.format queue index = .ok format ∧ format.fourcc = code := by
  simp only [listed, List.getElem?_map, Option.map_eq_some_iff,
    getElem?_formatsFrom (stopsAfter_listEnd node queue).answered, Nat.zero_add]
  grind

theorem metRaw_listed : FormatScan.MetRaw (node.listed queue) ↔ node.ListsRaw queue := by
  simp only [FormatScan.metRaw_iff_getElem?, getElem?_listed, ListsRaw, RawAt]
  grind

theorem keptH264_listed : FormatScan.KeptH264 (node.listed queue) ↔ node.ListsH264 queue := by
  simp only [FormatScan.keptH264_iff_getElem?, getElem?_listed, ListsH264, H264At, RawAt]
  grind

theorem supportedFormats_eq_knowing (node : Node) (queue : Queue) :
    ∃ raw h264, (node.supportedFormats queue).value = FormatScan.knowing raw h264 ∧
      (raw = true ↔ node.ListsRaw queue) ∧ (h264 = true ↔ node.ListsH264 queue) := by
  rw [value_supportedFormats, ← metRaw_listed, ← keptH264_listed]
  exact FormatScan.recordAll_eq_knowing _

end DecodeProbe.Node
