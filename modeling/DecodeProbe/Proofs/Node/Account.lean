import DecodeProbe.Proofs.Node.Queries

/-!
# The account of an enumeration

Calls, scan and log of an enumeration stop at the same index.  Each entry before it
is queried, recorded and logged once; the query at it fails unless the list is full;
and the log ends with why there is no more, which for the end of a list is nothing.
A check makes an account of the capture queue, and of the output queue when it has
to.
-/

namespace DecodeProbe.Node

open Traced

variable {node : Node} {queue : Queue}

/-! ## What is logged -/

def entryRecord (queue : Queue) (index : Nat) (format : Format) : Log.Record :=
  ⟨.debug, .formats, s!"{queue.name} format {index}: {format.text}"⟩

def stoppedRecord (queue : Queue) (index : Nat) (errno : Errno) : Log.Record :=
  ⟨.debug, .formats, s!"{queue.name} enumeration stopped at index {index}: {errno.symbolText}"⟩

def cappedRecord (queue : Queue) : Log.Record :=
  ⟨.debug, .formats, queue.name ++ " enumeration capped at 256 formats"⟩

/-- What is logged when an enumeration that may go up to `full` ends at an index. -/
inductive Ending (node : Node) (queue : Queue) (full : Nat) : Nat → List Log.Record → Prop
  | exhausted {index : Nat} : index < full →
      node.format queue index = .error .invalidArgument → Ending node queue full index []
  | stopped {index : Nat} {errno : Errno} : index < full →
      node.format queue index = .error errno → errno ≠ .invalidArgument →
      Ending node queue full index [stoppedRecord queue index errno]
  | capped : Ending node queue full full [cappedRecord queue]

theorem cappedRecord_eq (queue : Queue) :
    cappedRecord queue =
      ⟨.debug, .formats, s!"{queue.name} enumeration capped at {maxFormats} formats"⟩ := by
  have hnumber : toString maxFormats = "256" := by decide
  have htail : " enumeration capped at 256 formats" =
      " enumeration capped at " ++ ("256" ++ " formats") := by decide
  rw [cappedRecord, htail, hnumber]
  exact congrArg _ (String.append_assoc.trans String.append_assoc).symm

theorem log_enumerate {left index count : Nat} (hstops : node.StopsAfter queue left index count)
    (scan : FormatScan) :
    ∃ closing, node.Ending queue (index + left) (index + count) closing ∧
      (node.enumerate queue left index scan).log =
        ((node.formatsFrom queue index count).mapIdx fun offset =>
          entryRecord queue (index + offset)) ++ closing := by
  induction left generalizing index count scan with
  | zero =>
      obtain rfl : count = 0 := Nat.le_zero.mp hstops.le
      exact ⟨_, .capped, by simp [enumerate, formatsFrom, cappedRecord_eq]⟩
  | succ left ih =>
      cases hanswer : node.format queue index with
      | error errno =>
          obtain rfl := hstops.zero hanswer
          by_cases hend : errno = .invalidArgument
          · subst hend
            exact ⟨_, .exhausted (by omega) hanswer, by simp [enumerate, hanswer, formatsFrom]⟩
          · refine ⟨_, .stopped (by omega) hanswer hend, ?_⟩
            simp [enumerate, hanswer, hend, formatsFrom, stoppedRecord]
      | ok format =>
          obtain ⟨rest, rfl, hrest⟩ := hstops.succ hanswer
          obtain ⟨closing, hending, hlog⟩ := ih hrest (scan.record format.fourcc)
          refine ⟨closing, ?_, ?_⟩
          · rwa [Nat.add_assoc, Nat.add_assoc, Nat.add_comm 1, Nat.add_comm 1] at hending
          · rw [formatsFrom_succ hanswer, List.mapIdx_cons, List.cons_append]
            simp only [enumerate, hanswer, log_bind, log_made, log_note, hlog]
            simp [entryRecord, Nat.add_assoc, Nat.add_comm 1]

/-! ## The whole account -/

theorem length_formatsFrom {first count : Nat}
    (hanswered : ∀ offset < count, ∃ format, node.format queue (first + offset) = .ok format) :
    (node.formatsFrom queue first count).length = count := by
  induction count generalizing first with
  | zero => rfl
  | succ count ih =>
      obtain ⟨head, hhead⟩ := hanswered 0 (by omega)
      have htail : ∀ offset < count,
          ∃ format, node.format queue (first + 1 + offset) = .ok format := by
        intro later hlater
        simpa [Nat.add_right_comm, Nat.add_assoc] using hanswered (later + 1) (by omega)
      rw [formatsFrom_succ (by simpa using hhead), List.length_cons, ih htail]

/-- An enumeration whose list ends at `last`, told by what it did. -/
structure Account (node : Node) (queue : Queue) (last : Nat)
    (run : Traced NodeCall FormatScan) : Prop where
  calls : run.calls = (List.range (min last 255 + 1)).map (.enumFormat queue)
  told : ∃ (formats : List Format) (closing : List Log.Record), formats.length = last ∧
    (∀ (index : Nat) (format : Format), formats[index]? = some format →
      node.format queue index = .ok format) ∧
    node.Ending queue 256 last closing ∧
    run.value = formats.foldl (fun scan format => scan.record format.fourcc) {} ∧
    run.log = formats.mapIdx (entryRecord queue) ++ closing

theorem queries_eq (node : Node) (queue : Queue) :
    node.queries queue =
      (List.range (min (node.listEnd queue) 255 + 1)).map (.enumFormat queue) := by
  rw [queries, maxFormats]
  congr 2
  omega

theorem account_supportedFormats (node : Node) (queue : Queue) :
    node.Account queue (node.listEnd queue) (node.supportedFormats queue) where
  calls := by rw [calls_supportedFormats, queries_eq]
  told := by
    have hstops := stopsAfter_listEnd node queue
    obtain ⟨closing, hending, hlog⟩ := log_enumerate hstops {}
    refine ⟨node.formatsFrom queue 0 (node.listEnd queue), closing,
      length_formatsFrom hstops.answered, ?_, by simpa [maxFormats] using hending, ?_, ?_⟩
    · intro index format hformat
      simpa using ((getElem?_formatsFrom hstops.answered index format).mp hformat).2
    · rw [value_supportedFormats, FormatScan.recordAll, listed, List.foldl_map]
    · simpa [supportedFormats] using hlog

/-! ## The queries of a check -/

/-- What a check asks after the capabilities, and what it answers then. -/
inductive Inquiry (node : Node) : Except ProbeError CodecSet → List NodeCall → Prop
  | queryFailed {errno : Errno} : node.capabilities = .error errno →
      Inquiry node (.error (.queryCapabilities errno)) []
  | closed {caps : Capabilities} {error : ProbeError} : node.capabilities = .ok caps →
      caps.Closed error → Inquiry node (.error error) []
  | noRawFrames {caps : Capabilities} {mplane : Bool} : node.capabilities = .ok caps →
      caps.Open mplane →
      Inquiry node (.error .noCaptureFormat) (node.supportedFormats (.capture mplane)).calls
  | decoder {caps : Capabilities} {mplane : Bool} {codecs : CodecSet} :
      node.capabilities = .ok caps → caps.Open mplane →
      Inquiry node (.ok codecs) ((node.supportedFormats (.capture mplane)).calls ++
        (node.supportedFormats (.output mplane)).calls)

theorem calls_check (node : Node) :
    ∃ later, node.check.calls = .queryCapabilities :: later ∧
      node.Inquiry node.check.value later := by
  cases hquery : node.capabilities with
  | error errno =>
      refine ⟨[], calls_check_of_queryFailed hquery, ?_⟩
      rw [value_check_of_queryFailed hquery]
      exact .queryFailed hquery
  | ok caps =>
      obtain ⟨error, hclosed⟩ | ⟨mplane, hopen⟩ := caps.closed_or_open
      · refine ⟨[], calls_check_of_closed hquery hclosed, ?_⟩
        rw [value_check_of_closed hquery hclosed]
        exact .closed hquery hclosed
      · refine ⟨_, calls_check_of_open hquery hopen, ?_⟩
        rw [value_check_of_open hquery hopen, value_checkQueues, calls_checkQueues]
        simp only [← calls_supportedFormats]
        split
        · exact .decoder hquery hopen
        · rw [List.append_nil]
          exact .noRawFrames hquery hopen

theorem length_queries_le (node : Node) (queue : Queue) :
    (node.supportedFormats queue).calls.length ≤ 256 := by
  rw [(account_supportedFormats node queue).calls, List.length_map, List.length_range]
  omega

theorem Inquiry.length_le {answer : Except ProbeError CodecSet} {later : List NodeCall}
    (hinquiry : node.Inquiry answer later) : later.length ≤ 2 * 256 := by
  cases hinquiry with
  | queryFailed => simp
  | closed => simp
  | @noRawFrames _ mplane =>
      have hcapture := length_queries_le node (.capture mplane)
      omega
  | @decoder _ mplane =>
      have hcapture := length_queries_le node (.capture mplane)
      have houtput := length_queries_le node (.output mplane)
      rw [List.length_append]
      omega

/--
Every enumeration is accounted for up to the end of its list.  A check asks for the
capabilities once, then for nothing when a gate is closed, for the capture queue
when no raw format is found there, and for both queues of one plane kind otherwise.
-/
theorem supportedFormats_and_check_accounted (node : Node) :
    (∀ queue, node.Account queue (node.listEnd queue) (node.supportedFormats queue)) ∧
    (∃ later, node.check.calls = .queryCapabilities :: later ∧
      node.Inquiry node.check.value later) ∧
    node.check.calls.length ≤ 1 + 2 * 256 := by
  obtain ⟨later, hcalls, hinquiry⟩ := node.calls_check
  refine ⟨node.account_supportedFormats, ⟨later, hcalls, hinquiry⟩, ?_⟩
  have hlater := hinquiry.length_le
  rw [hcalls, List.length_cons]
  omega

end DecodeProbe.Node
