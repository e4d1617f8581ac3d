import DecodeProbe.Proofs.CommandLine
import DecodeProbe.Proofs.Report.Framing
import DecodeProbe.Proofs.Run.Device
import DecodeProbe.Proofs.Text.Numeral
import DecodeProbe.Proofs.Text.Utf8

/-!
# Reading a device run back

The parent process reads a result as lines, a key and a value in turn.  It gets
back what an object would have told it, except for an error on a path with a line
break in it: the path is shown as it is, and each of its lines is taken for a key
or a value of its own.
-/

namespace DecodeProbe

open CommandLine (Settings)
open DecodeProbe.Text.Utf8 (Bytes)
open Log (Environment)

/-! ## Texts on one line -/

namespace Text

def OneLine (text : String) : Prop := '\n' ∉ text.toList

theorem oneLine_ofList {chars : List Char} (hfree : '\n' ∉ chars) :
    OneLine (String.ofList chars) := by
  rwa [OneLine, String.toList_ofList]

theorem oneLine_append {first second : String} :
    OneLine (first ++ second) ↔ OneLine first ∧ OneLine second := by
  simp [OneLine, String.toList_append]

theorem oneLine_decimal (n : Nat) : OneLine (decimal n) := by
  rw [decimal]
  exact oneLine_ofList (notMem_decimalDigits (by decide) n)

theorem oneLine_signedDecimal (n : Int) : OneLine (signedDecimal n) := by
  cases n with
  | ofNat n => exact oneLine_decimal n
  | negSucc n => exact oneLine_append.mpr ⟨oneLine_ofList (by decide), oneLine_decimal (n + 1)⟩

theorem oneLine_shown (path : Bytes) : OneLine (Utf8.shown path) ↔ 0x0A ∉ path := by
  rw [OneLine, Utf8.shown, String.toList_ofList, Utf8.ascii_mem_lossy (by decide)]
  rfl

end Text

open Text (OneLine oneLine_append oneLine_ofList)

namespace Errno

theorem oneLine_entries :
    ∀ entry ∈ entries, OneLine entry.symbol ∧ OneLine entry.meaning ∧ OneLine entry.sentence := by
  simp only [entries, List.forall_mem_cons, List.not_mem_nil, false_implies, implies_true, and_true]
  repeat' apply And.intro
  all_goals exact oneLine_ofList (by decide)

theorem oneLine_symbolText (errno : Errno) : OneLine errno.symbolText := by
  unfold symbolText
  split
  · next entry hentry =>
    obtain ⟨hsymbol, hmeaning, -⟩ := oneLine_entries entry (List.mem_of_find?_eq_some hentry)
    simp only [oneLine_append]
    exact ⟨⟨hsymbol, oneLine_ofList (by decide)⟩, hmeaning⟩
  · exact oneLine_ofList (by decide)

theorem oneLine_systemText (errno : Errno) : OneLine errno.systemText := by
  have hnumber := Text.oneLine_signedDecimal errno.code
  have hopening : OneLine " (os error " := oneLine_ofList (by decide)
  have hclosing : OneLine ")" := oneLine_ofList (by decide)
  unfold systemText
  split
  · next entry hentry =>
    obtain ⟨-, -, hsentence⟩ := oneLine_entries entry (List.mem_of_find?_eq_some hentry)
    change OneLine (entry.sentence ++ " (os error " ++ Text.signedDecimal errno.code ++ ")")
    simp only [oneLine_append]
    exact ⟨⟨⟨hsentence, hopening⟩, hnumber⟩, hclosing⟩
  · have hunknown : OneLine "Unknown error " := oneLine_ofList (by decide)
    change OneLine ("Unknown error " ++ Text.signedDecimal errno.code ++ " (os error " ++
      Text.signedDecimal errno.code ++ ")")
    simp only [oneLine_append]
    exact ⟨⟨⟨⟨hunknown, hnumber⟩, hopening⟩, hnumber⟩, hclosing⟩

end Errno

/-! ## Errors on a path -/

theorem Device.cause_of_openPath {kernel : Kernel} {path : Bytes} {cause : IoError}
    (hopen : (openPath kernel path).value = .error (.open path cause)) :
    OneLine cause.text := by
  unfold openPath at hopen
  split at hopen
  · obtain rfl : IoError.nulInPath = cause := by simpa using hopen
    exact oneLine_ofList (by decide)
  · cases hacquire : (acquire kernel.opens).value with
    | ok => simp [hacquire] at hopen
    | error errno =>
        obtain rfl : IoError.os errno = cause := by simpa [hacquire] using hopen
        exact errno.oneLine_systemText

theorem cause_of_probeDevice {kernel : Kernel} {path : Bytes} {cause : IoError}
    (hprobe : (probeDevice kernel path).value = .error (.open path cause)) :
    OneLine cause.text := by
  obtain hopen | ⟨found, hopen⟩ := Device.value_openPath kernel path
  · have hcheck : (Device.node ⟨kernel, path⟩).check.value = .error (.open path cause) := by
      simpa [probeDevice, hopen] using hprobe
    obtain ⟨errno, herror⟩ | hunsuitable := Node.error_of_check hcheck
    · cases herror
    · cases hunsuitable
  · obtain rfl : found = cause := by simpa [probeDevice, hopen] using hprobe
    exact Device.cause_of_openPath hopen

/-- The report of an error stays on its line exactly when the path does. -/
theorem oneLine_report_iff {kernel : Kernel} {path : Bytes} {error : ProbeError}
    (hprobe : (probeDevice kernel path).value = .error error) :
    OneLine (error.report path) ↔ 0x0A ∉ path := by
  rw [← Text.oneLine_shown]
  have hdevice : ∀ message, OneLine message →
      (OneLine ("V4L2 device " ++ Text.Utf8.shown path ++ " " ++ message) ↔
        OneLine (Text.Utf8.shown path)) := by
    intro message hmessage
    have hhead : OneLine "V4L2 device " := oneLine_ofList (by decide)
    have hblank : OneLine " " := oneLine_ofList (by decide)
    simp [oneLine_append, hhead, hblank, hmessage]
  obtain ⟨cause, rfl⟩ | ⟨errno, rfl⟩ | hunsuitable := error_of_probeDevice hprobe
  · have hcause := cause_of_probeDevice hprobe
    have hhead : OneLine "V4L2 " := oneLine_ofList (by decide)
    have hverb : OneLine "failed to open device " := oneLine_ofList (by decide)
    have hcolon : OneLine ": " := oneLine_ofList (by decide)
    change OneLine ("V4L2 " ++ ("failed to open device " ++ Text.Utf8.shown path ++ ": " ++
      cause.text)) ↔ _
    simp [oneLine_append, hhead, hverb, hcolon, hcause]
  · apply hdevice
    exact oneLine_append.mpr ⟨oneLine_ofList (by decide), errno.oneLine_symbolText⟩
  · cases hunsuitable <;> exact hdevice _ (oneLine_ofList (by decide))

theorem Report.unbroken_iff {report : Report} :
    report.Unbroken ↔ ∀ entry ∈ report.entries, OneLine entry.1 ∧ OneLine entry.2 := by
  simp only [Unbroken, texts, List.forall_mem_map, OneLine]

theorem Run.unbroken_device_iff (kernel : Kernel) (path : Bytes) :
    (device kernel path).value.report.Unbroken ↔
      0x0A ∉ path ∨ ∃ codecs, (probeDevice kernel path).value = .ok codecs := by
  rw [Report.unbroken_iff]
  cases hprobe : (probeDevice kernel path).value with
  | ok codecs =>
      have hnames : OneLine "SUPPORTED" ∧ OneLine "TRUE" ∧ OneLine "HWCODECS" :=
        ⟨oneLine_ofList (by decide), oneLine_ofList (by decide), oneLine_ofList (by decide)⟩
      have hmask := Text.oneLine_decimal codecs.bits.toNat
      have hentries : (device kernel path).value.report.entries =
          [("SUPPORTED", "TRUE"), ("HWCODECS", Text.decimal codecs.bits.toNat)] := by
        rw [value_device_of_ok hprobe]
        rfl
      simp [hentries, hnames, hmask]
  | error error =>
      have hname : OneLine "ERROR" := oneLine_ofList (by decide)
      have hentries : (device kernel path).value.report.entries =
          [("ERROR", error.report path)] := by
        rw [value_device_of_error hprobe]
        rfl
      simp [hentries, hname, oneLine_report_iff hprobe]

/-! ## Both renderings of a run -/

/-- What is read of the lines on standard output, and what of the object. -/
def Ending.readLines? (ending : Ending) : Option (List (List Char × List Char)) :=
  (Text.Utf8.decode? ending.stdout).bind Report.readLines?

def Ending.readObject? (ending : Ending) : Option (List (List Char × List Char)) :=
  (Text.Utf8.decode? ending.stdout).bind Report.readObject?

theorem Ending.readObject?_of_stdout {ending : Ending} {report : Report}
    (hstdout : ending.stdout = report.bytes .object) : ending.readObject? = some report.texts := by
  rw [readObject?, hstdout, Report.bytes, Text.Utf8.decode?_encode]
  exact report.readObject?_chars

theorem Ending.readLines?_of_stdout {ending : Ending} {report : Report}
    (hstdout : ending.stdout = report.bytes .lines) :
    ending.readLines? = some report.texts ↔ report.Unbroken := by
  rw [readLines?, hstdout, Report.bytes, Text.Utf8.decode?_encode]
  exact report.readLines?_chars_iff

section

variable {arguments : List Bytes} {settings : Settings} {path : Bytes}

theorem stdout_run_of_takes (environment : Environment) (machine : Machine) {stdout : Stdout}
    (hread : CommandLine.read .v4l2test arguments = .ok (.run settings))
    (hdevice : settings.device = some path) {format : OutputFormat}
    (hformat : Run.settingsFormat settings = format)
    (htakes : stdout.Takes
      ((Run.device (machine.kernelAt path) path).value.report.bytes format)) :
    (run .v4l2test arguments environment machine stdout).ending.stdout =
      (Run.device (machine.kernelAt path) path).value.report.bytes format := by
  rw [ending_run_of_device environment machine stdout hread hdevice, hformat,
    Run.value_probing_of_takes htakes]

/--
The object of a run on a device tells its report, and its lines tell the same
unless they are an error on a path with a line break.
-/
theorem device_run_framing (environment : Environment) (machine : Machine) (stdout : Stdout)
    (hread : CommandLine.read .v4l2test arguments = .ok (.run settings))
    (hdevice : settings.device = some path) (hjson : settings.json = false) :
    let answer := (probeDevice (machine.kernelAt path) path).value
    let lines := (run .v4l2test arguments environment machine stdout).ending
    let object := (run .v4l2test (Text.Utf8.bytes "--json" :: arguments) environment machine
      stdout).ending
    ∃ report code, Run.Story path answer report code ∧
      (stdout.Takes (report.bytes .lines) → stdout.Takes (report.bytes .object) →
        object.readObject? = some report.texts ∧
        (lines.readLines? = object.readObject? ↔
          0x0A ∉ path ∨ ∃ codecs, answer = .ok codecs)) := by
  intro answer lines object
  let report := (Run.device (machine.kernelAt path) path).value.report
  refine ⟨report, _, Run.story_device (machine.kernelAt path) path, ?_⟩
  intro htakesLines htakesObject
  have hlines : lines.stdout = report.bytes .lines :=
    stdout_run_of_takes environment machine hread hdevice
      (by simp [Run.settingsFormat, hjson]) htakesLines
  have hobject : object.stdout = report.bytes .object :=
    stdout_run_of_takes environment machine (CommandLine.read_json_cons hjson hread) hdevice
      rfl htakesObject
  have hunbroken : report.Unbroken ↔ 0x0A ∉ path ∨ ∃ codecs, answer = .ok codecs :=
    Run.unbroken_device_iff (machine.kernelAt path) path
  rw [Ending.readObject?_of_stdout hobject]
  exact ⟨rfl, (Ending.readLines?_of_stdout hlines).trans hunbroken⟩

theorem device_run_framing_bare :
    let arguments := [Text.Utf8.bytes "-d", Text.Utf8.bytes "v"]
    let lines := (run .v4l2test arguments {} .bare .writable).ending
    let object :=
      (run .v4l2test (Text.Utf8.bytes "--json" :: arguments) {} .bare .writable).ending
    CommandLine.read .v4l2test arguments = .ok (.run { device := some (Text.Utf8.bytes "v") }) ∧
      lines.readLines? = object.readObject? := by
  intro arguments lines object
  have hread : CommandLine.read .v4l2test arguments =
      .ok (.run { device := some (Text.Utf8.bytes "v") }) := by decide +kernel
  obtain ⟨report, _, _, hframing⟩ := device_run_framing {} .bare .writable hread rfl rfl
  obtain ⟨-, hiff⟩ := hframing (Stdout.takes_writable _) (Stdout.takes_writable _)
  exact ⟨hread, hiff.mpr (.inl (by decide))⟩

/-- A path whose lines read as a verdict of their own. -/
def forgedPath : Bytes := Text.Utf8.bytes "v\nSUPPORTED\nTRUE\nNOTE\n"

theorem device_run_forged :
    let arguments := [Text.Utf8.bytes "-d", forgedPath]
    let lines := (run .v4l2test arguments {} .bare .writable).ending
    let object :=
      (run .v4l2test (Text.Utf8.bytes "--json" :: arguments) {} .bare .writable).ending
    lines.readLines? = some (Report.texts ⟨[("ERROR", "V4L2 failed to open device v"),
        ("SUPPORTED", "TRUE"), ("NOTE", ": No such file or directory (os error 2)")]⟩) ∧
      object.readObject? = some (Report.texts ⟨[("ERROR", "V4L2 failed to open device v\n" ++
        "SUPPORTED\nTRUE\nNOTE\n: No such file or directory (os error 2)")]⟩) ∧
      lines.readLines? ≠ object.readObject? := by
  intro arguments lines object
  have hread : CommandLine.read .v4l2test arguments =
      .ok (.run { device := some forgedPath }) := by decide +kernel
  have hlines := stdout_run_of_takes {} .bare hread rfl rfl (Stdout.takes_writable _)
  have hobject := stdout_run_of_takes {} .bare (CommandLine.read_json_cons rfl hread) rfl rfl
    (Stdout.takes_writable _)
  have hread? : lines.readLines? = some (Report.texts ⟨[("ERROR", "V4L2 failed to open device v"),
      ("SUPPORTED", "TRUE"), ("NOTE", ": No such file or directory (os error 2)")]⟩) := by
    rw [Ending.readLines?, hlines, Report.bytes, Text.Utf8.decode?_encode]
    decide +kernel
  have hobject? : object.readObject? = some (Report.texts ⟨[("ERROR",
      "V4L2 failed to open device v\n" ++
        "SUPPORTED\nTRUE\nNOTE\n: No such file or directory (os error 2)")]⟩) := by
    rw [Ending.readObject?_of_stdout hobject]
    decide +kernel
  refine ⟨hread?, hobject?, ?_⟩
  rw [hread?, hobject?]
  simp [Report.texts]

end

end DecodeProbe
