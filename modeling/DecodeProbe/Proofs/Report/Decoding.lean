import DecodeProbe.Proofs.Report.Framing
import DecodeProbe.Proofs.Sink
import DecodeProbe.Proofs.Text.Utf8

/-!
# Decoding what was flushed

Whatever steps a report is made of, its entries come back from the bytes that a
sink took.  An object gives them back always, and no control character stands in
it; lines give them back unless an entry breaks its line.
-/

namespace DecodeProbe

/-! ## Text without control characters -/

namespace Text

/-- No character is a control character below the space. -/
def Visible (text : List Char) : Prop := ∀ c ∈ text, 0x20 ≤ c.toNat

instance (text : List Char) : Decidable (Visible text) :=
  List.decidableBAll (fun c : Char => 0x20 ≤ c.toNat) text

theorem visible_append (first second : List Char) :
    Visible (first ++ second) ↔ Visible first ∧ Visible second := by
  simp [Visible, or_imp, forall_and]

theorem Quoted.visible_quoteChar (c : Char) : Visible (quoteChar c) := by
  unfold quoteChar
  split
  · next hspecial => rcases hspecial with rfl | rfl <;> decide
  · split
    · next hsmall =>
      split
      · next letter hletter =>
        have hmem : (c, letter) ∈ letters := by
          obtain ⟨before, after, hsplit, -⟩ := List.lookup_eq_some_iff.mp hletter
          simp [hsplit]
        have hletters : ∀ entry ∈ letters, Visible ['\\', entry.2] := by decide
        exact hletters _ hmem
      · have hdigit : ∀ n < 16, 0x20 ≤ (Nat.digitChar n).toNat := by decide
        have hhigh := hdigit (c.toNat / 16) (by omega)
        have hlow := hdigit (c.toNat % 16) (by omega)
        have hhead : Visible ['\\', 'u', '0', '0'] := by decide
        refine (visible_append ['\\', 'u', '0', '0'] _).mpr ⟨hhead, ?_⟩
        simp [Visible, hhigh, hlow]
    · next hlarge =>
      simp only [Visible, List.mem_singleton, forall_eq]
      omega

theorem Quoted.visible_quote (text : List Char) : Visible (quote text) := by
  intro c hmem
  rw [quote, List.cons_append, List.mem_cons, List.mem_append, List.mem_flatMap] at hmem
  rcases hmem with rfl | ⟨inner, -, hinner⟩ | hlast
  · decide
  · exact visible_quoteChar inner c hinner
  · obtain rfl : c = '"' := List.mem_singleton.mp hlast
    decide

/-- No byte of such a text is a control byte either. -/
theorem Utf8.visible_encode {text : List Char} (hvisible : Visible text) :
    ∀ b ∈ encode text, 0x20 ≤ b := by
  intro b hmem
  by_contra hsmall
  have hcontrol : b.toNat < 0x20 := by
    simpa [UInt8.le_iff_toNat_le] using hsmall
  have hvalue : (Char.ofNat b.toNat).toNat = b.toNat := toNat_charOfNat (.inl (by omega))
  have hchar : Char.ofNat b.toNat ∈ text := by
    have hshown := ascii_mem_lossy (c := Char.ofNat b.toNat) (by omega) (encode text)
    rw [lossy_encode, hvalue, UInt8.ofNat_toNat] at hshown
    exact hshown.mpr hmem
  have hlarge := hvisible _ hchar
  omega

end Text

namespace Report

open Text (Visible visible_append)

/-! ## The entries of a report -/

/-- The key and the value that a step adds. -/
def Step.entry : Step → String × String
  | .value key text => (key, text)
  | .error message => ("ERROR", message)
  | .supported answer => ("SUPPORTED", if answer then "TRUE" else "FALSE")
  | .codecs set => ("HWCODECS", Text.decimal set.bits.toNat)

/-- A new report after some steps. -/
def ofSteps (steps : List Step) : Report := (steps.foldlM perform {} : Traced Empty Report).value

theorem entries_perform {κ : Type} (report : Report) (step : Step) :
    (report.perform step : Traced κ Report).value.entries = report.entries ++ [step.entry] := by
  cases step <;> rfl

theorem entries_foldlM_perform {κ : Type} (steps : List Step) (report : Report) :
    (steps.foldlM perform report : Traced κ Report).value.entries =
      report.entries ++ steps.map Step.entry := by
  induction steps generalizing report with
  | nil => simp
  | cons step steps ih => simp [ih, entries_perform]

theorem entries_ofSteps (steps : List Step) : (ofSteps steps).entries = steps.map Step.entry := by
  rw [ofSteps, entries_foldlM_perform, List.nil_append]

/-! ## The object -/

theorem visible_memberPieces (entry : String × String) : Visible (memberPieces entry).flatten := by
  have hcolon : Visible [':'] := by decide
  simp only [memberPieces, List.flatten_cons, List.flatten_nil, List.append_nil, visible_append]
  exact ⟨Text.Quoted.visible_quote _, hcolon, Text.Quoted.visible_quote _⟩

theorem visible_memberChars (entries : List (String × String)) : Visible (memberChars entries) := by
  induction entries with
  | nil => simp [memberChars, List.intercalate, Visible]
  | cons entry entries ih =>
      cases entries with
      | nil =>
          rw [memberChars_singleton]
          exact visible_memberPieces entry
      | cons next entries =>
          have hcomma : Visible [','] := by decide
          rw [memberChars_cons_cons, ← List.singleton_append, visible_append, visible_append]
          exact ⟨visible_memberPieces entry, hcomma, ih⟩

theorem visible_objectChars (report : Report) : Visible report.objectChars := by
  have hopen : Visible ['\x7b'] := by decide
  have hclose : Visible ['\x7d'] := by decide
  rw [objectChars, ← List.singleton_append, visible_append, visible_append]
  exact ⟨hopen, visible_memberChars _, hclose⟩

/-! ## What a sink took -/

theorem flush_of_endless {sink : Sink} (hroom : sink.room = none)
    (hflush : sink.flushFault = none) (report : Report) (format : OutputFormat) :
    (report.flush format sink).1 = .ok () ∧
      (report.flush format sink).2.taken = report.bytes format :=
  (report.delivered_flush format sink).of_endless hroom hflush

/--
A sink that takes everything has taken an object and a line break, or lines, and
the entries of all steps are read back from either.
-/
theorem flush_decodable {sink : Sink} (hroom : sink.room = none) (hflush : sink.flushFault = none)
    (steps : List Step) :
    let object := (ofSteps steps).flush .object sink
    let lines := (ofSteps steps).flush .lines sink
    let texts := (steps.map Step.entry).map fun entry => (entry.1.toList, entry.2.toList)
    object.1 = .ok () ∧ lines.1 = .ok () ∧
    (∃ content, object.2.taken = content ++ [0x0A] ∧ (∀ b ∈ content, 0x20 ≤ b) ∧
      (Text.Utf8.decode? content).bind readObject? = some texts) ∧
    ((Text.Utf8.decode? lines.2.taken).bind readLines? = some texts ↔
      ∀ text ∈ texts, '\n' ∉ text.1 ∧ '\n' ∉ text.2) ∧
    (∀ (index : Nat) (codecs : CodecSet), steps[index]? = some (.codecs codecs) →
      ∃ text, texts[index]? = some text ∧
        Text.readDecimal? text.2 = some codecs.bits.toNat) ∧
    (steps = [] → object.2.taken = [0x7B, 0x7D, 0x0A] ∧ lines.2.taken = []) := by
  intro object lines texts
  have htexts : (ofSteps steps).texts = texts := by rw [Report.texts, entries_ofSteps]
  obtain ⟨hobject, hobjectBytes⟩ := flush_of_endless hroom hflush (ofSteps steps) .object
  obtain ⟨hlines, hlinesBytes⟩ := flush_of_endless hroom hflush (ofSteps steps) .lines
  refine ⟨hobject, hlines, ?object, ?lines, ?codecs, ?empty⟩
  case object =>
    refine ⟨Text.Utf8.encode (ofSteps steps).objectChars, ?_,
      Text.Utf8.visible_encode (ofSteps steps).visible_objectChars, ?_⟩
    · rw [hobjectBytes, bytes, chars_object, Text.Utf8.encode_append]
      rfl
    · have hnone : tokens? .between [] = some [] := rfl
      have hread := (ofSteps steps).readObject?_objectChars hnone
      rw [List.append_nil, htexts] at hread
      rw [Text.Utf8.decode?_encode, Option.bind_some, hread]
  case lines =>
    rw [hlinesBytes, bytes, Text.Utf8.decode?_encode, Option.bind_some, ← htexts]
    exact (ofSteps steps).readLines?_chars_iff
  case codecs =>
    intro index codecs hstep
    refine ⟨("HWCODECS".toList, Text.decimalDigits codecs.bits.toNat), ?_,
      Text.readDecimal?_decimalDigits _⟩
    simp [texts, hstep, Step.entry, Text.decimal]
  case empty =>
    rintro rfl
    rw [hobjectBytes, hlinesBytes]
    exact ⟨rfl, rfl⟩

theorem flush_decodable_in_portions :
    let sink : Sink := { chunk := some 3, interrupts := true }
    let steps : List Step := [.value "" "a\"\\\t", .value "" "\x01", .codecs ⟨0x80000010⟩]
    let texts : List (List Char × List Char) :=
      [([], ['a', '"', '\\', '\t']), ([], ['\x01']), ("HWCODECS".toList, "2147483664".toList)]
    sink.room = none ∧ sink.flushFault = none ∧
      (∃ content, ((ofSteps steps).flush .object sink).2.taken = content ++ [0x0A] ∧
        (Text.Utf8.decode? content).bind readObject? = some texts) ∧
      (Text.Utf8.decode? ((ofSteps steps).flush .lines sink).2.taken).bind readLines? =
        some texts := by
  intro sink steps texts
  have hroom : sink.room = none := by decide
  obtain ⟨-, -, ⟨content, hcontent, -, hread⟩, hlines, -, -⟩ := flush_decodable hroom rfl steps
  have htexts : (steps.map Step.entry).map (fun entry => (entry.1.toList, entry.2.toList)) =
      texts := by decide
  rw [htexts] at hread hlines
  exact ⟨hroom, rfl, ⟨content, hcontent, hread⟩, hlines.mpr (by decide)⟩

end Report

end DecodeProbe
