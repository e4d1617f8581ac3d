import DecodeProbe.CodecSet
import DecodeProbe.Text.Quoted
import DecodeProbe.Text.Utf8
import DecodeProbe.Trace

/-!
# Reports

The result of a probe is a list of keys with values, kept in the order in which
they were added.  It is written for the parent process either as lines, each key
and each value on its own line, or as one object on a line.
-/

namespace DecodeProbe

open DecodeProbe.Text.Utf8 (Bytes)

inductive OutputFormat where
  | lines
  | object
  deriving DecidableEq, Repr

instance : Inhabited OutputFormat := ⟨.lines⟩

structure Report where
  entries : List (String × String) := []
  deriving DecidableEq, Repr

namespace Report

def supportedKey : String := "SUPPORTED"
def codecsKey : String := "HWCODECS"
def errorKey : String := "ERROR"

def add (report : Report) (key value : String) : Report := ⟨report.entries ++ [(key, value)]⟩

def addSupported (report : Report) (supported : Bool) : Report :=
  report.add supportedKey (if supported then "TRUE" else "FALSE")

def addCodecs (report : Report) (codecs : CodecSet) : Report := report.add codecsKey codecs.text

/-- An error goes into the report and into the log. -/
def addError {κ : Type} (report : Report) (message : String) : Traced κ Report := do
  Traced.note .report ("probe failed: " ++ message)
  return report.add errorKey message

inductive Step where
  | value (key value : String)
  | error (message : String)
  | supported (supported : Bool)
  | codecs (codecs : CodecSet)
  deriving DecidableEq, Repr

def perform {κ : Type} (report : Report) : Step → Traced κ Report
  | .value key value => return report.add key value
  | .error message => report.addError message
  | .supported supported => return report.addSupported supported
  | .codecs codecs => return report.addCodecs codecs

def linePieces (report : Report) : List (List Char) :=
  report.entries.flatMap fun entry => [entry.1.toList, ['\n'], entry.2.toList, ['\n']]

def memberPieces (entry : String × String) : List (List Char) :=
  [Text.Quoted.quote entry.1.toList, [':'], Text.Quoted.quote entry.2.toList]

def objectPieces (report : Report) : List (List Char) :=
  [['\x7b']] ++ [[',']].intercalate (report.entries.map memberPieces) ++ [['\x7d'], ['\n']]

/-- The pieces of text in which a report is handed to a sink. -/
def pieces : OutputFormat → Report → List (List Char)
  | .lines, report => report.linePieces
  | .object, report => report.objectPieces

def chars (format : OutputFormat) (report : Report) : List Char := (report.pieces format).flatten

def render (format : OutputFormat) (report : Report) : String :=
  String.ofList (report.chars format)

example : (render .lines ⟨[("SUPPORTED", "TRUE")]⟩).toList =
    ['S', 'U', 'P', 'P', 'O', 'R', 'T', 'E', 'D', '\n', 'T', 'R', 'U', 'E', '\n'] := by
  decide

example : chars .object ⟨[]⟩ = ['\x7b', '\x7d', '\n'] := by decide

end Report

end DecodeProbe
