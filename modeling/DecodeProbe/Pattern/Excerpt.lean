import DecodeProbe.Text.Fields
import DecodeProbe.Text.Numeral

/-!
# Excerpts

A complaint about a pattern repeats the pattern and underlines the parts that it
is about.  A pattern of several lines is repeated with line numbers; parts that
reach over a line end are named by their line and column instead.
-/

namespace DecodeProbe

structure Position where
  offset : Nat := 0
  line : Nat := 1
  column : Nat := 1
  deriving DecidableEq, Repr

def Position.after (position : Position) (c : Char) : Position :=
  if c = '\n' then ⟨position.offset + 1, position.line + 1, 1⟩
  else ⟨position.offset + 1, position.line, position.column + 1⟩

structure Span where
  start : Position
  finish : Position
  deriving DecidableEq, Repr

namespace Span

def isOneLine (span : Span) : Bool := span.start.line == span.finish.line

def isBefore (first second : Span) : Bool :=
  first.start.offset < second.start.offset ||
    first.start.offset = second.start.offset && first.finish.offset ≤ second.finish.offset

end Span

namespace Excerpt

/-- The lines of a text without their ends; a line end may begin with a carriage return. -/
def lines (text : List Char) : List (List Char) :=
  let fields := Text.fields '\n' text
  let ended := fields.dropLast.map fun line =>
    if line.getLast? = some '\r' then line.dropLast else line
  match fields.getLast? with
  | none | some [] => ended
  | some last => ended ++ [last]

def numberWidth (pattern : List Char) : Nat :=
  let count := (lines pattern).length + if pattern.getLast? = some '\n' then 1 else 0
  if count ≤ 1 then 0 else (Text.decimalDigits count).length

def margin (width line : Nat) : List Char :=
  if width = 0 then List.replicate 4 ' '
  else
    let number := Text.decimalDigits line
    List.replicate (width - number.length) ' ' ++ number ++ [':', ' ']

def underline (column : Nat) : List Span → List Char
  | [] => []
  | span :: rest =>
      let start := max column span.start.column
      let length := max 1 (span.finish.column - span.start.column)
      List.replicate (start - column) ' ' ++ List.replicate length '^' ++
        underline (start + length) rest

def annotated (width : Nat) (spans : List Span) (line : Nat) (content : List Char) : List Char :=
  let own := spans.filter fun span => span.isOneLine && span.start.line == line
  let below :=
    if own.isEmpty then []
    else List.replicate (if width = 0 then 4 else width + 2) ' ' ++ underline 1 own ++ ['\n']
  margin width line ++ content ++ ['\n'] ++ below

def placed (span : Span) : String :=
  let decimal := Text.decimal
  s!"on line {decimal span.start.line} (column {decimal span.start.column}) " ++
    s!"through line {decimal span.finish.line} (column {decimal (span.finish.column - 1)})"

def text (pattern : List Char) (spans : List Span) : String :=
  let spans := spans.mergeSort Span.isBefore
  let width := numberWidth pattern
  let body := String.ofList <|
    ((lines pattern).zipIdx 1).flatMap fun entry => annotated width spans entry.2 entry.1
  if pattern.contains '\n' then
    let rule := String.ofList (List.replicate 79 '~') ++ "\n"
    let elsewhere := spans.filter fun span => !span.isOneLine
    let notes :=
      if elsewhere.isEmpty then "" else "\n".intercalate (elsewhere.map placed) ++ "\n"
    rule ++ body ++ rule ++ notes
  else body

end Excerpt

end DecodeProbe
