import DecodeProbe.Pattern.Escape

/-!
# Character classes in brackets

A class is a union of characters, ranges, named classes and further classes in
brackets.  Two classes can be intersected, taken from one another or compared
by a doubled mark between them; such marks bind from left to right.
-/

namespace DecodeProbe.Bracket

open Cursor (fail)

structure Union where
  span : Span
  items : List SetTree := []
  deriving Repr

def Union.push (union : Union) (item : SetTree) : Union :=
  let start := if union.items.isEmpty then item.span.start else union.span.start
  ⟨⟨start, item.span.finish⟩, item :: union.items⟩

def Union.tree (union : Union) : SetTree :=
  match union.items with
  | [] => .nothing union.span
  | [item] => item
  | items => .union union.span items.reverse

/-- What is open around the union that is being read, innermost first. -/
inductive Frame where
  | bracket (outer : Union) (span : Span) (negated : Bool)
  | operand (kind : SetOperation) (left : SetTree)
  deriving Repr

structure State where
  cursor : Cursor
  union : Union
  frames : List Frame
  deriving Repr

def openSpan? : List Frame → Option Span
  | [] => none
  | .bracket _ span _ :: _ => some span
  | .operand .. :: rest => openSpan? rest

def failUnclosed {α : Type} (state : State) : Except Complaint α :=
  fail .classUnclosed ((openSpan? state.frames).getD state.cursor.here)

/-- Dashes at the beginning of a class stand for themselves. -/
def readDashes (start : Position) : Nat → Cursor → Union → Except Complaint (Cursor × Union)
  | 0, cursor, union => .ok (cursor, union)
  | fuel + 1, cursor, union =>
      if cursor.char? = some '-' then
        let union := union.push (.literal ⟨cursor.spanChar, '-', false⟩)
        let later := cursor.advance
        if later.atEnd then fail .classUnclosed ⟨start, start⟩
        else readDashes start fuel later union
      else .ok (cursor, union)

/-- Reads the beginning of a class; a closing bracket there stands for itself. -/
def openBracket (state : State) : Except Complaint State := do
  let start := state.cursor.position
  let first := state.cursor.advance
  if first.atEnd then fail .classUnclosed (first.since start)
  let negated := first.char? = some '^'
  let second := if negated then first.advance else first
  if second.atEnd then fail .classUnclosed (second.since start)
  let (third, union) ← readDashes start second.rest.length second ⟨second.here, []⟩
  if union.items.isEmpty ∧ third.char? = some ']' then
    let union := union.push (.literal ⟨third.spanChar, ']', false⟩)
    let fourth := third.advance
    if fourth.atEnd then fail .classUnclosed (fourth.since start)
    return ⟨fourth, union, .bracket state.union (fourth.since start) negated :: state.frames⟩
  return ⟨third, union, .bracket state.union (third.since start) negated :: state.frames⟩

/-- A named class with its brackets, such as `[:alpha:]`, if there is one. -/
def readAscii? (cursor : Cursor) : Option (SetTree × Cursor) :=
  match cursor.rest with
  | '[' :: ':' :: more =>
      let negated := more.head? = some '^'
      let body := if negated then more.drop 1 else more
      let name := body.takeWhile (· ≠ ':')
      match (body.drop name.length).take 2, asciiClasses.lookup (String.ofList name) with
      | [':', ']'], some ranges =>
          let later := cursor.bumps (name.length + if negated then 5 else 4)
          some (.ascii (later.since cursor.position) (.ofRanges ranges) negated, later)
      | _, _ => none
  | _ => none

def operation? (cursor : Cursor) : Option SetOperation :=
  if cursor.startsWith "&&" then some .inter
  else if cursor.startsWith "--" then some .diff
  else if cursor.startsWith "~~" then some .symmDiff
  else none

def readItem (cursor : Cursor) : Escape.Result :=
  match cursor.char? with
  | some '\\' => Escape.read cursor
  | some c => .ok (.literal ⟨cursor.spanChar, c, false⟩, cursor.bump)
  | none => fail .classUnclosed cursor.here

def itemOf : Tree → Except Complaint SetTree
  | .literal written => .ok (.literal written)
  | .shorthand span kind negated => .ok (.shorthand span kind negated)
  | .property span name => .ok (.property span name)
  | other => fail .classEscape other.span

def literalOf : Tree → Except Complaint Literal
  | .literal written => .ok written
  | other => fail .classRangeBoundary other.span

def readRange (state : State) : Except Complaint (SetTree × Cursor) := do
  let (first, afterFirst) ← readItem state.cursor
  let dash := afterFirst.skip
  if dash.atEnd then failUnclosed state
  let next := dash.peekPart?
  if dash.char? ≠ some '-' ∨ next = some ']' ∨ next = some '-' then
    return (← itemOf first, dash)
  let second := dash.advance
  if second.atEnd then failUnclosed state
  let (last, later) ← readItem second
  let span : Span := ⟨first.span.start, last.span.finish⟩
  let low ← literalOf first
  let high ← literalOf last
  if high.char < low.char then fail .classRangeReversed span
  return (.range span low high, later)

/-- The operation that is waiting for its right side, and what is open around it. -/
def closeOperation (right : SetTree) : List Frame → SetTree × List Frame
  | .operand kind left :: rest =>
      (.operation ⟨left.span.start, right.span.finish⟩ kind left right, rest)
  | frames => (right, frames)

def readFrom : Nat → State → Escape.Result
  | 0, state => failUnclosed state
  | fuel + 1, state => do
      let cursor := state.cursor.skip
      let state := { state with cursor := cursor }
      match cursor.char? with
      | none => failUnclosed state
      | some '[' =>
          match readAscii? cursor with
          | some (item, later) =>
              readFrom fuel { state with cursor := later, union := state.union.push item }
          | none => readFrom fuel (← openBracket state)
      | some ']' =>
          match closeOperation state.union.tree state.frames with
          | (body, .bracket outer span negated :: frames) =>
              let later := cursor.bump
              let span : Span := ⟨span.start, later.position⟩
              if frames.isEmpty then return (.bracketed span negated body, later)
              else readFrom fuel ⟨later, outer.push (.bracketed span negated body), frames⟩
          | _ => failUnclosed state
      | some _ =>
          match operation? cursor with
          | some kind =>
              let (left, frames) := closeOperation state.union.tree state.frames
              let later := cursor.bumps 2
              readFrom fuel ⟨later, ⟨later.here, []⟩, .operand kind left :: frames⟩
          | none =>
              let (item, later) ← readRange state
              readFrom fuel { state with cursor := later, union := state.union.push item }

def read (cursor : Cursor) : Escape.Result := do
  readFrom cursor.rest.length (← openBracket ⟨cursor, ⟨cursor.here, []⟩, []⟩)

end DecodeProbe.Bracket
