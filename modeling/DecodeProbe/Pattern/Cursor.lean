import DecodeProbe.Pattern.Fault
import DecodeProbe.Text.Blank

/-!
# Reading a pattern

A cursor stands in the text of a pattern and knows its position.  In verbose
reading, blanks and comments between the parts of a pattern are skipped; a
comment reaches from a number sign to the end of the line.
-/

namespace DecodeProbe

structure Cursor where
  rest : List Char
  position : Position := {}
  verbose : Bool := false
  deriving DecidableEq, Repr

namespace Cursor

/-- Stands behind one more character. -/
def bump (cursor : Cursor) : Cursor :=
  match cursor.rest with
  | [] => cursor
  | c :: rest => { cursor with rest := rest, position := cursor.position.after c }

def bumps (cursor : Cursor) : Nat → Cursor
  | 0 => cursor
  | count + 1 => cursor.bump.bumps count

def skipFrom (inComment : Bool) (position : Position) : List Char → Position × List Char
  | [] => (position, [])
  | c :: rest =>
      if inComment then skipFrom (c ≠ '\n') (position.after c) rest
      else if Text.isBlank c then skipFrom false (position.after c) rest
      else if c = '#' then skipFrom true (position.after c) rest
      else (position, c :: rest)

def skip (cursor : Cursor) : Cursor :=
  if cursor.verbose then
    let (position, rest) := skipFrom false cursor.position cursor.rest
    { cursor with rest := rest, position := position }
  else cursor

def advance (cursor : Cursor) : Cursor := cursor.bump.skip

def atEnd (cursor : Cursor) : Bool := cursor.rest.isEmpty

def char? (cursor : Cursor) : Option Char := cursor.rest.head?

def peek? (cursor : Cursor) : Option Char := cursor.rest[1]?

/-- The same in verbose reading, where blanks do not count and a number sign hides itself. -/
def peekPart? (cursor : Cursor) : Option Char :=
  if cursor.verbose then
    let parts := (cursor.rest.drop 1).filter fun c => !Text.isBlank c
    match parts with
    | '#' :: more => more.head?
    | parts => parts.head?
  else cursor.peek?

def here (cursor : Cursor) : Span := ⟨cursor.position, cursor.position⟩

def since (cursor : Cursor) (start : Position) : Span := ⟨start, cursor.position⟩

def spanChar (cursor : Cursor) : Span := ⟨cursor.position, cursor.bump.position⟩

def startsWith (cursor : Cursor) (text : String) : Bool := text.toList.isPrefixOf cursor.rest

def takeLoop (keeps : Char → Bool) (move : Cursor → Cursor) : Nat → Cursor → List Char × Cursor
  | 0, cursor => ([], cursor)
  | fuel + 1, cursor =>
      match cursor.rest with
      | [] => ([], cursor)
      | c :: _ =>
          if keeps c then
            let (taken, later) := takeLoop keeps move fuel (move cursor)
            (c :: taken, later)
          else ([], cursor)

/-- The characters up to the first one that is not kept, where each move goes past one. -/
def takeWhile (cursor : Cursor) (keeps : Char → Bool) (move : Cursor → Cursor) :
    List Char × Cursor :=
  takeLoop keeps move cursor.rest.length cursor

def fail {α : Type} (fault : Fault) (span : Span) : Except Complaint α := .error ⟨fault, span, none⟩

/-- A decimal number of at most 32 bits, blanks around it and blanks between its digits. -/
def readNumber (cursor : Cursor) : Except Complaint Nat × Cursor :=
  let (_, begun) := cursor.takeWhile Text.isBlank bump
  let (digits, ended) := begun.takeWhile Char.isDigit advance
  let (_, later) := ended.takeWhile Text.isBlank advance
  let span := ended.since begun.position
  let value :=
    match Text.readDecimal? digits with
    | none => fail .countEmpty span
    | some value => if value < 0x100000000 then .ok value else fail .decimalInvalid span
  (value, later)

end Cursor

end DecodeProbe
