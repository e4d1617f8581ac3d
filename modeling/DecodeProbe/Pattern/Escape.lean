import DecodeProbe.Pattern.Cursor
import DecodeProbe.Pattern.Tree
import DecodeProbe.Text.Escaped

/-!
# Escapes in patterns

A backslash takes away the meaning of a punctuation mark and gives one to a
letter: a control character, a character by its hexadecimal code, a class or an
assertion.
-/

namespace DecodeProbe.Escape

open Cursor (fail)

abbrev Result := Except Complaint (Tree × Cursor)

def hexDigit? (c : Char) : Option Nat := Text.Escaped.hexValue? c.toLower

def hexValue (digits : List Char) : Nat :=
  digits.foldl (fun value c => 16 * value + (hexDigit? c).getD 0) 0

def ofCode (digits : List Char) (fault written : Span) (isByte : Bool) (later : Cursor) : Result :=
  let code := hexValue digits
  if code.isValidChar then .ok (.literal ⟨written, Char.ofNat code, isByte⟩, later)
  else fail .hexNoScalar fault

def readHexDigits (cursor : Cursor) : Nat → Except Complaint (List Char × Cursor)
  | 0 => .ok ([], cursor)
  | count + 1 =>
      match cursor.char? with
      | none => fail .escapeCutShort cursor.here
      | some c =>
          if (hexDigit? c).isNone then fail .hexDigit cursor.spanChar
          else do
            let (digits, later) ← readHexDigits cursor.advance count
            return (c :: digits, later)

def readHex (start : Position) (cursor : Cursor) (count : Nat) : Result := do
  let opening := cursor.advance
  match opening.char? with
  | none => fail .escapeCutShort opening.here
  | some '\x7b' =>
      let (digits, closing) := opening.advance.takeWhile (· ≠ '\x7d') Cursor.advance
      let isDigit := fun c => (hexDigit? c).isSome
      let (good, stopped) := opening.advance.takeWhile isDigit Cursor.advance
      if good.length < digits.length then fail .hexDigit stopped.spanChar
      else if closing.atEnd then fail .escapeCutShort (closing.since opening.position)
      else
        let later := closing.advance
        if digits.isEmpty then fail .hexEmpty (later.since opening.position)
        else
          ofCode digits (closing.since opening.bump.position) (later.since start) false later
  | some _ =>
      let (digits, later) ← readHexDigits opening count
      ofCode digits (later.since opening.position) (later.since start) (count = 2) later

/-- The name of a property, one letter or anything in braces. -/
def readProperty (start : Position) (cursor : Cursor) : Result :=
  let opening := cursor.advance
  match opening.char? with
  | none => fail .escapeCutShort opening.here
  | some '\x7b' =>
      let (name, closing) := opening.advance.takeWhile (· ≠ '\x7d') Cursor.advance
      if closing.atEnd then fail .escapeCutShort closing.here
      else .ok (.property (closing.bump.since start) name, closing.bump)
  | some '\\' => fail .propertyInvalid opening.spanChar
  | some c => .ok (.property (opening.advance.since start) [c], opening.advance)

def wordEdges : List (String × WordEdge) :=
  [("start", .start), ("end", .finish), ("start-half", .startHalf), ("end-half", .finishHalf)]

/--
What may follow the letter of a word boundary: the name of one edge in braces.
Braces that do not begin like a name are left for a repetition.
-/
def readWordEdge (start : Position) (cursor : Cursor) : Result :=
  let plain : Result := .ok (.assertion (cursor.since start) (.word .boundary), cursor)
  let isNameChar (c : Char) : Bool := c.isAlpha || c = '-'
  if cursor.char? ≠ some '\x7b' then plain
  else
    let opening := cursor.advance
    match opening.char? with
    | none => fail .wordEdgeCutShort (opening.since start)
    | some c =>
        if !isNameChar c then plain
        else
          let (name, closing) := opening.takeWhile isNameChar Cursor.advance
          if closing.char? ≠ some '\x7d' then
            fail .wordEdgeUnclosed (closing.since cursor.position)
          else
            match wordEdges.lookup (String.ofList name) with
            | some edge => .ok (.assertion (closing.bump.since start) (.word edge), closing.bump)
            | none => fail .wordEdgeUnknown (closing.since opening.position)

def shorthand? : Char → Option (Shorthand × Bool)
  | 'd' => some (.digit, false)
  | 'D' => some (.digit, true)
  | 's' => some (.space, false)
  | 'S' => some (.space, true)
  | 'w' => some (.word, false)
  | 'W' => some (.word, true)
  | _ => none

def control? : Char → Option Char
  | 'a' => some '\x07'
  | 'f' => some '\x0C'
  | 't' => some '\t'
  | 'n' => some '\n'
  | 'r' => some '\r'
  | 'v' => some '\x0B'
  | _ => none

def assertion? : Char → Option Assertion
  | 'A' => some .textStart
  | 'z' => some .textEnd
  | 'B' => some (.word .inside)
  | '<' => some (.word .start)
  | '>' => some (.word .finish)
  | _ => none

/-- The characters of ASCII but letters, digits and angle brackets stand for themselves. -/
def isPlain (c : Char) : Bool := c < '\x80' && !c.isAlphanum && c ≠ '<' && c ≠ '>'

def hexCount? : Char → Option Nat
  | 'x' => some 2
  | 'u' => some 4
  | 'U' => some 8
  | _ => none

def read (cursor : Cursor) : Result :=
  let start := cursor.position
  let named := cursor.bump
  match named.char? with
  | none => fail .escapeCutShort (named.since start)
  | some c =>
      let later := named.bump
      let span := later.since start
      if c.isDigit then fail .backreference span
      else if c = 'p' ∨ c = 'P' then readProperty start named
      else if c = 'b' then readWordEdge start later
      else
        match hexCount? c, shorthand? c with
        | some count, _ => readHex start named count
        | none, some (kind, negated) => .ok (.shorthand span kind negated, later)
        | none, none =>
            match control? c, assertion? c with
            | some plain, _ => .ok (.literal ⟨span, plain, false⟩, later)
            | none, some kind => .ok (.assertion span kind, later)
            | none, none =>
                if isPlain c then .ok (.literal ⟨span, c, false⟩, later)
                else fail .escapeUnknown span

end DecodeProbe.Escape
