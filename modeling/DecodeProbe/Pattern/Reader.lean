import DecodeProbe.Pattern.Bracket

/-!
# Written patterns

A pattern is read from left to right.  What is open at a place is kept innermost
first: the branches and items of the group that is being read, and below it the
groups around it.
-/

namespace DecodeProbe.Tree

open Cursor (fail)

structure Level where
  start : Position
  branches : List Tree := []
  itemStart : Position
  items : List Tree := []
  deriving Repr

namespace Level

def startingAt (position : Position) : Level := { start := position, itemStart := position }

def push (level : Level) (item : Tree) : Level := { level with items := item :: level.items }

def branch (level : Level) (finish : Position) : Tree :=
  match level.items with
  | [] => .empty ⟨level.itemStart, finish⟩
  | [item] => item
  | items => .sequence ⟨level.itemStart, finish⟩ items.reverse

def tree (level : Level) (finish : Position) : Tree :=
  match level.branches with
  | [] => level.branch finish
  | branches => .alternation ⟨level.start, finish⟩ (level.branch finish :: branches).reverse

end Level

/-- A group that is open; a group without flags is captured. -/
structure OpenGroup where
  span : Span
  flags : Option (List FlagItem)
  verbose : Bool
  outer : Level
  deriving Repr

structure Reading where
  cursor : Cursor
  names : List (List Char × Span) := []
  level : Level
  groups : List OpenGroup := []
  deriving Repr

def Reading.put (reading : Reading) (item : Tree) (cursor : Cursor) : Reading :=
  { reading with cursor := cursor, level := reading.level.push item }

/-- The letters of a group of flags, up to a colon or a closing parenthesis. -/
def readFlags : Nat → Cursor → List FlagItem → Except Complaint (List FlagItem × Cursor)
  | 0, cursor, _ => fail .flagMissing cursor.here
  | fuel + 1, cursor, items =>
      match cursor.char? with
      | none => fail .flagMissing cursor.here
      | some c =>
          if c = ':' ∨ c = ')' then
            match items.getLast? with
            | some ⟨span, none⟩ => fail .flagNegationDangling span
            | _ => .ok (items, cursor)
          else
            let flag := PatternFlag.ofLetter? c
            if c ≠ '-' ∧ flag.isNone then fail .flagUnknown cursor.spanChar
            else
              match items.find? (·.flag = flag) with
              | some earlier =>
                  .error ⟨if c = '-' then .flagNegationTwice else .flagTwice, cursor.spanChar,
                    some earlier.span⟩
              | none => readFlags fuel cursor.bump (items ++ [⟨cursor.spanChar, flag⟩])

/-- A name begins with a letter or an underscore; what is beyond ASCII counts as a letter. -/
def isNameChar (isFirst : Bool) (c : Char) : Bool :=
  let isLetter := c.isAlpha || '\x80' ≤ c
  if isFirst then c = '_' || isLetter
  else c = '_' || c = '.' || c = '[' || c = ']' || c.isDigit || isLetter

def readNameFrom (start : Position) : Nat → Cursor → Except Complaint (List Char × Cursor)
  | 0, cursor => fail .groupNameUnclosed cursor.here
  | fuel + 1, cursor =>
      match cursor.char? with
      | none => fail .groupNameUnclosed cursor.here
      | some c =>
          if c = '>' then .ok ([], cursor)
          else if !isNameChar (cursor.position = start) c then
            fail .groupNameInvalid cursor.spanChar
          else do
            let (name, later) ← readNameFrom start fuel cursor.bump
            return (c :: name, later)

/-- The name of a group up to its angle bracket; no two groups share a name. -/
def readName (names : List (List Char × Span)) (cursor : Cursor) :
    Except Complaint (List Char × Span × Cursor) := do
  let start := cursor.position
  let (name, closing) ← readNameFrom start (cursor.rest.length + 1) cursor
  let span := closing.since start
  if name.isEmpty then fail .groupNameEmpty ⟨start, start⟩
  match names.lookup name with
  | some earlier => throw ⟨.groupNameTwice, span, some earlier⟩
  | none => return (name, span, closing.bump)

def Reading.enter (reading : Reading) (span : Span) (flags : Option (List FlagItem))
    (cursor : Cursor) : Reading :=
  let group : OpenGroup := ⟨span, flags, cursor.verbose, reading.level⟩
  let verbose := (flags.bind fun items => FlagItem.stateOf? items .verbose).getD cursor.verbose
  { reading with
    cursor := { cursor with verbose := verbose }
    level := .startingAt cursor.position
    groups := group :: reading.groups }

/-- Reads from a question mark behind a parenthesis: flags for the rest or for a group. -/
def Reading.readFlagGroup (reading : Reading) (span : Span) (mark : Cursor) :
    Except Complaint Reading := do
  let inner := mark.bump
  if inner.atEnd then fail .groupUnclosed span
  let (items, closing) ← readFlags (inner.rest.length + 1) inner []
  let later := closing.bump
  if closing.char? = some ':' then return reading.enter span (some items) later
  if items.isEmpty then fail .nothingToRepeat mark.here
  let verbose := (FlagItem.stateOf? items .verbose).getD later.verbose
  return reading.put (.flags (later.since span.start) items) { later with verbose := verbose }

def Reading.openGroup (reading : Reading) : Except Complaint Reading := do
  let span := reading.cursor.spanChar
  let inner := reading.cursor.advance
  match ["?=", "?!", "?<=", "?<!"].find? inner.startsWith with
  | some look => fail .lookAround ((inner.bumps look.length).since span.start)
  | none =>
      match ["?P<", "?<"].find? inner.startsWith with
      | some opening => do
          let (name, nameSpan, later) ← readName reading.names (inner.bumps opening.length)
          let reading := { reading with names := (name, nameSpan) :: reading.names }
          return reading.enter span none later
      | none =>
          if inner.char? = some '?' then reading.readFlagGroup span inner
          else return reading.enter span none inner

def Reading.closeGroup (reading : Reading) : Except Complaint Reading :=
  match reading.groups with
  | [] => fail .groupUnopened reading.cursor.spanChar
  | inner :: groups =>
      let body := reading.level.tree reading.cursor.position
      let later := { reading.cursor.bump with verbose := inner.verbose }
      let item : Tree := .group (later.since inner.span.start) inner.flags body
      .ok { reading with cursor := later, level := inner.outer.push item, groups := groups }

def Reading.nextBranch (reading : Reading) : Reading :=
  let level := reading.level
  let later := reading.cursor.bump
  { reading with
    cursor := later
    level :=
      { level with
        branches := level.branch reading.cursor.position :: level.branches
        itemStart := later.position
        items := [] } }

/-- The last item, which a repetition is about; flags and nothing cannot be repeated. -/
def Reading.toRepeat (reading : Reading) : Except Complaint (Tree × Level) :=
  match reading.level.items with
  | [] | .empty _ :: _ | .flags _ _ :: _ => fail .nothingToRepeat reading.cursor.here
  | item :: items => .ok (item, { reading.level with items := items })

/-- Puts a repetition in the place of its item; a question mark behind it changes no match. -/
def Reading.putRepetition (reading : Reading) (item : Tree) (level : Level) (least : Nat)
    (most : Option Nat) (cursor : Cursor) : Reading :=
  let span : Span := ⟨item.span.start, cursor.position⟩
  { reading with cursor := cursor, level := level.push (.repetition span least most item) }

def afterQuestionMark (cursor : Cursor) : Cursor :=
  if cursor.char? = some '?' then cursor.bump else cursor

def Reading.repeatBy (reading : Reading) (least : Nat) (most : Option Nat) :
    Except Complaint Reading := do
  let (item, level) ← reading.toRepeat
  return reading.putRepetition item level least most (afterQuestionMark reading.cursor.bump)

def readBounds (start : Position) (inner : Cursor) :
    Except Complaint (Nat × Option Nat × Cursor) := do
  let (least, afterLeast) := inner.readNumber
  if afterLeast.atEnd then fail .countUnclosed (afterLeast.since start)
  if afterLeast.char? = some ',' then
    let afterComma := afterLeast.advance
    if afterComma.atEnd then fail .countUnclosed (afterComma.since start)
    if afterComma.char? = some '\x7d' then return (← least, none, afterComma)
    let least ← least
    let (most, afterMost) := afterComma.readNumber
    return (least, some (← most), afterMost)
  let least ← least
  return (least, some least, afterLeast)

def Reading.repeatCounted (reading : Reading) : Except Complaint Reading := do
  let start := reading.cursor.position
  let (item, level) ← reading.toRepeat
  let inner := reading.cursor.advance
  if inner.atEnd then fail .countUnclosed (inner.since start)
  let (least, most, closing) ← readBounds start inner
  if closing.char? ≠ some '\x7d' then fail .countUnclosed (closing.since start)
  let later := afterQuestionMark closing.advance
  if most.any (· < least) then fail .countReversed (later.since start)
  return reading.putRepetition item level least most later

def Reading.step (reading : Reading) (c : Char) : Except Complaint Reading :=
  let cursor := reading.cursor
  let single (item : Tree) : Except Complaint Reading := .ok (reading.put item cursor.bump)
  let read (result : Escape.Result) : Except Complaint Reading :=
    result.map fun entry => reading.put entry.1 entry.2
  match c with
  | '(' => reading.openGroup
  | ')' => reading.closeGroup
  | '|' => .ok reading.nextBranch
  | '[' => read (Bracket.read cursor)
  | '?' => reading.repeatBy 0 (some 1)
  | '*' => reading.repeatBy 0 none
  | '+' => reading.repeatBy 1 none
  | '\x7b' => reading.repeatCounted
  | '\\' => read (Escape.read cursor)
  | '.' => single (.dot cursor.spanChar)
  | '^' => single (.assertion cursor.spanChar .lineStart)
  | '$' => single (.assertion cursor.spanChar .lineEnd)
  | c => single (.literal ⟨cursor.spanChar, c, false⟩)

def readFrom : Nat → Reading → Except Complaint Reading
  | 0, reading => .ok reading
  | fuel + 1, reading =>
      let cursor := reading.cursor.skip
      match cursor.char? with
      | none => .ok { reading with cursor := cursor }
      | some c => do
          let later ← Reading.step { reading with cursor := cursor } c
          readFrom fuel later

def nestingLimit : Nat := 250

/-- The tree of a pattern; every group must be closed, and none may be nested too deep. -/
def read (pattern : List Char) : Except Complaint Tree := do
  let start := { cursor := ⟨pattern, {}, false⟩, level := .startingAt {} }
  let done ← readFrom (pattern.length + 1) start
  match done.groups with
  | inner :: _ => fail .groupUnclosed inner.span
  | [] =>
      let tree := done.level.tree done.cursor.position
      match tree.tooDeep? nestingLimit with
      | some span => fail (.nestedTooDeep nestingLimit) span
      | none => return tree

end DecodeProbe.Tree
