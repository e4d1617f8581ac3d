import DecodeProbe.Pattern.Reader

/-!
# The meaning of pattern trees

Flags say how a tree is to be understood; they hold from where they are set to
the end of the group.  Patterns are about characters of all scripts unless the
flag for them is cleared.  No tables of scripts are at hand, so what would need
them is refused: shorthand classes, properties and other cases.  Without the
flag those are about ASCII, and nothing may match a part of a character.
-/

namespace DecodeProbe

open Cursor (fail)

structure Mode where
  ignoreCase : Bool := false
  multiLine : Bool := false
  dotMatchesLineEnd : Bool := false
  unicode : Bool := true
  carriageReturn : Bool := false
  deriving DecidableEq, Repr

def Mode.apply (mode : Mode) (items : List FlagItem) : Mode where
  ignoreCase := (FlagItem.stateOf? items .ignoreCase).getD mode.ignoreCase
  multiLine := (FlagItem.stateOf? items .multiLine).getD mode.multiLine
  dotMatchesLineEnd := (FlagItem.stateOf? items .dotMatchesLineEnd).getD mode.dotMatchesLineEnd
  unicode := (FlagItem.stateOf? items .unicode).getD mode.unicode
  carriageReturn := (FlagItem.stateOf? items .carriageReturn).getD mode.carriageReturn

namespace Mode

def fold (mode : Mode) (span : Span) (set : CharSet) : Except Complaint CharSet :=
  if !mode.ignoreCase then .ok set
  else if !mode.unicode then .ok set.foldCase
  else if set.isEmpty then .ok set
  else fail .caseUnavailable span

/-- Only characters of ASCII are bytes of their own. -/
def checked (mode : Mode) (span : Span) (set : CharSet) : Except Complaint CharSet :=
  if !mode.unicode && !set.isAscii then fail .invalidUtf8 span else .ok set

def classSet (mode : Mode) (span : Span) (negated : Bool) (set : CharSet) :
    Except Complaint CharSet := do
  let folded ← mode.fold span set
  mode.checked span (if negated then folded.complement else folded)

def shorthandSet : Shorthand → CharSet
  | .digit => .range '0'.toNat '9'.toNat
  | .space => .ofRanges [('\t', '\r'), (' ', ' ')]
  | .word => .ofRanges [('0', '9'), ('A', 'Z'), ('_', '_'), ('a', 'z')]

def shorthand (mode : Mode) (span : Span) (kind : Shorthand) (negated : Bool) :
    Except Complaint CharSet :=
  if mode.unicode then fail .shorthandUnavailable span
  else
    let set := shorthandSet kind
    mode.checked span (if negated then set.complement else set)

/-- The name of a property without case, blanks and joining marks, and without `is` in front. -/
def plainName (name : List Char) : List Char :=
  let name := match name with
    | first :: second :: rest =>
        if first.toLower = 'i' ∧ second.toLower = 's' then rest else name
    | _ => name
  (name.filter fun c => c < '\x80' && c ≠ ' ' && c ≠ '_' && c ≠ '-').map Char.toLower

/-- No property is known; three names can only be meant as values of one. -/
def property {α : Type} (mode : Mode) (span : Span) (name : List Char) : Except Complaint α :=
  if !mode.unicode then fail .beyondAscii span
  else if ["cf", "sc", "lc"].contains (String.ofList (plainName name)) then
    fail .propertyValueUnknown span
  else fail .propertyUnknown span

def member (mode : Mode) (written : Literal) : Except Complaint Char :=
  if mode.unicode || written.char < '\x80' then .ok written.char
  else if written.isByte && written.char.toNat < 0x100 then fail .invalidUtf8 written.span
  else fail .beyondAscii written.span

def literal (mode : Mode) (written : Literal) : Except Complaint Pattern :=
  let set : CharSet := .single written.char
  if mode.unicode then
    if mode.ignoreCase then fail .caseUnavailable written.span else .ok (.char set)
  else if written.isByte ∧ '\x80' ≤ written.char then fail .invalidUtf8 written.span
  else .ok (.char (if mode.ignoreCase then set.foldCase else set))

def dot (mode : Mode) (span : Span) : Except Complaint Pattern :=
  if !mode.unicode then fail .invalidUtf8 span
  else if mode.dotMatchesLineEnd then .ok (.char .all)
  else
    let lineEnds : CharSet :=
      if mode.carriageReturn then .ofRanges [('\n', '\n'), ('\r', '\r')] else .single '\n'
    .ok (.char lineEnds.complement)

def look (mode : Mode) : Assertion → Look
  | .textStart => .textStart
  | .textEnd => .textEnd
  | .lineStart => if mode.multiLine then .lineStart mode.carriageReturn else .textStart
  | .lineEnd => if mode.multiLine then .lineEnd mode.carriageReturn else .textEnd
  | .word edge => .word edge (!mode.unicode)

end Mode

def SetOperation.apply : SetOperation → CharSet → CharSet → CharSet
  | .inter => CharSet.inter
  | .diff => CharSet.diff
  | .symmDiff => CharSet.symmDiff

mutual

def SetTree.meaning (mode : Mode) : SetTree → Except Complaint CharSet
  | .nothing _ => .ok .empty
  | .literal written => do return .single (← mode.member written)
  | .range _ first last => do
      let low ← mode.member first
      let high ← mode.member last
      return .range low.toNat high.toNat
  | .ascii span set negated => mode.classSet span negated set
  | .property span name => mode.property span name
  | .shorthand span kind negated => mode.shorthand span kind negated
  | .bracketed span negated body => do mode.classSet span negated (← body.meaning mode)
  | .union _ items => SetTree.unionMeaning mode items
  | .operation _ kind left right => do
      let leftSet ← left.meaning mode
      let rightSet ← right.meaning mode
      let rightSet ← mode.fold right.span rightSet
      let leftSet ← mode.fold left.span leftSet
      return kind.apply leftSet rightSet

def SetTree.unionMeaning (mode : Mode) : List SetTree → Except Complaint CharSet
  | [] => .ok .empty
  | item :: rest => do
      let set ← item.meaning mode
      return set.union (← SetTree.unionMeaning mode rest)

end

mutual

/-- The pattern of a tree, and the mode for what follows it. -/
def Tree.meaning (mode : Mode) : Tree → Except Complaint (Pattern × Mode)
  | .empty _ => .ok (.empty, mode)
  | .flags _ items => .ok (.empty, mode.apply items)
  | .literal written => do return (← mode.literal written, mode)
  | .dot span => do return (← mode.dot span, mode)
  | .assertion _ kind => .ok (.look (mode.look kind), mode)
  | .property span name => mode.property span name
  | .shorthand span kind negated => do
      return (.char (← mode.shorthand span kind negated), mode)
  | .bracketed span negated body => do
      return (.char (← mode.classSet span negated (← body.meaning mode)), mode)
  | .repetition _ least most body => do
      let (pattern, later) ← body.meaning mode
      return (.repeating least most pattern, later)
  | .group _ (some items) body => do
      let (pattern, _) ← body.meaning (mode.apply items)
      return (pattern, mode)
  | .group _ none body => do
      let (pattern, _) ← body.meaning mode
      return (.capture pattern, mode)
  | .sequence _ items => Tree.sequenceMeaning mode items
  | .alternation _ branches => Tree.choiceMeaning mode branches

def Tree.sequenceMeaning (mode : Mode) : List Tree → Except Complaint (Pattern × Mode)
  | [] => .ok (.empty, mode)
  | [item] => item.meaning mode
  | item :: rest => do
      let (first, between) ← item.meaning mode
      let (second, later) ← Tree.sequenceMeaning between rest
      return (.sequence first second, later)

def Tree.choiceMeaning (mode : Mode) : List Tree → Except Complaint (Pattern × Mode)
  | [] => .ok (.empty, mode)
  | [branch] => branch.meaning mode
  | branch :: rest => do
      let (first, between) ← branch.meaning mode
      let (second, later) ← Tree.choiceMeaning between rest
      return (.either first second, later)

end

end DecodeProbe
