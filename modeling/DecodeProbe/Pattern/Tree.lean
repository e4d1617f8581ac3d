import DecodeProbe.Pattern
import DecodeProbe.Pattern.Excerpt

/-!
# Pattern trees

The tree of a written pattern.  Every node knows the part of the text that it
was read from, so that what is found wrong later can still be pointed out.
-/

namespace DecodeProbe

inductive PatternFlag where
  | ignoreCase
  | multiLine
  | dotMatchesLineEnd
  | swapGreed
  | unicode
  | carriageReturn
  | verbose
  deriving DecidableEq, Repr

def PatternFlag.ofLetter? : Char → Option PatternFlag
  | 'i' => some .ignoreCase
  | 'm' => some .multiLine
  | 's' => some .dotMatchesLineEnd
  | 'U' => some .swapGreed
  | 'u' => some .unicode
  | 'R' => some .carriageReturn
  | 'x' => some .verbose
  | _ => none

/-- One letter of a group of flags; without a flag it is the dash before those to be cleared. -/
structure FlagItem where
  span : Span
  flag : Option PatternFlag
  deriving DecidableEq, Repr

def FlagItem.stateOf? (items : List FlagItem) (flag : PatternFlag) : Option Bool :=
  if (items.takeWhile (·.flag.isSome)).any (·.flag = some flag) then some true
  else if items.any (·.flag = some flag) then some false
  else none

/-- A written character; `isByte` when it was given by two hexadecimal digits. -/
structure Literal where
  span : Span
  char : Char
  isByte : Bool := false
  deriving DecidableEq, Repr

inductive Shorthand where
  | digit
  | space
  | word
  deriving DecidableEq, Repr

inductive Assertion where
  | lineStart
  | lineEnd
  | textStart
  | textEnd
  | word (edge : WordEdge)
  deriving DecidableEq, Repr

inductive SetOperation where
  | inter
  | diff
  | symmDiff
  deriving DecidableEq, Repr

def asciiClasses : List (String × List (Char × Char)) :=
  [("alnum", [('0', '9'), ('A', 'Z'), ('a', 'z')]),
   ("alpha", [('A', 'Z'), ('a', 'z')]),
   ("ascii", [('\x00', '\x7F')]),
   ("blank", [('\t', '\t'), (' ', ' ')]),
   ("cntrl", [('\x00', '\x1F'), ('\x7F', '\x7F')]),
   ("digit", [('0', '9')]),
   ("graph", [('!', '~')]),
   ("lower", [('a', 'z')]),
   ("print", [(' ', '~')]),
   ("punct", [('!', '/'), (':', '@'), ('[', '\x60'), ('\x7b', '~')]),
   ("space", [('\t', '\r'), (' ', ' ')]),
   ("upper", [('A', 'Z')]),
   ("word", [('0', '9'), ('A', 'Z'), ('_', '_'), ('a', 'z')]),
   ("xdigit", [('0', '9'), ('A', 'F'), ('a', 'f')])]

inductive SetTree where
  | nothing (span : Span)
  | literal (literal : Literal)
  | range (span : Span) (first last : Literal)
  | ascii (span : Span) (set : CharSet) (negated : Bool)
  | property (span : Span) (name : List Char)
  | shorthand (span : Span) (kind : Shorthand) (negated : Bool)
  | bracketed (span : Span) (negated : Bool) (body : SetTree)
  | union (span : Span) (items : List SetTree)
  | operation (span : Span) (kind : SetOperation) (left right : SetTree)
  deriving Repr

def SetTree.span : SetTree → Span
  | .literal written => written.span
  | .nothing span | .range span .. | .ascii span .. | .property span _ | .shorthand span ..
  | .bracketed span .. | .union span _ | .operation span .. => span

inductive Tree where
  | empty (span : Span)
  | flags (span : Span) (items : List FlagItem)
  | literal (literal : Literal)
  | dot (span : Span)
  | assertion (span : Span) (kind : Assertion)
  | property (span : Span) (name : List Char)
  | shorthand (span : Span) (kind : Shorthand) (negated : Bool)
  | bracketed (span : Span) (negated : Bool) (body : SetTree)
  | repetition (span : Span) (least : Nat) (most : Option Nat) (body : Tree)
  | group (span : Span) (flags : Option (List FlagItem)) (body : Tree)
  | sequence (span : Span) (items : List Tree)
  | alternation (span : Span) (branches : List Tree)
  deriving Repr

def Tree.span : Tree → Span
  | .literal written => written.span
  | .empty span | .flags span _ | .dot span | .assertion span _ | .property span _
  | .shorthand span .. | .bracketed span .. | .repetition span .. | .group span ..
  | .sequence span _ | .alternation span _ => span

mutual

def SetTree.tooDeep? (left : Nat) : SetTree → Option Span
  | .bracketed span _ body =>
      match left with
      | 0 => some span
      | left + 1 => body.tooDeep? left
  | .union span items =>
      match left with
      | 0 => some span
      | left + 1 => SetTree.anyTooDeep? left items
  | .operation span _ first second =>
      match left with
      | 0 => some span
      | left + 1 => (first.tooDeep? left).or (second.tooDeep? left)
  | _ => none

def SetTree.anyTooDeep? (left : Nat) : List SetTree → Option Span
  | [] => none
  | item :: rest => (item.tooDeep? left).or (SetTree.anyTooDeep? left rest)

end

mutual

def Tree.tooDeep? (left : Nat) : Tree → Option Span
  | .bracketed span _ body =>
      match left with
      | 0 => some span
      | left + 1 => body.tooDeep? left
  | .repetition span _ _ body | .group span _ body =>
      match left with
      | 0 => some span
      | left + 1 => body.tooDeep? left
  | .sequence span items | .alternation span items =>
      match left with
      | 0 => some span
      | left + 1 => Tree.anyTooDeep? left items
  | _ => none

def Tree.anyTooDeep? (left : Nat) : List Tree → Option Span
  | [] => none
  | item :: rest => (item.tooDeep? left).or (Tree.anyTooDeep? left rest)

end

end DecodeProbe
