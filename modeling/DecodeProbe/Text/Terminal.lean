/-!
# Terminal control sequences

What goes to the error stream of a tool is plain text: control sequences for a
terminal are left out, and so is every control character that is no white
space.  A sequence that is cut short hides what follows it, as far as it could
have reached.  White space inside a sequence is shown, and with it the run of
text up to the next character that cannot be shown.
-/

namespace DecodeProbe.Text.Terminal

/-- What the characters read so far have begun. -/
inductive Sequence where
  | none
  | escape
  | intermediate
  | control
  | command
  | deviceEntry
  | deviceParameter
  | deviceIntermediate
  | string
  deriving DecidableEq, Repr

def isBetween (first last c : Char) : Bool := first ≤ c && c ≤ last

/-- A string ends at the byte `9C`, also where that byte is part of a character. -/
def endsString (c : Char) : Bool := (String.utf8EncodeChar c).contains 0x9C

/-- The sequence that is open after one more character, which is not shown. -/
def Sequence.after (sequence : Sequence) (c : Char) : Sequence :=
  if c = '\x18' ∨ c = '\x1A' then .none
  else if c = '\x1B' then .escape
  else
    match sequence with
    | .none => .none
    | .escape =>
        if isBetween ' ' '/' c then .intermediate
        else if c = '[' then .control
        else if c = ']' then .command
        else if c = 'P' then .deviceEntry
        else if c = 'X' ∨ c = '^' ∨ c = '_' then .string
        else if isBetween '0' '~' c then .none
        else .escape
    | .intermediate => if isBetween '0' '~' c then .none else .intermediate
    | .control => if isBetween '@' '~' c then .none else .control
    | .command => if c = '\x07' then .none else .command
    | .deviceEntry =>
        if isBetween '@' '~' c then .string
        else if isBetween ' ' '/' c then .deviceIntermediate
        else if isBetween '0' '?' c then .deviceParameter
        else .deviceEntry
    | .deviceParameter =>
        if isBetween '<' '~' c then .string
        else if isBetween ' ' '/' c then .deviceIntermediate
        else .deviceParameter
    | .deviceIntermediate => if isBetween '0' '~' c then .string else .deviceIntermediate
    | .string => if endsString c then .none else .string

/-- White space is shown in these sequences; the others take it as content. -/
def Sequence.showsWhite : Sequence → Bool
  | .none | .escape | .intermediate | .control => true
  | _ => false

def isWhite (c : Char) : Bool := c = '\t' || c = '\n' || c = '\x0C' || c = '\r'

def isShown (c : Char) : Bool := isWhite c || ' ' ≤ c && c ≠ '\x7F'

structure State where
  sequence : Sequence := .none
  showing : Bool := true
  deriving DecidableEq, Repr

namespace State

def shows (state : State) (c : Char) : Bool :=
  (state.showing || state.sequence = .none) && isShown c ||
    state.sequence.showsWhite && isWhite c

/-- A shown character beyond ASCII closes the sequence, any other one leaves it open. -/
def next (state : State) (c : Char) : State :=
  if state.shows c then ⟨if c < '\x80' then state.sequence else .none, true⟩
  else ⟨state.sequence.after c, false⟩

end State

def plainFrom (state : State) : List Char → List Char
  | [] => []
  | c :: rest =>
      if state.shows c then c :: plainFrom (state.next c) rest else plainFrom (state.next c) rest

def plain (text : List Char) : List Char := plainFrom {} text

example : plain "a\x1b[31mred\x1b[0m\x07!".toList = "ared!".toList := by decide +kernel

example : plain "a\x1b]8;;u\x1b\\link".toList = "alink".toList := by decide +kernel

example : plain "a\x1b[1;\nb\x07cd".toList = "a\nbd".toList := by decide +kernel

end DecodeProbe.Text.Terminal
