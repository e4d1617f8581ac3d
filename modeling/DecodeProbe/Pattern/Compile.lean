import DecodeProbe.Pattern.Meaning

/-!
# Patterns from text

A text is a pattern when it is well formed, is not too large and asks for no
tables that are not at hand.  The size of a pattern is that of the states of an
automaton for it, where a counted repetition has its states once for each time.
-/

namespace DecodeProbe.Pattern

def sizeLimit : Nat := 10485760

def stateSize : Nat := 32
def transitionSize : Nat := 8
def branchSize : Nat := 4

/-- A set beyond ASCII shares the states for the later bytes of its characters. -/
def setSize (set : CharSet) : Nat :=
  match set.single? with
  | some c => c.utf8Size * stateSize
  | none =>
      if set.isAscii then
        2 * stateSize + if set.rangeCount = 1 then 0 else set.rangeCount * transitionSize
      else 9 * stateSize + (8 + set.rangeCount) * transitionSize

def canTakeNothing : Pattern → Bool
  | .empty | .look _ => true
  | .char _ => false
  | .capture body => body.canTakeNothing
  | .sequence first second => first.canTakeNothing && second.canTakeNothing
  | .either first second => first.canTakeNothing || second.canTakeNothing
  | .repeated least _ body => least = 0 || body.canTakeNothing

def size : Pattern → Nat
  | .empty | .look _ => stateSize
  | .char set => setSize set
  | .capture body => body.size + 2 * stateSize
  | .sequence first second => first.size + second.size
  | .either first second => first.size + second.size + 2 * stateSize + 2 * branchSize
  | .repeated least none body =>
      let union := stateSize + 2 * branchSize
      if least = 0 then
        body.size + union + if body.canTakeNothing then union + stateSize else 0
      else least * body.size + union
  | .repeated least (some most) body =>
      let further := most - least
      max 1 least * (if least = 0 then stateSize else body.size) +
        if further = 0 then 0
        else stateSize + further * (body.size + stateSize + 2 * branchSize)

def ofText (text : List Char) : Except PatternError Pattern :=
  match Tree.read text >>= Tree.meaning {} with
  | .error complaint => .error (.malformed complaint)
  | .ok (pattern, _) =>
      if sizeLimit < pattern.size then .error (.tooLarge sizeLimit)
      else if pattern.asksForWordsOfAllScripts then .error .unbuildable
      else .ok pattern

end DecodeProbe.Pattern
