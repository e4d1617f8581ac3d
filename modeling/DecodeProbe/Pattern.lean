import DecodeProbe.Pattern.CharSet

/-!
# Patterns

A pattern is searched for anywhere in a text.  It is run on all places of the
text at once: `reach` takes the places marked so far to the places at which the
pattern can have ended.  Repetition stops as soon as it changes nothing, so a
large count costs no more than the text is long.
-/

namespace DecodeProbe

inductive WordEdge where
  | boundary
  | inside
  | start
  | finish
  | startHalf
  | finishHalf
  deriving DecidableEq, Repr

/-- What a place can be asked for.  Word edges tell words of ASCII or of all scripts. -/
inductive Look where
  | textStart
  | textEnd
  | lineStart (carriageReturn : Bool)
  | lineEnd (carriageReturn : Bool)
  | word (edge : WordEdge) (ascii : Bool)
  deriving DecidableEq, Repr

inductive Pattern where
  | empty
  | char (set : CharSet)
  | look (look : Look)
  | capture (body : Pattern)
  | sequence (first second : Pattern)
  | either (first second : Pattern)
  | repeated (least : Nat) (most : Option Nat) (body : Pattern)
  deriving DecidableEq, Repr

abbrev Neighbours := Option Char × Option Char

def isWordChar (c : Char) : Bool := c.isAlphanum || c = '_'

def WordEdge.holds (edge : WordEdge) (before after : Bool) : Bool :=
  match edge with
  | .boundary => before != after
  | .inside => before == after
  | .start => !before && after
  | .finish => before && !after
  | .startHalf => !before
  | .finishHalf => !after

def Look.holds (look : Look) (neighbours : Neighbours) : Bool :=
  let (before, after) := neighbours
  match look with
  | .textStart => before.isNone
  | .textEnd => after.isNone
  | .lineStart false => before.isNone || before = some '\n'
  | .lineEnd false => after.isNone || after = some '\n'
  | .lineStart true =>
      before.isNone || before = some '\n' || before = some '\r' && after ≠ some '\n'
  | .lineEnd true =>
      after.isNone || after = some '\r' || after = some '\n' && before ≠ some '\r'
  | .word edge _ => edge.holds (before.any isWordChar) (after.any isWordChar)

namespace Pattern

def ofChars (text : List Char) : Pattern :=
  text.foldr (fun c rest => .sequence (.char (.single c)) rest) .empty

/-- The places of a text, the one before its first character first. -/
def placesFrom (before : Option Char) : List Char → List Neighbours
  | [] => [(before, none)]
  | c :: rest => (before, some c) :: placesFrom (some c) rest

/-- One mark for each place of a text. -/
abbrev Marks := List Bool

def Marks.join (first second : Marks) : Marks := first.zipWith (· || ·) second

/-- Repeats a step, at most so many times and as long as it changes something. -/
def Marks.times (step : Marks → Marks) : Nat → Marks → Marks
  | 0, marks => marks
  | count + 1, marks =>
      let later := step marks
      if later = marks then marks else Marks.times step count later

def reach (text : List Char) : Pattern → Marks → Marks
  | .empty, marks => marks
  | .char set, marks => false :: text.zipWith (fun c mark => set.contains c && mark) marks
  | .look asked, marks =>
      (placesFrom none text).zipWith (fun place mark => asked.holds place && mark) marks
  | .capture body, marks => reach text body marks
  | .sequence first second, marks => reach text second (reach text first marks)
  | .either first second, marks => (reach text first marks).join (reach text second marks)
  | .repeated least most body, marks =>
      let further := (most.getD (least + marks.length)) - least
      Marks.times (fun marks => marks.join (reach text body marks)) further
        (Marks.times (reach text body) least marks)

def isFoundIn (pattern : Pattern) (text : List Char) : Bool :=
  (pattern.reach text (List.replicate (text.length + 1) true)).any id

def asksForWordsOfAllScripts : Pattern → Bool
  | .empty | .char _ => false
  | .look (.word _ ascii) => !ascii
  | .look _ => false
  | .capture body | .repeated _ _ body => body.asksForWordsOfAllScripts
  | .sequence first second | .either first second =>
      first.asksForWordsOfAllScripts || second.asksForWordsOfAllScripts

/-- Whether a match takes no character at all, whatever the text. -/
def takesNothing : Pattern → Bool
  | .empty | .look _ => true
  | .char _ => false
  | .capture body => body.takesNothing
  | .sequence first second | .either first second => first.takesNothing && second.takesNothing
  | .repeated _ most body => most = some 0 || body.takesNothing

/-- Repeating what takes nothing is the same as trying it once. -/
def repeating (least : Nat) (most : Option Nat) (body : Pattern) : Pattern :=
  let (least, most) :=
    if body.takesNothing then (min least 1, some (min (most.getD 1) 1)) else (least, most)
  if most = some 0 then .empty
  else if least = 1 ∧ most = some 1 then body
  else .repeated least most body

example : (ofChars "VP".toList).isFoundIn "decodes VP8".toList = true := by decide +kernel

example : (Pattern.sequence (.look .textStart) (.repeated 2 none (.char (.single 'a')))).isFoundIn
    "baaa".toList = false := by decide +kernel

end Pattern

end DecodeProbe
