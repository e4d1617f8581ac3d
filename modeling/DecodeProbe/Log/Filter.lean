import DecodeProbe.Log.Record
import DecodeProbe.Pattern

/-!
# Selecting log records

A filter is a list of directives, each a greatest level for the parts whose
path begins with a given name.  The longest name that fits decides, and of two
equally long ones the later.  A filter may also ask for a pattern, which is then
searched in the message of every record.
-/

namespace DecodeProbe.Log

/-- The chattiest level that passes, or none at all. -/
abbrev Threshold := Option Level

def Threshold.admits (threshold : Threshold) (level : Level) : Bool :=
  match threshold with
  | none => false
  | some greatest => level.rank ≤ greatest.rank

structure Directive where
  /-- The beginning of a path; the empty name fits every part. -/
  name : Option (List Char)
  threshold : Threshold
  deriving DecidableEq, Repr

def Directive.length (directive : Directive) : Nat :=
  match directive.name with
  | none => 0
  | some name => name.length

def Directive.fits (directive : Directive) (target : Target) : Bool :=
  match directive.name with
  | none => true
  | some name => name.isPrefixOf target.path.toList

/-- The more decisive of a directive found so far and a later one. -/
def Directive.orLater (target : Target) (found : Option Directive) (later : Directive) :
    Option Directive :=
  if later.fits target then
    match found with
    | none => some later
    | some earlier => if earlier.length ≤ later.length then some later else some earlier
  else found

structure Filter where
  directives : List Directive
  pattern : Option Pattern := none
  deriving DecidableEq, Repr

namespace Filter

def uniform (threshold : Threshold) : Filter := ⟨[⟨none, threshold⟩], none⟩

def decisive? (filter : Filter) (target : Target) : Option Directive :=
  filter.directives.foldl (Directive.orLater target) none

/-- A part that no directive fits is off. -/
def admits (filter : Filter) (record : Record) : Bool :=
  match filter.decisive? record.target with
  | some directive => directive.threshold.admits record.level
  | none => false

def selects (filter : Filter) (record : Record) : Bool :=
  filter.admits record && filter.pattern.all fun pattern => pattern.isFoundIn record.message.toList

/-- A later directive for a name takes the place of the earlier one. -/
def put (directives : List Directive) (new : Directive) : List Directive :=
  if directives.any fun old => old.name = new.name then
    directives.map fun old => if old.name = new.name then new else old
  else directives ++ [new]

/-- Without any directive only errors pass. -/
def directed : List Directive → List Directive
  | [] => [⟨none, some .error⟩]
  | directives => directives.foldl put []

end Filter

end DecodeProbe.Log
