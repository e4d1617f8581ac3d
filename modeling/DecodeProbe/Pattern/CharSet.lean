/-!
# Sets of characters

A set of characters is kept as the ascending list of the code points at which
membership changes; below the first of them nothing is in the set.
-/

namespace DecodeProbe

structure CharSet where
  changes : List Nat
  deriving DecidableEq, Repr

namespace CharSet

def empty : CharSet := ⟨[]⟩

def range (first last : Nat) : CharSet := ⟨[first, last + 1]⟩

def single (c : Char) : CharSet := range c.toNat c.toNat

def all : CharSet := range 0 0x10FFFF

def holds (set : CharSet) (code : Nat) : Bool :=
  set.changes.foldl (fun inside change => inside != decide (change ≤ code)) false

def contains (set : CharSet) (c : Char) : Bool := set.holds c.toNat

def insertChange (code : Nat) : List Nat → List Nat
  | [] => [code]
  | change :: rest =>
      if code < change then code :: change :: rest
      else if code = change then change :: rest
      else change :: insertChange code rest

/-- Whether a code point is in a set, as far as the code point before it tells. -/
def holdsBefore (set : CharSet) : Nat → Bool
  | 0 => false
  | code + 1 => set.holds code

/-- The set of what is accepted, where nothing is accepted that is in neither set. -/
def combine (accepts : Bool → Bool → Bool) (left right : CharSet) : CharSet :=
  ⟨(left.changes.foldr insertChange right.changes).filter fun code =>
    accepts (left.holds code) (right.holds code) !=
      accepts (left.holdsBefore code) (right.holdsBefore code)⟩

def union (left right : CharSet) : CharSet := combine (· || ·) left right

def inter (left right : CharSet) : CharSet := combine (· && ·) left right

def diff (left right : CharSet) : CharSet := combine (fun a b => a && !b) left right

def symmDiff (left right : CharSet) : CharSet := combine (· != ·) left right

def complement (set : CharSet) : CharSet := all.diff set

def ofRanges (ranges : List (Char × Char)) : CharSet :=
  ranges.foldl (fun set entry => set.union (range entry.1.toNat entry.2.toNat)) empty

def isEmpty (set : CharSet) : Bool := set.changes.isEmpty

def isAscii (set : CharSet) : Bool := set.changes.all (· ≤ 0x80)

def rangeCount (set : CharSet) : Nat := set.changes.length / 2

def single? (set : CharSet) : Option Char :=
  match set.changes with
  | [first, next] => if next = first + 1 then some (Char.ofNat first) else none
  | _ => none

def foldCase (set : CharSet) : CharSet :=
  let lower := set.inter (range 'a'.toNat 'z'.toNat)
  let upper := set.inter (range 'A'.toNat 'Z'.toNat)
  (set.union ⟨lower.changes.map (· - 0x20)⟩).union ⟨upper.changes.map (· + 0x20)⟩

example : (ofRanges [('a', 'c'), ('b', 'e'), ('f', 'g')]).changes = [0x61, 0x68] := by decide

example : ((range 0x61 0x7A).diff (single 'm')).changes = [0x61, 0x6D, 0x6E, 0x7B] := by decide

example : (single 'k').foldCase.changes = [0x4B, 0x4C, 0x6B, 0x6C] := by decide

end CharSet

end DecodeProbe
