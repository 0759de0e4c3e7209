/-! # Character sets

Sets of code points as ascending ranges that neither overlap nor touch. All set
operations restore that form, so equal sets have equal representations.
-/

namespace SeriesGateway.Regex

/-- A set of code points. -/
structure CharSet where
  ranges : List (Nat × Nat)
deriving DecidableEq, Repr, Inhabited

namespace CharSet

/-- The greatest code point. -/
def maxCode : Nat := 0x10ffff

/-- Joins ascending ranges that overlap or touch onto the open range `first..last`. -/
def mergeFrom (first last : Nat) : List (Nat × Nat) → List (Nat × Nat)
  | [] => [(first, last)]
  | (a, b) :: rest =>
    if a ≤ last + 1 then mergeFrom first (max last b) rest
    else (first, last) :: mergeFrom a b rest

/-- The set that ranges cover; they may come in any order and overlap. -/
def ofRanges (ranges : List (Nat × Nat)) : CharSet :=
  match ranges.mergeSort fun r s => r.1 ≤ s.1 with
  | [] => ⟨[]⟩
  | (a, b) :: rest => ⟨mergeFrom a b rest⟩

def empty : CharSet := ⟨[]⟩

def all : CharSet := ⟨[(0, maxCode)]⟩

def singleton (c : Char) : CharSet := ⟨[(c.toNat, c.toNat)]⟩

def isEmpty (s : CharSet) : Bool := s.ranges.isEmpty

/-- Looks a code point up in ascending ranges. -/
def covers (code : Nat) : List (Nat × Nat) → Bool
  | [] => false
  | (a, b) :: rest => a ≤ code && (code ≤ b || covers code rest)

def containsCode (s : CharSet) (code : Nat) : Bool := covers code s.ranges

def contains (s : CharSet) (c : Char) : Bool := s.containsCode c.toNat

def union (s t : CharSet) : CharSet := ofRanges (s.ranges ++ t.ranges)

/-- The gaps between ascending ranges, from the code point `next` on. -/
def gapsFrom (next : Nat) : List (Nat × Nat) → List (Nat × Nat)
  | [] => if next ≤ maxCode then [(next, maxCode)] else []
  | (a, b) :: rest =>
    if next < a then (next, a - 1) :: gapsFrom (b + 1) rest else gapsFrom (b + 1) rest

def complement (s : CharSet) : CharSet := ⟨gapsFrom 0 s.ranges⟩

def inter (s t : CharSet) : CharSet := (s.complement.union t.complement).complement

def diff (s t : CharSet) : CharSet := s.inter t.complement

def symmDiff (s t : CharSet) : CharSet := (s.union t).diff (s.inter t)

/-- Whether all members are below 128. -/
def isAscii (s : CharSet) : Bool := s.ranges.all fun r => r.2 < 128

/-- The only member of a set with one member. -/
def only? (s : CharSet) : Option Nat :=
  match s.ranges with
  | [(a, b)] => if a = b then some a else none
  | _ => none

end CharSet

end SeriesGateway.Regex
