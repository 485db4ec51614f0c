namespace TemplateGrep.Unicode

structure CodeSet where
  ranges : List (Nat × Nat)
  deriving DecidableEq, Repr

namespace CodeSet

def empty : CodeSet := ⟨[]⟩

def range (first last : Nat) : CodeSet := ⟨[(first, last)]⟩

def singleton (n : Nat) : CodeSet := range n n

def top : Nat := 0x10FFFF

def all : CodeSet := range 0 top

def mem (s : CodeSet) (n : Nat) : Bool := s.ranges.any fun r => r.1 ≤ n && n ≤ r.2

def hasChar (s : CodeSet) (c : Char) : Bool := s.mem c.toNat

def addRange (r : Nat × Nat) : List (Nat × Nat) → List (Nat × Nat)
  | [] => [r]
  | s :: rest =>
      if r.2 + 1 < s.1 then r :: s :: rest
      else if s.2 + 1 < r.1 then s :: addRange r rest
      else addRange (min r.1 s.1, max r.2 s.2) rest

def ofRanges (ranges : List (Nat × Nat)) : CodeSet := ⟨ranges.foldr addRange []⟩

def union (s t : CodeSet) : CodeSet := ofRanges (s.ranges ++ t.ranges)

def unions (sets : List CodeSet) : CodeSet := ofRanges (sets.flatMap ranges)

def gaps (last next : Nat) : List (Nat × Nat) → List (Nat × Nat)
  | [] => if next ≤ last then [(next, last)] else []
  | r :: rest => (if next < r.1 then [(next, r.1 - 1)] else []) ++ gaps last (r.2 + 1) rest

def complementTo (last : Nat) (s : CodeSet) : CodeSet := ⟨gaps last 0 (ofRanges s.ranges).ranges⟩

def complement (s : CodeSet) : CodeSet := s.complementTo top

def overlap (r s : Nat × Nat) : Option (Nat × Nat) :=
  if max r.1 s.1 ≤ min r.2 s.2 then some (max r.1 s.1, min r.2 s.2) else none

def intersection (s t : CodeSet) : CodeSet :=
  ofRanges (s.ranges.flatMap fun r => t.ranges.filterMap (overlap r))

def difference (s t : CodeSet) : CodeSet := s.intersection t.complement

def symmetricDifference (s t : CodeSet) : CodeSet :=
  (s.union t).difference (s.intersection t)

def shift (n : Nat) (s : CodeSet) : CodeSet := ⟨s.ranges.map fun r => (r.1 + n, r.2 + n)⟩

def shiftDown (n : Nat) (s : CodeSet) : CodeSet := ⟨s.ranges.map fun r => (r.1 - n, r.2 - n)⟩

/-! ### Tables

A table is written as lines of ranges `41-5A` and single members `AA`, in hexadecimal and separated
by blanks. -/

structure TableReader where
  read : List (Nat × Nat)
  first : Option Nat
  number : Nat

def hexDigit (c : Char) : Nat :=
  if c.isDigit then c.toNat - '0'.toNat else c.toNat - 'A'.toNat + 10

def TableReader.close (r : TableReader) : TableReader :=
  ⟨(r.first.getD r.number, r.number) :: r.read, none, 0⟩

def TableReader.step (r : TableReader) (c : Char) : TableReader :=
  if c = ' ' then r.close
  else if c = '-' then { r with first := some r.number, number := 0 }
  else { r with number := r.number * 16 + hexDigit c }

def readLine (line : String) : List (Nat × Nat) :=
  (line.toList.foldl TableReader.step ⟨[], none, 0⟩).close.read.reverse

def ofLines (lines : List String) : CodeSet := ⟨lines.flatMap readLine⟩

end CodeSet

end TemplateGrep.Unicode
