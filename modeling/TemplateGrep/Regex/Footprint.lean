import TemplateGrep.Regex.Basic
import TemplateGrep.Unicode.ByteSequence

/-!
The size of the automata for a regex, in bytes. One automaton reads forward and records captures, one
reads backward and does not; neither may exceed the limit. Repetitions are written out.
-/

namespace TemplateGrep.Regex

open Unicode

def sizeLimit : Nat := 10485760

namespace Footprint

def state : Nat := 32

def transition : Nat := 8

def alternative : Nat := 4

inductive Direction
  | forward
  | backward
  deriving DecidableEq

def capture (d : Direction) : Nat := if d = .forward then 2 * state else 0

-- the loop in front of a regex, its own capture and the match
def around (d : Direction) : Nat := 4 * state + 3 * alternative + capture d

def frame : Nat := around .forward

def ranges (n : Nat) : Nat := 2 * state + n * transition

structure Members where
  unicode : Bool
  set : CodeSet

namespace Members

def isAscii (m : Members) : Bool := m.set.ranges.all fun r => r.2 < 0x80

def sole? (m : Members) : Option Nat :=
  match m.set.ranges with
  | [(first, last)] => if first = last then some first else none
  | _ => none

/-- Characters and bytes do not mix outside ASCII. -/
def union? (m n : Members) : Option Members :=
  if m.unicode = n.unicode ∨ n.isAscii then some ⟨m.unicode, m.set.union n.set⟩
  else if m.isAscii then some ⟨n.unicode, m.set.union n.set⟩
  else none

def size (d : Direction) (m : Members) : Nat :=
  match m.sole? with
  -- a class with one member is a literal
  | some n => (if m.unicode then (ByteSequence.encode n).length else 1) * state
  | none =>
      if !m.unicode || m.isAscii then ranges m.set.ranges.length
      else
        let seqs := ByteSequence.ofSet m.set
        match d with
        | .forward =>
            (ByteSequence.nodes 4 seqs).foldl (fun size n =>
              size + (state + (ByteSequence.branches n).length * transition)) state
        | .backward =>
            (2 + ByteSequence.prefixCount 4 seqs) * state + seqs.length * alternative

end Members

def members? : Regex → Option Members
  | .literal bytes =>
      match ByteArray.utf8DecodeChar? ⟨bytes.toArray⟩ 0, bytes with
      | some c, bytes => if c.utf8Size = bytes.length then some ⟨true, .singleton c.toNat⟩ else none
      | none, [b] => some ⟨false, .singleton b.toNat⟩
      | none, _ => none
  | .byteClass s => some ⟨false, s⟩
  | .charClass s => some ⟨true, s⟩
  | _ => none

def joined? (sole : Bool) : Regex → Option Members
  | .alternate p q => do (← joined? sole p).union? (← joined? sole q)
  | r => (members? r).filter fun m => m.sole?.isSome == sole

/-- An alternation of single characters, or of classes, is one class. -/
def folded? (r : Regex) : Option Members := joined? true r <|> joined? false r

def isEmptyWidth : Regex → Bool
  | .empty | .look _ => true
  | .literal bytes => bytes.isEmpty
  | .byteClass _ | .charClass _ => false
  | .concat p q | .alternate p q => isEmptyWidth p && isEmptyWidth q
  | .repetition p _ max => max == some 0 || isEmptyWidth p
  | .capture p => isEmptyWidth p

def canBeEmpty : Regex → Bool
  | .empty | .look _ => true
  | .literal bytes => bytes.isEmpty
  | .byteClass _ | .charClass _ => false
  | .concat p q => canBeEmpty p && canBeEmpty q
  | .alternate p q => canBeEmpty p || canBeEmpty q
  | .repetition p min _ => min == 0 || canBeEmpty p
  | .capture p => canBeEmpty p

def repetition (body : Nat) (nullable idle : Bool) (min : Nat) (max : Option Nat) : Nat :=
  let min := if idle then Nat.min min 1 else min
  let max := if idle then some (Nat.min (max.getD 1) 1) else max
  match min, max with
  | 0, some 0 => state
  | 0, none =>
      if nullable then body + 3 * state + 4 * alternative else body + state + 2 * alternative
  | n, none => n * body + state + 2 * alternative
  | 0, some 1 => body + 2 * state + 2 * alternative
  | n, some m =>
      if n = m then n * body
      else Nat.max state (n * body) + state + (m - n) * (body + state + 2 * alternative)

/-- What is empty vanishes in a sequence. Behind another branch an alternation goes on with its own. -/
inductive Place
  | alone
  | inSequence
  | branch
  deriving DecidableEq

def Place.alternatives : Place → Nat
  | .branch => alternative
  | _ => 0

def size (d : Direction) (place : Place) : Regex → Nat
  | .empty => if place = .inSequence then 0 else state + place.alternatives
  | .literal bytes => Nat.max 1 bytes.length * state + place.alternatives
  | .byteClass s => Members.size d ⟨false, s⟩ + place.alternatives
  | .charClass s => Members.size d ⟨true, s⟩ + place.alternatives
  | .look _ => state + place.alternatives
  | .concat p q =>
      let n := size d .inSequence p + size d .inSequence q
      if place = .inSequence then n else Nat.max state n + place.alternatives
  | .alternate p q =>
      let n := size d .alone p + alternative + size d .branch q
      if place = .branch then n
      else match folded? (.alternate p q) with
        | some m => m.size d
        | none => n + 2 * state
  | .repetition p min max =>
      repetition (size d .alone p) (canBeEmpty p) (isEmptyWidth p) min max + place.alternatives
  | .capture p => size d .alone p + capture d + place.alternatives

def isLiteral : Regex → Bool
  | .literal _ => true
  | .concat p q => isLiteral p && isLiteral q
  | _ => false

def literalBranches? : Regex → Option Nat
  | .alternate p q => return (← literalBranches? p) + (← literalBranches? q)
  | r => if isLiteral r then some 1 else none

def wordListLength : Nat := 3000

end Footprint

/-- The size of the larger automaton. A long list of words is searched for without one. -/
def footprint (r : Regex) : Nat :=
  if (Footprint.literalBranches? r).any (Footprint.wordListLength ≤ ·) then 0
  else Nat.max (Footprint.frame + Footprint.size .forward .alone r)
    (Footprint.around .backward + Footprint.size .backward .alone r)

end TemplateGrep.Regex
