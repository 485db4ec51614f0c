import TemplateGrep.Unicode.CodeSet

/-!
UTF-8 encodings of ranges of code points. A range is cut into parts whose encodings are all the ways to
choose one byte from each of one to four byte ranges.
-/

namespace TemplateGrep.Unicode

abbrev ByteSequence := List (Nat × Nat)

namespace ByteSequence

def encode (n : Nat) : List Nat :=
  if n < 0x80 then [n]
  else if n < 0x800 then [0xC0 + n / 64, 0x80 + n % 64]
  else if n < 0x10000 then [0xE0 + n / 4096, 0x80 + n / 64 % 64, 0x80 + n % 64]
  else [0xF0 + n / 262144, 0x80 + n / 4096 % 64, 0x80 + n / 64 % 64, 0x80 + n % 64]

/-- Where to cut a range: the first code point of its second part. No part holds surrogates, or
encodings of two lengths, or part of a block of `64 ^ k` beside all of another. -/
def cut? (low high : Nat) : Option Nat :=
  let byLength := [0x80, 0x800, 0x10000].filter fun n => low < n && n ≤ high
  match byLength with
  | n :: _ => some n
  | [] => [64, 4096, 262144].findSome? fun block =>
      if high < 0x80 ∨ low / block = high / block then none
      else if low % block ≠ 0 then some ((low / block + 1) * block)
      else if high % block ≠ block - 1 then some (high / block * block)
      else none

def ofRange : Nat → Nat → Nat → List ByteSequence
  | 0, _, _ => []
  | fuel + 1, low, high =>
      if high < low then []
      else if low < 0xD800 ∧ 0xD800 ≤ high then
        ofRange fuel low 0xD7FF ++ ofRange fuel 0xD800 high
      else if 0xD800 ≤ low ∧ low ≤ 0xDFFF then ofRange fuel 0xE000 high
      else match cut? low high with
        | some n => ofRange fuel low (n - 1) ++ ofRange fuel n high
        | none => [(encode low).zip (encode high)]

def ofSet (s : CodeSet) : List ByteSequence := s.ranges.flatMap fun r => ofRange 64 r.1 r.2

def branches : List ByteSequence → List ((Nat × Nat) × List ByteSequence)
  | [] => []
  | [] :: rest => branches rest
  | (r :: more) :: rest =>
      match branches rest with
      | (r', group) :: others =>
          if r = r' then (r, more :: group) :: others else (r, [more]) :: (r', group) :: others
      | [] => [(r, [more])]

/-- The states of the automaton that shares equal ends: the sets of sequences that lie ahead in it,
each with its branches, for sequences of up to `depth` bytes. -/
def nodes : Nat → List ByteSequence → List (List ByteSequence)
  | 0, _ => []
  | depth + 1, seqs =>
      if seqs.all (·.isEmpty) then []
      else (seqs :: (branches seqs).flatMap fun b => nodes depth b.2).eraseDups

def prefixCount : Nat → List ByteSequence → Nat
  | 0, _ => 0
  | depth + 1, seqs =>
      ((branches seqs).map fun b => 1 + prefixCount depth b.2).sum

end ByteSequence

end TemplateGrep.Unicode
