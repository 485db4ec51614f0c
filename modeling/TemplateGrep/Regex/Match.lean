import TemplateGrep.Regex.Basic
import TemplateGrep.Unicode.CharClass

/-!
Matching. `Matches line r i j` says that `r` can match the bytes of a line from position `i` up to
position `j`. `ends` computes, for a set of start positions, the positions where a match can end.
-/

namespace TemplateGrep

open Unicode

def byteAt? (bytes : ByteArray) (i : Nat) : Option UInt8 := bytes[i]?

def charAt? (line : ByteArray) (i : Nat) : Option Char := line.utf8DecodeChar? i

def isContinuation (b : UInt8) : Bool := b &&& 0xC0 == 0x80

def leadPosition (line : ByteArray) : Nat → Nat → Nat
  | 0, i => i
  | steps + 1, i =>
      if 0 < i ∧ (byteAt? line i).any isContinuation then leadPosition line steps (i - 1) else i

/-- The character whose encoding begins with the last leading byte in front of position `i`, within
the four bytes there. -/
def charBefore? (line : ByteArray) (i : Nat) : Option Char :=
  if i = 0 then none
  else (line.extract (leadPosition line 3 (i - 1)) i).utf8DecodeChar? 0

def isAsciiWordByte (b : UInt8) : Bool := CharClass.isAsciiWord b.toNat

def wordBefore (line : ByteArray) (unicode : Bool) (i : Nat) : Bool :=
  if unicode then (charBefore? line i).any CharClass.isWord
  else decide (0 < i) && (byteAt? line (i - 1)).any isAsciiWordByte

def wordAfter (line : ByteArray) (unicode : Bool) (i : Nat) : Bool :=
  if unicode then (charAt? line i).any CharClass.isWord
  else (byteAt? line i).any isAsciiWordByte

def soundBefore (line : ByteArray) (unicode : Bool) (i : Nat) : Bool :=
  !unicode || decide (i = 0) || (charBefore? line i).isSome

def soundAfter (line : ByteArray) (unicode : Bool) (i : Nat) : Bool :=
  !unicode || decide (line.size ≤ i) || (charAt? line i).isSome

def WordLook.holds (line : ByteArray) (unicode : Bool) (i : Nat) : WordLook → Bool
  | .boundary => wordBefore line unicode i != wordAfter line unicode i
  | .notBoundary =>
      soundBefore line unicode i && soundAfter line unicode i &&
        wordBefore line unicode i == wordAfter line unicode i
  | .start => !wordBefore line unicode i && wordAfter line unicode i
  | .finish => wordBefore line unicode i && !wordAfter line unicode i
  | .startHalf => soundBefore line unicode i && !wordBefore line unicode i
  | .finishHalf => soundAfter line unicode i && !wordAfter line unicode i

def Look.holds (line : ByteArray) (i : Nat) : Look → Bool
  | .textStart => i == 0
  | .textEnd => i == line.size
  | .lineStart => i == 0 || byteAt? line (i - 1) == some 0x0A
  | .lineEnd => i == line.size || byteAt? line i == some 0x0A
  | .crlfLineStart =>
      i == 0 || byteAt? line (i - 1) == some 0x0A ||
        (byteAt? line (i - 1) == some 0x0D && byteAt? line i != some 0x0A)
  | .crlfLineEnd =>
      i == line.size || byteAt? line i == some 0x0D ||
        (byteAt? line i == some 0x0A && (i == 0 || byteAt? line (i - 1) != some 0x0D))
  | .word unicode kind => kind.holds line unicode i

namespace Regex

def Power (R : Nat → Nat → Prop) : Nat → Nat → Nat → Prop
  | 0, i, j => i = j
  | n + 1, i, j => ∃ k, R i k ∧ Power R n k j

def literalAt (line : ByteArray) (bytes : List UInt8) (i : Nat) : Bool :=
  match bytes with
  | [] => true
  | b :: rest => byteAt? line i == some b && literalAt line rest (i + 1)

def Matches (line : ByteArray) : Regex → Nat → Nat → Prop
  | .empty, i, j => i = j
  | .literal bytes, i, j => literalAt line bytes i ∧ j = i + bytes.length
  | .byteClass s, i, j => ∃ b, byteAt? line i = some b ∧ s.mem b.toNat ∧ j = i + 1
  | .charClass s, i, j => ∃ c, charAt? line i = some c ∧ s.hasChar c ∧ j = i + c.utf8Size
  | .look l, i, j => l.holds line i ∧ i = j
  | .concat p q, i, j => ∃ k, Matches line p i k ∧ Matches line q k j
  | .alternate p q, i, j => Matches line p i j ∨ Matches line q i j
  | .repetition p min max, i, j =>
      ∃ n, min ≤ n ∧ (∀ m, max = some m → n ≤ m) ∧ Power (Matches line p) n i j
  | .capture p, i, j => Matches line p i j

-- sets of positions are lists in increasing order
def mergeFrom (i : Nat) (is : List Nat) (mergeRest : List Nat → List Nat) : List Nat → List Nat
  | [] => i :: is
  | j :: js =>
      if i < j then i :: mergeRest (j :: js)
      else if j < i then j :: mergeFrom i is mergeRest js
      else i :: mergeRest js

def merge : List Nat → List Nat → List Nat
  | [], js => js
  | i :: is, js => mergeFrom i is (merge is) js

def iterate (step : List Nat → List Nat) : Nat → List Nat → List Nat
  | 0, is => is
  | n + 1, is => if step is = is then is else iterate step n (step is)

def spread (step : List Nat → List Nat) : Nat → Nat → List Nat → Nat
  | 0, seen, _ => seen
  | rounds + 1, seen, frontier =>
      let fresh := (step frontier).filter fun i => !seen.testBit i
      if fresh.isEmpty then seen
      else spread step rounds (fresh.foldl (fun s i => s ||| 1 <<< i) seen) fresh

def reach (last rounds : Nat) (step : List Nat → List Nat) (is : List Nat) : List Nat :=
  let seen := spread step rounds (is.foldl (fun s i => s ||| 1 <<< i) 0) is
  (List.range (last + 1)).filter fun i => seen.testBit i

/-- The ends of matches that start at one of the given positions. A repetition without a limit needs
no more rounds than there are positions. -/
def ends (line : ByteArray) : Regex → List Nat → List Nat
  | .empty, is => is
  | .literal bytes, is =>
      is.filterMap fun i => if literalAt line bytes i then some (i + bytes.length) else none
  | .byteClass s, is => is.filterMap fun i =>
      match byteAt? line i with
      | some b => if s.mem b.toNat then some (i + 1) else none
      | none => none
  | .charClass s, is => is.filterMap fun i =>
      match charAt? line i with
      | some c => if s.hasChar c then some (i + c.utf8Size) else none
      | none => none
  | .look l, is => is.filter (l.holds line ·)
  | .concat p q, is => ends line q (ends line p is)
  | .alternate p q, is => merge (ends line p is) (ends line q is)
  | .repetition p min max, is =>
      let is := iterate (ends line p) min is
      if is.isEmpty then [] else
        match max with
        | some m =>
            if m < min then []
            else if m = min then is
            else reach line.size (m - min) (ends line p) is
        | none => reach line.size (line.size + 1) (ends line p) is
  | .capture p, is => ends line p is

def isMatch (r : Regex) (line : ByteArray) : Bool :=
  !(ends line r (List.range (line.size + 1))).isEmpty

end Regex

end TemplateGrep
