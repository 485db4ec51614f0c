import TemplateGrep.Regex.Ast
import TemplateGrep.Regex.Basic
import TemplateGrep.Unicode.CaseFolding
import TemplateGrep.Unicode.CharClass

/-!
The regex that a syntax tree stands for. Flags act from where they are written to the end of their
group. A tree has no meaning when it names an unknown property or asks for Unicode where it is off.
-/

namespace TemplateGrep.Regex

open Unicode

structure Flags where
  ignoreCase : Bool := false
  multiLine : Bool := false
  dotAll : Bool := false
  crlf : Bool := false
  unicode : Bool := true
  deriving DecidableEq, Repr

def Flags.apply (f : Flags) (c : FlagChange) : Flags where
  ignoreCase := c.ignoreCase.getD f.ignoreCase
  multiLine := c.multiLine.getD f.multiLine
  dotAll := c.dotAll.getD f.dotAll
  crlf := c.crlf.getD f.crlf
  unicode := c.unicode.getD f.unicode

def Literal.rawByte? (f : Flags) (l : Literal) : Option Nat :=
  if !f.unicode && l.isByte && 0x80 ≤ l.char.toNat then some l.char.toNat else none

def ofChar (c : Char) : Regex := .literal (String.utf8EncodeChar c)

def foldedChar (c : Char) : Regex :=
  let variants := CaseFolding.variants c.toNat
  if variants.all (· == c.toNat) then ofChar c
  else .charClass (CodeSet.ofRanges (variants.map fun n => (n, n)))

def asciiFoldedChar (c : Char) : Regex :=
  if c.isAlpha then .byteClass (CaseFolding.asciiClosure (.singleton c.toNat)) else ofChar c

def Literal.meaning (f : Flags) (l : Literal) : Regex :=
  match l.rawByte? f with
  | some n => .literal [n.toUInt8]
  | none =>
      if !f.ignoreCase then ofChar l.char
      else if f.unicode then foldedChar l.char
      else asciiFoldedChar l.char

def Flags.classTop (f : Flags) : Nat := if f.unicode then CodeSet.top else 0xFF

def Flags.negateIf (f : Flags) (negated : Bool) (s : CodeSet) : CodeSet :=
  if negated then s.complementTo f.classTop else s

def Flags.fold (f : Flags) (s : CodeSet) : CodeSet :=
  if !f.ignoreCase then s
  else if f.unicode then CaseFolding.closure s
  else CaseFolding.asciiClosure s

def Flags.toClass (f : Flags) (s : CodeSet) : Regex :=
  if f.unicode then .charClass s else .byteClass s

def PerlClass.set (f : Flags) : PerlClass → CodeSet
  | .digit => if f.unicode then CharClass.digit else CharClass.asciiDigit
  | .space => if f.unicode then CharClass.space else CharClass.asciiSpace
  | .word => if f.unicode then CharClass.word else CharClass.asciiWord

def AsciiClass.set : AsciiClass → CodeSet
  | .alnum => ⟨[(0x30, 0x39), (0x41, 0x5A), (0x61, 0x7A)]⟩
  | .alpha => ⟨[(0x41, 0x5A), (0x61, 0x7A)]⟩
  | .ascii => .range 0 0x7F
  | .blank => ⟨[(0x09, 0x09), (0x20, 0x20)]⟩
  | .cntrl => ⟨[(0, 0x1F), (0x7F, 0x7F)]⟩
  | .digit => .range 0x30 0x39
  | .graph => .range 0x21 0x7E
  | .lower => .range 0x61 0x7A
  | .print => .range 0x20 0x7E
  | .punct => ⟨[(0x21, 0x2F), (0x3A, 0x40), (0x5B, 0x60), (0x7B, 0x7E)]⟩
  | .space => ⟨[(0x09, 0x0D), (0x20, 0x20)]⟩
  | .upper => .range 0x41 0x5A
  | .word => ⟨[(0x30, 0x39), (0x41, 0x5A), (0x5F, 0x5F), (0x61, 0x7A)]⟩
  | .xdigit => ⟨[(0x30, 0x39), (0x41, 0x46), (0x61, 0x66)]⟩

def Literal.member? (f : Flags) (l : Literal) : Option Nat :=
  if f.unicode || l.char.toNat < 0x80 then some l.char.toNat else l.rawByte? f

def SetOperation.apply : SetOperation → CodeSet → CodeSet → CodeSet
  | .intersection, s, t => s.intersection t
  | .difference, s, t => s.difference t
  | .symmetricDifference, s, t => s.symmetricDifference t

def propertySet? (f : Flags) (name : PropertyName) (negated : Bool) : Option CodeSet :=
  if f.unicode then name.find?.map fun s => f.negateIf negated (f.fold s) else none

mutual

/-- The members of a class. Case variants join a set before it is negated and before an operation. -/
def ClassItem.set? (f : Flags) : ClassItem → Option CodeSet
  | .empty => some .empty
  | .range first last => do
      let low ← first.member? f
      let high ← last.member? f
      return .range low high
  | .ascii cls negated => some (f.negateIf negated (f.fold cls.set))
  | .perl cls negated => some (f.negateIf negated (cls.set f))
  | .property name negated => propertySet? f name negated
  | .union items => ClassItem.union? f items
  | .bracket negated set => (set.set? f).map fun s => f.negateIf negated (f.fold s)
  | .operation op left right => do
      let l ← left.set? f
      let r ← right.set? f
      return op.apply (f.fold l) (f.fold r)

def ClassItem.union? (f : Flags) : List ClassItem → Option CodeSet
  | [] => some .empty
  | i :: rest => do
      let s ← i.set? f
      let t ← ClassItem.union? f rest
      return s.union t

end

def Flags.lineBreaks (f : Flags) : CodeSet :=
  if f.dotAll then .empty
  else if f.crlf then ⟨[(0x0A, 0x0A), (0x0D, 0x0D)]⟩
  else .singleton 0x0A

def Flags.dot (f : Flags) : Regex := f.toClass (f.lineBreaks.complementTo f.classTop)

def Assertion.look (f : Flags) : Assertion → Look
  | .lineStart => if !f.multiLine then .textStart else if f.crlf then .crlfLineStart else .lineStart
  | .lineEnd => if !f.multiLine then .textEnd else if f.crlf then .crlfLineEnd else .lineEnd
  | .textStart => .textStart
  | .textEnd => .textEnd
  | .wordBoundary => .word f.unicode .boundary
  | .notWordBoundary => .word f.unicode .notBoundary
  | .wordStart => .word f.unicode .start
  | .wordEnd => .word f.unicode .finish
  | .wordStartHalf => .word f.unicode .startHalf
  | .wordEndHalf => .word f.unicode .finishHalf

mutual

def Ast.meaning? (f : Flags) : Ast → Option (Regex × Flags)
  | .empty => some (.empty, f)
  | .flags change => some (.empty, f.apply change)
  | .literal l => some (l.meaning f, f)
  | .dot => some (f.dot, f)
  | .assertion a => some (.look (a.look f), f)
  | .perl cls negated => some (f.toClass (f.negateIf negated (cls.set f)), f)
  | .property name negated => (propertySet? f name negated).map fun s => (f.toClass s, f)
  | .bracket negated set => (set.set? f).map fun s => (f.toClass (f.negateIf negated (f.fold s)), f)
  | .repetition body min max => do
      let (r, f) ← body.meaning? f
      return (.repetition r min max, f)
  | .group (.capture _) body => do
      let (r, _) ← body.meaning? f
      return (.capture r, f)
  | .group (.plain change) body => do
      let (r, _) ← body.meaning? (f.apply change)
      return (r, f)
  | .concat items => do
      let (rs, f) ← Ast.meanings? f items
      return (.concats rs, f)
  | .alternation branches => do
      let (rs, f) ← Ast.meanings? f branches
      return (.alternates rs, f)

def Ast.meanings? (f : Flags) : List Ast → Option (List Regex × Flags)
  | [] => some ([], f)
  | a :: rest => do
      let (r, f) ← a.meaning? f
      let (rs, f) ← Ast.meanings? f rest
      return (r :: rs, f)

end

end TemplateGrep.Regex
