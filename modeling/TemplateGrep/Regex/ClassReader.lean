import TemplateGrep.Regex.Escape

/-!
Reading a class in brackets. Brackets nest and the set operations bind to the left, so the reader
keeps a stack of what still waits for its right end.
-/

namespace TemplateGrep.Regex

open Unicode

inductive ClassFrame
  | bracket (before : List ClassItem) (negated : Bool)
  | operation (op : SetOperation) (left : ClassItem)

structure ClassState where
  -- innermost frame and last item first
  frames : List ClassFrame
  items : List ClassItem

def ClassItem.ofItems : List ClassItem → ClassItem
  | [] => .empty
  | [i] => i
  | items => .union items

def ClassItem.single (l : Literal) : ClassItem := .range l l

def Primitive.toItem? : Primitive → Option ClassItem
  | .literal l => some (.single l)
  | .perl cls negated => some (.perl cls negated)
  | .property name negated => some (.property name negated)
  | .dot | .assertion _ => none

def Primitive.toLiteral? : Primitive → Option Literal
  | .literal l => some l
  | _ => none

def AsciiClass.ofName? (name : List Char) : Option AsciiClass :=
  match String.ofList name with
  | "alnum" => some .alnum
  | "alpha" => some .alpha
  | "ascii" => some .ascii
  | "blank" => some .blank
  | "cntrl" => some .cntrl
  | "digit" => some .digit
  | "graph" => some .graph
  | "lower" => some .lower
  | "print" => some .print
  | "punct" => some .punct
  | "space" => some .space
  | "upper" => some .upper
  | "word" => some .word
  | "xdigit" => some .xdigit
  | _ => none

def readAsciiClass? : List Char → Option (ClassItem × List Char)
  | ':' :: rest =>
      let (negated, rest) := match rest with
        | '^' :: r => (true, r)
        | r => (false, r)
      let name := rest.takeWhile (· != ':')
      match rest.dropWhile (· != ':') with
      | ':' :: ']' :: rest => (AsciiClass.ofName? name).map fun cls => (.ascii cls negated, rest)
      | _ => none
  | _ => none

def readHyphens (verbose comment : Bool) : List Char → List ClassItem × List Char
  | [] => ([], [])
  | c :: rest =>
      if verbose && comment then readHyphens verbose (c != '\n') rest
      else if verbose && CharClass.isSpace c then readHyphens verbose false rest
      else if verbose && c == '#' then readHyphens verbose true rest
      else if c = '-' then
        let p := readHyphens verbose false rest
        (.single ⟨'-', false⟩ :: p.1, p.2)
      else ([], c :: rest)

def readOpening (verbose : Bool) (cs : List Char) : Option (Bool × List ClassItem × List Char) :=
  let (negated, cs) := match skip verbose cs with
    | '^' :: rest => (true, rest)
    | rest => (false, rest)
  match readHyphens verbose false cs with
  | (_, []) => none
  | ([], ']' :: rest) =>
      match skip verbose rest with
      | [] => none
      | rest => some (negated, [.single ⟨']', false⟩], rest)
  | (hyphens, rest) => some (negated, hyphens.reverse, rest)

def peekBehind (verbose : Bool) (rest : List Char) : Option Char :=
  if !verbose then rest.head?
  else match rest.dropWhile CharClass.isSpace with
    | '#' :: r => (r.dropWhile CharClass.isSpace).head? <|> rest.head?
    | c :: _ => some c
    | [] => rest.head?

def readMember (verbose : Bool) (cs : List Char) : Option (ClassItem × List Char) := do
  let (first, rest) ← readClassPrimitive cs
  match skip verbose rest with
  | [] => none
  | '-' :: behind =>
      if peekBehind verbose behind = some ']' ∨ peekBehind verbose behind = some '-' then
        return (← first.toItem?, '-' :: behind)
      else
        let (last, rest) ← readClassPrimitive (skip verbose behind)
        let low ← first.toLiteral?
        let high ← last.toLiteral?
        if low.char ≤ high.char then return (.range low high, rest) else none
  | rest => return (← first.toItem?, rest)
where
  readClassPrimitive : List Char → Option (Primitive × List Char)
    | [] => none
    | '\\' :: rest => readEscape verbose rest
    | c :: rest => some (.char c, rest)

def closeOperation (right : ClassItem) : List ClassFrame → ClassItem × List ClassFrame
  | .operation op left :: frames => (.operation op left right, frames)
  | frames => (right, frames)

namespace ClassState

def add (s : ClassState) (i : ClassItem) : ClassState := { s with items := i :: s.items }

def operation (s : ClassState) (op : SetOperation) : ClassState :=
  let (left, frames) := closeOperation (.ofItems s.items.reverse) s.frames
  ⟨.operation op left :: frames, []⟩

def close (s : ClassState) : Option ((Bool × ClassItem) ⊕ ClassState) :=
  match closeOperation (.ofItems s.items.reverse) s.frames with
  | (set, [.bracket _ negated]) => some (.inl (negated, set))
  | (set, .bracket before negated :: frames) =>
      some (.inr ⟨frames, .bracket negated set :: before⟩)
  | _ => none

end ClassState

def readClassItems (verbose : Bool) : Nat → ClassState → List Char →
    Option ((Bool × ClassItem) × List Char)
  | 0, _, _ => none
  | fuel + 1, s, cs =>
      match skip verbose cs with
      | [] => none
      | '[' :: rest =>
          match readAsciiClass? rest with
          | some (i, rest) => readClassItems verbose fuel (s.add i) rest
          | none => do
              let (negated, items, rest) ← readOpening verbose rest
              readClassItems verbose fuel ⟨.bracket s.items negated :: s.frames, items⟩ rest
      | ']' :: rest =>
          match s.close with
          | some (.inl cls) => some (cls, rest)
          | some (.inr s) => readClassItems verbose fuel s rest
          | none => none
      | '&' :: '&' :: rest => readClassItems verbose fuel (s.operation .intersection) rest
      | '-' :: '-' :: rest => readClassItems verbose fuel (s.operation .difference) rest
      | '~' :: '~' :: rest => readClassItems verbose fuel (s.operation .symmetricDifference) rest
      | cs => do
          let (i, rest) ← readMember verbose cs
          readClassItems verbose fuel (s.add i) rest

def readClass (verbose : Bool) (cs : List Char) : Option ((Bool × ClassItem) × List Char) := do
  let (negated, items, rest) ← readOpening verbose cs
  readClassItems verbose (rest.length + 1) ⟨[.bracket [] negated], items⟩ rest

end TemplateGrep.Regex
