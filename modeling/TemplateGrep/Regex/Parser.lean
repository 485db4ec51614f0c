import TemplateGrep.Regex.ClassReader

/-!
Reading a whole regex. The reader goes through the text one element at a time and keeps the groups
that are still open on a stack.
-/

namespace TemplateGrep.Regex

open Unicode

structure Level where
  -- last branch and last item first
  branches : List Ast := []
  items : List Ast := []

namespace Level

def add (l : Level) (a : Ast) : Level := { l with items := a :: l.items }

def nextBranch (l : Level) : Level := ⟨.ofItems l.items.reverse :: l.branches, []⟩

def toAst (l : Level) : Ast := .ofBranches l.nextBranch.branches.reverse

end Level

structure OpenGroup where
  kind : GroupKind
  outer : Level
  verbose : Bool

structure ParserState where
  groups : List OpenGroup := []
  level : Level := {}
  verbose : Bool := false

namespace FlagChange

def isEmpty (f : FlagChange) : Bool := f == {}

def set? (f : FlagChange) (letter : Char) (value : Bool) : Option FlagChange :=
  match letter with
  | 'i' => if f.ignoreCase.isSome then none else some { f with ignoreCase := some value }
  | 'm' => if f.multiLine.isSome then none else some { f with multiLine := some value }
  | 's' => if f.dotAll.isSome then none else some { f with dotAll := some value }
  | 'U' => if f.swapGreed.isSome then none else some { f with swapGreed := some value }
  | 'R' => if f.crlf.isSome then none else some { f with crlf := some value }
  | 'u' => if f.unicode.isSome then none else some { f with unicode := some value }
  | 'x' => if f.verbose.isSome then none else some { f with verbose := some value }
  | _ => none

end FlagChange

inductive FlagsEnd
  | close
  | body
  deriving DecidableEq

/-- Reads flags. One hyphen may stand among them, in front of at least one flag; those behind it are
taken off. -/
def readFlags (f : FlagChange) (negated dangling : Bool) :
    List Char → Option (FlagChange × FlagsEnd × List Char)
  | [] => none
  | ':' :: rest => if dangling then none else some (f, .body, rest)
  | ')' :: rest => if dangling then none else some (f, .close, rest)
  | '-' :: rest => if negated then none else readFlags f true true rest
  | c :: rest => do readFlags (← f.set? c !negated) negated false rest

def isCaptureStart (c : Char) : Bool := c == '_' || CharClass.isAlphabetic c

def isCaptureRest (c : Char) : Bool :=
  c == '_' || c == '.' || c == '[' || c == ']' || CharClass.isAlphanumeric c

def readCaptureName (cs : List Char) : Option (String × List Char) :=
  let name := cs.takeWhile (· != '>')
  match name, cs.dropWhile (· != '>') with
  | c :: more, '>' :: rest =>
      if isCaptureStart c && more.all isCaptureRest then some (String.ofList name, rest) else none
  | _, _ => none

inductive Opening
  | flags (change : FlagChange)
  | group (kind : GroupKind)

def readOpeningParen (verbose : Bool) (cs : List Char) : Option (Opening × List Char) :=
  match skip verbose cs with
  | '?' :: '=' :: _ | '?' :: '!' :: _ | '?' :: '<' :: '=' :: _ | '?' :: '<' :: '!' :: _ => none
  | '?' :: 'P' :: '<' :: rest | '?' :: '<' :: rest =>
      (readCaptureName rest).map fun p => (.group (.capture (some p.1)), p.2)
  | '?' :: rest =>
      match readFlags {} false false rest with
      | some (f, .close, rest) => if f.isEmpty then none else some (.flags f, rest)
      | some (f, .body, rest) => some (.group (.plain f), rest)
      | none => none
  | rest => some (.group (.capture none), rest)

def maxCount : Nat := 0xFFFFFFFF

def readDigits (verbose comment : Bool) : List Char → List Char × List Char
  | [] => ([], [])
  | c :: rest =>
      if verbose && comment then readDigits verbose (c != '\n') rest
      else if verbose && CharClass.isSpace c then readDigits verbose false rest
      else if verbose && c == '#' then readDigits verbose true rest
      else if c.isDigit then
        let p := readDigits verbose false rest
        (c :: p.1, p.2)
      else ([], c :: rest)

def readCount (verbose : Bool) (cs : List Char) : Option (Nat × List Char) :=
  match cs.dropWhile CharClass.isSpace with
  | [] => none
  | c :: rest =>
      if !c.isDigit then none
      else
        let (more, rest) := readDigits verbose false rest
        let n := (c :: more).foldl (fun n d => n * 10 + (d.toNat - '0'.toNat)) 0
        if n ≤ maxCount then
          some (n, skip verbose ((skip verbose rest).dropWhile CharClass.isSpace))
        else none

def dropLazy : List Char → List Char
  | '?' :: rest => rest
  | cs => cs

def readRepetition (verbose : Bool) (cs : List Char) :
    Option ((Nat × Option Nat) × List Char) := do
  let (low, rest) ← readCount verbose (skip verbose cs)
  match rest with
  | '}' :: rest => return ((low, some low), dropLazy (skip verbose rest))
  | ',' :: rest =>
      match skip verbose rest with
      | '}' :: rest => return ((low, none), dropLazy (skip verbose rest))
      | rest =>
          let (high, rest) ← readCount verbose rest
          match rest with
          | '}' :: rest =>
              if low ≤ high then return ((low, some high), dropLazy (skip verbose rest)) else none
          | _ => none
  | _ => none

namespace ParserState

def add (s : ParserState) (a : Ast) : ParserState := { s with level := s.level.add a }

def repeatLast (s : ParserState) (min : Nat) (max : Option Nat) : Option ParserState :=
  match s.level.items with
  | [] | .empty :: _ | .flags _ :: _ => none
  | a :: before =>
      some { s with level := { s.level with items := .repetition a min max :: before } }

def openParen (s : ParserState) : Opening → ParserState
  | .flags change => { s.add (.flags change) with verbose := change.verbose.getD s.verbose }
  | .group kind =>
      let verbose := match kind with
        | .plain change => change.verbose.getD s.verbose
        | .capture _ => s.verbose
      { groups := ⟨kind, s.level, s.verbose⟩ :: s.groups, verbose }

def closeParen (s : ParserState) : Option ParserState :=
  match s.groups with
  | [] => none
  | g :: groups => some ⟨groups, g.outer.add (.group g.kind s.level.toAst), g.verbose⟩

def step (s : ParserState) : List Char → Option (ParserState × List Char)
  | [] => none
  | '(' :: rest => (readOpeningParen s.verbose rest).map fun p => (s.openParen p.1, p.2)
  | ')' :: rest => s.closeParen.map (·, rest)
  | '|' :: rest => some ({ s with level := s.level.nextBranch }, rest)
  | '[' :: rest =>
      (readClass s.verbose rest).map fun p => (s.add (.bracket p.1.1 p.1.2), p.2)
  | '?' :: rest => (s.repeatLast 0 (some 1)).map (·, dropLazy rest)
  | '*' :: rest => (s.repeatLast 0 none).map (·, dropLazy rest)
  | '+' :: rest => (s.repeatLast 1 none).map (·, dropLazy rest)
  | '{' :: rest => do
      let ((min, max), rest) ← readRepetition s.verbose rest
      return (← s.repeatLast min max, rest)
  | cs => (readPrimitive s.verbose cs).map fun p => (s.add p.1.toAst, p.2)

def run : Nat → ParserState → List Char → Option ParserState
  | 0, _, _ => none
  | fuel + 1, s, cs =>
      match skip s.verbose cs with
      | [] => some s
      | cs => do
          let (s, rest) ← s.step cs
          run fuel s rest

end ParserState

def nestLimit : Nat := 250

def parse (text : List Char) : Option Ast := do
  let s ← ParserState.run (text.length + 1) {} text
  if !s.groups.isEmpty then none
  else
    let ast := s.level.toAst
    if ast.height ≤ nestLimit ∧ ast.captureNames.Nodup then return ast else none

end TemplateGrep.Regex
