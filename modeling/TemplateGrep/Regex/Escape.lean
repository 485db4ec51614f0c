import TemplateGrep.Regex.Ast
import TemplateGrep.Unicode.CharClass

/-!
Reading the parts of a regex that are no larger than a primitive: a character, an escape sequence, a
dot or an assertion. Every reader takes the text that lies ahead and returns what it read with the
text behind it, or `none` when the text is malformed.
-/

namespace TemplateGrep.Regex

open Unicode

def dropBlanks (comment : Bool) : List Char → List Char
  | [] => []
  | c :: rest =>
      if comment then dropBlanks (c != '\n') rest
      else if CharClass.isSpace c then dropBlanks false rest
      else if c = '#' then dropBlanks true rest
      else c :: rest

def skip (verbose : Bool) (cs : List Char) : List Char :=
  if verbose then dropBlanks false cs else cs

inductive Primitive
  | literal (l : Literal)
  | dot
  | assertion (a : Assertion)
  | perl (cls : PerlClass) (negated : Bool)
  | property (name : PropertyName) (negated : Bool)
  deriving DecidableEq, Repr

def Primitive.toAst : Primitive → Ast
  | .literal l => .literal l
  | .dot => .dot
  | .assertion a => .assertion a
  | .perl cls negated => .perl cls negated
  | .property name negated => .property name negated

def Primitive.char (c : Char) : Primitive := .literal ⟨c, false⟩

def metaCharacters : List Char :=
  ['\\', '.', '+', '*', '?', '(', ')', '|', '[', ']', '{', '}', '^', '$', '#', '&', '-', '~']

def isIdleEscape (c : Char) : Bool :=
  decide (c.toNat < 128) && !c.isAlphanum && c != '<' && c != '>'

def hexValue? (c : Char) : Option Nat :=
  if c.isDigit then some (c.toNat - '0'.toNat)
  else if 'a' ≤ c ∧ c ≤ 'f' then some (c.toNat - 'a'.toNat + 10)
  else if 'A' ≤ c ∧ c ≤ 'F' then some (c.toNat - 'A'.toNat + 10)
  else none

def scalar? (n : Nat) : Option Char := if n.isValidChar then some (Char.ofNat n) else none

def readHexDigits (verbose : Bool) : Nat → Nat → List Char → Option (Nat × List Char)
  | 0, n, cs => some (n, cs)
  | k + 1, n, c :: rest => do
      let d ← hexValue? c
      readHexDigits verbose k (n * 16 + d) (skip verbose rest)
  | _ + 1, _, [] => none

def readSqueezed (verbose comment : Bool) : List Char → Option (List Char × List Char)
  | [] => none
  | c :: rest =>
      if verbose && comment then readSqueezed verbose (c != '\n') rest
      else if verbose && CharClass.isSpace c then readSqueezed verbose false rest
      else if verbose && c == '#' then readSqueezed verbose true rest
      else if c = '}' then some ([], rest)
      else (readSqueezed verbose false rest).map fun p => (c :: p.1, p.2)

def hexNumber? (digits : List Char) : Option Nat :=
  if digits.isEmpty then none
  else digits.foldlM (fun n c => (hexValue? c).map (n * 16 + ·)) 0

def readHex (verbose : Bool) (width : Nat) (cs : List Char) : Option (Primitive × List Char) :=
  match skip verbose cs with
  | '{' :: rest => do
      let (digits, rest) ← readSqueezed verbose false rest
      let c ← scalar? (← hexNumber? digits)
      return (.literal ⟨c, false⟩, rest)
  | cs => do
      let (n, rest) ← readHexDigits verbose width 0 cs
      let c ← scalar? n
      return (.literal ⟨c, width == 2⟩, rest)

def splitOnce (separator : List Char) : List Char → Option (List Char × List Char)
  | [] => none
  | c :: rest =>
      if separator.isPrefixOf (c :: rest) then some ([], (c :: rest).drop separator.length)
      else (splitOnce separator rest).map fun p => (c :: p.1, p.2)

def propertyName (text : List Char) : PropertyName :=
  match (splitOnce ['!', '='] text <|> splitOnce [':'] text) <|> splitOnce ['='] text with
  | some (name, which) => .value (String.ofList name) (String.ofList which)
  | none => .single (String.ofList text)

def readProperty (verbose negated : Bool) (cs : List Char) : Option (Primitive × List Char) :=
  match skip verbose cs with
  | [] => none
  | '{' :: rest => do
      let (text, rest) ← readSqueezed verbose false rest
      return (.property (propertyName text) negated, rest)
  | c :: rest =>
      if c = '\\' then none
      else some (.property (.single (String.singleton c)) negated, rest)

def isBoundaryLetter (c : Char) : Bool := c.isAlpha || c == '-'

def readBoundaryName (verbose comment : Bool) : List Char → List Char × List Char
  | [] => ([], [])
  | c :: rest =>
      if verbose && comment then readBoundaryName verbose (c != '\n') rest
      else if verbose && CharClass.isSpace c then readBoundaryName verbose false rest
      else if verbose && c == '#' then readBoundaryName verbose true rest
      else if isBoundaryLetter c then
        let p := readBoundaryName verbose false rest
        (c :: p.1, p.2)
      else ([], c :: rest)

def boundary? (name : List Char) : Option Assertion :=
  match String.ofList name with
  | "start" => some .wordStart
  | "end" => some .wordEnd
  | "start-half" => some .wordStartHalf
  | "end-half" => some .wordEndHalf
  | _ => none

/-- Reads behind `\b`. A brace with a letter or a hyphen next opens the name of a boundary; with
anything else next it belongs to a repetition. -/
def readBoundary (verbose : Bool) (cs : List Char) : Option (Primitive × List Char) :=
  match cs with
  | '{' :: rest =>
      match skip verbose rest with
      | [] => none
      | c :: _ =>
          if isBoundaryLetter c then
            match readBoundaryName verbose false rest with
            | (name, '}' :: rest) => (boundary? name).map fun a => (.assertion a, rest)
            | _ => none
          else some (.assertion .wordBoundary, cs)
  | _ => some (.assertion .wordBoundary, cs)

def readEscape (verbose : Bool) : List Char → Option (Primitive × List Char)
  | [] => none
  | 'x' :: rest => readHex verbose 2 rest
  | 'u' :: rest => readHex verbose 4 rest
  | 'U' :: rest => readHex verbose 8 rest
  | 'p' :: rest => readProperty verbose false rest
  | 'P' :: rest => readProperty verbose true rest
  | 'd' :: rest => some (.perl .digit false, rest)
  | 's' :: rest => some (.perl .space false, rest)
  | 'w' :: rest => some (.perl .word false, rest)
  | 'D' :: rest => some (.perl .digit true, rest)
  | 'S' :: rest => some (.perl .space true, rest)
  | 'W' :: rest => some (.perl .word true, rest)
  | 'a' :: rest => some (.char '\x07', rest)
  | 'f' :: rest => some (.char '\x0C', rest)
  | 't' :: rest => some (.char '\t', rest)
  | 'n' :: rest => some (.char '\n', rest)
  | 'r' :: rest => some (.char '\r', rest)
  | 'v' :: rest => some (.char '\x0B', rest)
  | 'A' :: rest => some (.assertion .textStart, rest)
  | 'z' :: rest => some (.assertion .textEnd, rest)
  | 'b' :: rest => readBoundary verbose rest
  | 'B' :: rest => some (.assertion .notWordBoundary, rest)
  | '<' :: rest => some (.assertion .wordStart, rest)
  | '>' :: rest => some (.assertion .wordEnd, rest)
  | c :: rest =>
      if c ∈ metaCharacters ∨ isIdleEscape c then some (.char c, rest) else none

def readPrimitive (verbose : Bool) : List Char → Option (Primitive × List Char)
  | [] => none
  | '\\' :: rest => readEscape verbose rest
  | '.' :: rest => some (.dot, rest)
  | '^' :: rest => some (.assertion .lineStart, rest)
  | '$' :: rest => some (.assertion .lineEnd, rest)
  | c :: rest => some (.char c, rest)

end TemplateGrep.Regex
