namespace TemplateGrep.Yaml

def isAllowed (c : Char) : Bool :=
  c == '\t' || c == '\n' || c == '\r' || c == '\u0085' ||
    (' ' ≤ c && c ≤ '~') || ('\u00a0' ≤ c && c != '\ufffe' && c != '\uffff')

def byteOrderMark : Char := '\ufeff'

def normalizeBreaks : List Char → List Char
  | [] => []
  | '\r' :: '\n' :: rest => '\n' :: normalizeBreaks rest
  | '\r' :: rest => '\n' :: normalizeBreaks rest
  | '\u0085' :: rest => '\n' :: normalizeBreaks rest
  | c :: rest => c :: normalizeBreaks rest

def isBreak (c : Char) : Bool := c == '\n' || c == '\u2028' || c == '\u2029'

def isBlank (c : Char) : Bool := c == ' ' || c == '\t'

def blankAhead : List Char → Bool
  | [] => true
  | c :: _ => isBlank c || isBreak c

def isWordChar (c : Char) : Bool := c.isAlphanum || c == '_' || c == '-'

def isDocumentStart : List Char → Bool
  | '-' :: '-' :: '-' :: rest => blankAhead rest
  | _ => false

def isDocumentEnd : List Char → Bool
  | '.' :: '.' :: '.' :: rest => blankAhead rest
  | _ => false

def isDocumentMark (cs : List Char) : Bool := isDocumentStart cs || isDocumentEnd cs

structure Position where
  index : Nat := 0
  line : Nat := 0
  column : Nat := 0
  deriving DecidableEq, Repr

namespace Position

def next (p : Position) : Position := { p with index := p.index + 1, column := p.column + 1 }

def nextLine (p : Position) : Position := ⟨p.index + 1, p.line + 1, 0⟩

def after (p : Position) (c : Char) : Position := if isBreak c then p.nextLine else p.next

def afterAll (p : Position) (cs : List Char) : Position := cs.foldl after p

end Position

end TemplateGrep.Yaml
