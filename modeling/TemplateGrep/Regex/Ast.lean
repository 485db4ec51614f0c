import TemplateGrep.Unicode.Property

/-!
Regexes as they are written. Flags stand where they were written and have no effect yet.
-/

namespace TemplateGrep.Regex

open Unicode

structure FlagChange where
  ignoreCase : Option Bool := none
  multiLine : Option Bool := none
  dotAll : Option Bool := none
  swapGreed : Option Bool := none
  crlf : Option Bool := none
  unicode : Option Bool := none
  verbose : Option Bool := none
  deriving DecidableEq, Repr

structure Literal where
  char : Char
  isByte : Bool := false
  deriving DecidableEq, Repr

inductive PerlClass
  | digit
  | space
  | word
  deriving DecidableEq, Repr

inductive AsciiClass
  | alnum | alpha | ascii | blank | cntrl | digit | graph | lower | print | punct | space | upper
  | word | xdigit
  deriving DecidableEq, Repr

inductive SetOperation
  | intersection
  | difference
  | symmetricDifference
  deriving DecidableEq, Repr

inductive ClassItem
  | empty
  | range (first last : Literal)
  | ascii (cls : AsciiClass) (negated : Bool)
  | perl (cls : PerlClass) (negated : Bool)
  | property (name : PropertyName) (negated : Bool)
  | union (items : List ClassItem)
  | bracket (negated : Bool) (set : ClassItem)
  | operation (op : SetOperation) (left right : ClassItem)
  deriving Repr

inductive Assertion
  | lineStart
  | lineEnd
  | textStart
  | textEnd
  | wordBoundary
  | notWordBoundary
  | wordStart
  | wordEnd
  | wordStartHalf
  | wordEndHalf
  deriving DecidableEq, Repr

inductive GroupKind
  | capture (name : Option String)
  | plain (flags : FlagChange)
  deriving DecidableEq, Repr

inductive Ast
  | empty
  | flags (change : FlagChange)
  | literal (l : Literal)
  | dot
  | assertion (a : Assertion)
  | perl (cls : PerlClass) (negated : Bool)
  | property (name : PropertyName) (negated : Bool)
  | bracket (negated : Bool) (set : ClassItem)
  | repetition (body : Ast) (min : Nat) (max : Option Nat)
  | group (kind : GroupKind) (body : Ast)
  | concat (items : List Ast)
  | alternation (branches : List Ast)
  deriving Repr

mutual

def ClassItem.height : ClassItem → Nat
  | .union items => ClassItem.heights items + 1
  | .bracket _ set => set.height + 1
  | .operation _ left right => max left.height right.height + 1
  | _ => 0

def ClassItem.heights : List ClassItem → Nat
  | [] => 0
  | i :: rest => max i.height (heights rest)

end

mutual

def Ast.height : Ast → Nat
  | .bracket _ set => set.height + 1
  | .repetition body _ _ => body.height + 1
  | .group _ body => body.height + 1
  | .concat items => Ast.heights items + 1
  | .alternation branches => Ast.heights branches + 1
  | _ => 0

def Ast.heights : List Ast → Nat
  | [] => 0
  | a :: rest => max a.height (heights rest)

end

mutual

def Ast.captureNames : Ast → List String
  | .repetition body _ _ => body.captureNames
  | .group (.capture name) body => name.toList ++ body.captureNames
  | .group (.plain _) body => body.captureNames
  | .concat items => Ast.allCaptureNames items
  | .alternation branches => Ast.allCaptureNames branches
  | _ => []

def Ast.allCaptureNames : List Ast → List String
  | [] => []
  | a :: rest => a.captureNames ++ allCaptureNames rest

end

def Ast.ofItems : List Ast → Ast
  | [] => .empty
  | [a] => a
  | items => .concat items

def Ast.ofBranches : List Ast → Ast
  | [a] => a
  | branches => .alternation branches

end TemplateGrep.Regex
