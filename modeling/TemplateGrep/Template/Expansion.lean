import TemplateGrep.Template.Table

/-!
Expansion of a templated pattern into regex text. Outside blocks the text is literal and its special
characters are escaped. A block that holds a template name becomes the template's fragment, and any
other block its own content.
-/

namespace TemplateGrep.Template

def specialCharacters : List Char := ['[', '(', ')', '{', '}', '$', '^', '\\']

def escaped (c : Char) : List Char := if c ∈ specialCharacters then ['\\', c] else [c]

inductive ExpandError
  | unclosed (position : Nat)
  deriving DecidableEq, Repr

def ExpandError.message : ExpandError → String
  | .unclosed p => "template opened at position " ++ toString p ++ " is never closed"

def ExpandError.shift (n : Nat) : ExpandError → ExpandError
  | .unclosed p => .unclosed (p + n)

namespace Table

def resolve (t : Table) (content : List Char) : List Char :=
  match t.lookup (String.ofList content) with
  | some fragment => fragment.toList
  | none => content

mutual

def scanLiteral (t : Table) (pos : Nat) : List Char → Except ExpandError (List Char)
  | [] => .ok []
  | '\\' :: '{' :: rest => (['\\', '{'] ++ ·) <$> t.scanLiteral (pos + 2) rest
  | '{' :: '{' :: rest => t.scanBlock (pos + 2) pos [] rest
  | c :: rest => (escaped c ++ ·) <$> t.scanLiteral (pos + 1) rest

def scanBlock (t : Table) (pos start : Nat) (content : List Char) :
    List Char → Except ExpandError (List Char)
  | [] => .error (.unclosed start)
  | '}' :: '}' :: rest => (t.resolve content.reverse ++ ·) <$> t.scanLiteral (pos + 2) rest
  | c :: rest => t.scanBlock (pos + 1) start (c :: content) rest

end

def scan (t : Table) (text : List Char) : Except ExpandError (List Char) := t.scanLiteral 0 text

def expand (t : Table) (pattern : String) : Except ExpandError String :=
  match t.lookup pattern with
  | some fragment => .ok fragment
  | none => String.ofList <$> t.scan pattern.toList

end Table

end TemplateGrep.Template
