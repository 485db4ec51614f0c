import TemplateGrep.Failure
import TemplateGrep.Regex.Match
import TemplateGrep.Stream.Bytes
import TemplateGrep.Template.Composition
import TemplateGrep.Text.Quoted

namespace TemplateGrep

open Template (Table PatternOptions)

structure CompiledPattern where
  source : String
  regex : Regex
  deriving DecidableEq, Repr

structure Matcher where
  patterns : List CompiledPattern
  deriving DecidableEq, Repr

namespace Matcher

def sources (m : Matcher) : List String := m.patterns.map (·.source)

def size (m : Matcher) : Nat := m.patterns.length

def isEmpty (m : Matcher) : Bool := m.patterns.isEmpty

def compileOne (table : Table) (options : PatternOptions) (index : Nat) (raw : String) :
    Except Failure CompiledPattern :=
  match table.prepare options raw with
  | .error e => .error (.template index e)
  | .ok text =>
      match Regex.compile text with
      | .error e => .error (.regex text e)
      | .ok r => .ok ⟨text, r⟩

def compileFrom (table : Table) (options : PatternOptions) (index : Nat) :
    List String → List CompiledPattern × Option Failure
  | [] => ([], none)
  | raw :: rest =>
      match compileOne table options index raw with
      | .error f => ([], some f)
      | .ok p =>
          let (ps, f) := compileFrom table options (index + 1) rest
          (p :: ps, f)

def compile (table : Table) (options : PatternOptions) (raws : List String) :
    Except Failure Matcher :=
  match compileFrom table options 0 raws with
  | (ps, none) => .ok ⟨ps⟩
  | (_, some f) => .error f

def isMatch (m : Matcher) (line : Bytes) : Bool :=
  m.patterns.any fun p => p.regex.isMatch ⟨line.toArray⟩

def describe (m : Matcher) : String :=
  "Matcher \x7b patterns: " ++ Text.Quoted.encodeList m.sources ++ " \x7d"

end Matcher

end TemplateGrep
