import TemplateGrep.Template.Expansion

/-!
Patterns built around other patterns. The added regex text stands in blocks.
-/

namespace TemplateGrep.Template

def block (fragment : String) : String := "\x7b\x7b" ++ fragment ++ "\x7d\x7d"

def caseInsensitive (pattern : String) : String := block "(?i)" ++ pattern

def wordBoundary (pattern : String) : String := block "\\b" ++ pattern ++ block "\\b"

def Table.expandCaseInsensitive (t : Table) (pattern : String) : Except ExpandError String :=
  t.expand (caseInsensitive pattern)

structure PatternOptions where
  wordBoundary : Bool := false
  ignoreCase : Bool := false
  noTemplate : Bool := false
  deriving DecidableEq, Repr

def Table.prepare (t : Table) (options : PatternOptions) (raw : String) :
    Except ExpandError String :=
  if options.noTemplate then
    let bounded := if options.wordBoundary then "\\b" ++ raw ++ "\\b" else raw
    .ok (if options.ignoreCase then "(?i)" ++ bounded else bounded)
  else
    let bounded := if options.wordBoundary then wordBoundary raw else raw
    if options.ignoreCase then t.expandCaseInsensitive bounded else t.expand bounded

end TemplateGrep.Template
