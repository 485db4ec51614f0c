import TemplateGrep.Regex.Footprint
import TemplateGrep.Regex.Meaning
import TemplateGrep.Regex.Parser

namespace TemplateGrep.Regex

inductive CompileError
  | malformed
  | tooLarge
  deriving DecidableEq, Repr

def compile (text : String) : Except CompileError Regex :=
  match parse text.toList with
  | none => .error .malformed
  | some ast =>
      match ast.meaning? {} with
      | none => .error .malformed
      | some (r, _) => if r.footprint ≤ sizeLimit then .ok r else .error .tooLarge

end TemplateGrep.Regex
