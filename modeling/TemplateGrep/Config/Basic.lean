import TemplateGrep.Failure

namespace TemplateGrep

open Template (NameError Table)

structure Config where
  templates : Table := .empty
  ignoreCase : Bool := false
  wordBoundary : Bool := false
  noTemplate : Bool := false
  deriving DecidableEq

namespace Config

def table (c : Config) : Except ConfigError Table :=
  match Table.withTemplates c.templates.entries with
  | .ok t => .ok t
  | .error e => .error (.invalid e)

def validate (c : Config) : Except ConfigError Unit := do
  let _ ← c.table

end Config

end TemplateGrep
