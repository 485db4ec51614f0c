import TemplateGrep.Config.Basic
import TemplateGrep.Text.Blank
import TemplateGrep.Yaml.Document
import TemplateGrep.Yaml.Resolution

/-!
Reading a config. The document is a mapping; of its entries those with other keys are passed over, and
what stands where nothing is written is the default.
-/

namespace TemplateGrep.Config

open Template (Entry Table)
open Yaml (Node Properties ScalarStyle)

inductive Field
  | templates
  | ignoreCase
  | wordBoundary
  | noTemplate
  deriving DecidableEq

def Field.ofName? (name : String) : Option Field :=
  if name = "templates" then some .templates
  else if name = "ignore_case" then some .ignoreCase
  else if name = "word_boundary" then some .wordBoundary
  else if name = "no_template" then some .noTemplate
  else none

def truthTag : Bytes := Bytes.ofString "tag:yaml.org,2002:bool"

def readFlag : Node Nat → Option Bool
  | .scalar p text style =>
      if style = .plain ∨ (style = .literal ∧ p.tag = some truthTag) then Yaml.truthValue? text
      else none
  | _ => none

def readText : Node Nat → Option String
  | .scalar _ text _ => some text
  | _ => none

def readMapping : Node Nat → Option (List (Node Nat × Node Nat))
  | .mapping _ entries => some entries
  | .scalar _ text style => if text = "" ∧ style = .plain then some [] else none
  | _ => none

def readEntry (document : Node Nat) (e : Node Nat × Node Nat) : Option Entry := do
  let name ← readText (← document.resolve? e.1)
  let fragment ← readText (← document.resolve? e.2)
  return (name, fragment)

def readTemplates (document value : Node Nat) : Option Table := do
  let entries ← readMapping value
  return Table.ofList (← entries.mapM (readEntry document))

def setField (document : Node Nat) (c : Config) (field : Field) (value : Node Nat) :
    Option Config := do
  let value ← document.resolve? value
  match field with
  | .templates => return { c with templates := ← readTemplates document value }
  | .ignoreCase => return { c with ignoreCase := ← readFlag value }
  | .wordBoundary => return { c with wordBoundary := ← readFlag value }
  | .noTemplate => return { c with noTemplate := ← readFlag value }

def readFields (document : Node Nat) (given : List Field) (c : Config) :
    List (Node Nat × Node Nat) → Option Config
  | [] => some c
  | (key, value) :: rest => do
      let name ← readText (← document.resolve? key)
      match Field.ofName? name with
      | none => readFields document given c rest
      | some field =>
          if field ∈ given then none
          else readFields document (field :: given) (← setField document c field value) rest

def ofDocument? (document : Node Nat) : Option Config := do
  readFields document [] {} (← readMapping document)

def ofYaml (text : String) : Except ConfigError Config := do
  let c ← if Text.isBlank text then pure {} else
    match (Yaml.document? text).bind ofDocument? with
    | some c => pure c
    | none => throw .malformed
  c.validate
  return c

end TemplateGrep.Config
