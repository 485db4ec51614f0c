import TemplateGrep.Config.Basic
import TemplateGrep.Yaml.ScalarWriter

namespace TemplateGrep.Config

open Yaml

def writeTemplates (entries : List Template.Entry) : List Char :=
  if entries.isEmpty then []
  else "templates:\n".toList ++ entries.flatMap fun e => ScalarWriter.entry e.1 e.2

def writeFlag (name : String) (value : Bool) : List Char :=
  name.toList ++ [':', ' '] ++ (if value then "true" else "false").toList ++ ['\n']

def toYaml (c : Config) : String :=
  String.ofList (writeTemplates c.templates.entries ++ writeFlag "ignore_case" c.ignoreCase ++
    writeFlag "word_boundary" c.wordBoundary ++ writeFlag "no_template" c.noTemplate)

end TemplateGrep.Config
