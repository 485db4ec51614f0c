import TemplateGrep.Config.Reader
import TemplateGrep.Stream.Source

namespace TemplateGrep

abbrev OpenFile := String → Except Fault Source

namespace Config

def readFile (openFile : OpenFile) (path : String) : Except Fault String := do
  let source ← openFile path
  match Bytes.toString? (← source.contents) with
  | some text => return text
  | none => throw .notUtf8

def load (openFile : OpenFile) (path : String) : Except ConfigError Config :=
  match readFile openFile path with
  | .ok text => ofYaml text
  | .error f => .error (.unreadable path f)

def resolve (openFile : OpenFile) : Option String → Except ConfigError Config
  | none => .ok {}
  | some path => load openFile path

end Config

end TemplateGrep
