import TemplateGrep.Text.Quoted

namespace TemplateGrep

inductive LogLevel
  | trace
  | debug
  | info
  | warn
  | error
  | off
  deriving DecidableEq, Repr

namespace LogLevel

def rank : LogLevel → Nat
  | .trace => 0
  | .debug => 1
  | .info => 2
  | .warn => 3
  | .error => 4
  | .off => 5

def text : LogLevel → String
  | .trace => "TRACE"
  | .debug => "DEBUG"
  | .info => "INFO"
  | .warn => "WARN"
  | .error => "ERROR"
  | .off => "OFF"

def all : List LogLevel := [.trace, .debug, .info, .warn, .error, .off]

def ofText? (s : String) : Option LogLevel := all.find? fun l => l.text.toList == s.toList.map Char.toUpper

def variableName : String := "TGREP_LOG"

def address : List Char := "tgrep=".toList

def ofVariable : Option String → LogLevel
  | none => .warn
  | some s =>
      match ofText? s with
      | some l => l
      | none =>
          if address.isPrefixOf s.toList then
            (ofText? (String.ofList (s.toList.drop address.length))).getD .off
          else .off

end LogLevel

inductive LogRecord
  | configLoaded (path : String) (templates : Nat)
  | patternPrepared (index : Nat) (raw expanded : String)
  | searching (file : String)
  | filtered (source : String) (written : Nat)
  deriving DecidableEq, Repr

namespace LogRecord

def level : LogRecord → LogLevel
  | .configLoaded _ _ | .patternPrepared _ _ _ => .debug
  | .searching _ | .filtered _ _ => .trace

def message : LogRecord → String
  | .configLoaded path templates =>
      "loaded config path=" ++ path ++ " templates=" ++ toString templates
  | .patternPrepared index raw expanded =>
      "prepared pattern index=" ++ toString index ++ " raw=" ++ Text.Quoted.encode raw ++
        " expanded=" ++ expanded
  | .searching file => "searching file=" ++ file
  | .filtered source written =>
      "filtered input source=" ++ Text.Quoted.encode source ++ " written=" ++ toString written

def line (r : LogRecord) : String := r.level.text ++ " " ++ r.message ++ "\n"

def isShown (threshold : LogLevel) (r : LogRecord) : Bool := threshold.rank ≤ r.level.rank

end LogRecord

end TemplateGrep
