namespace TemplateGrep

structure Arguments where
  wordBoundary : Bool := false
  ignoreCase : Bool := false
  noTemplate : Bool := false
  listTemplates : Bool := false
  patterns : List String := []
  config : Option String := none
  operands : List String := []
  deriving DecidableEq, Repr

namespace Arguments

def patternsAndFiles? (a : Arguments) : Option (List String × List String) :=
  if a.patterns.isEmpty then
    match a.operands with
    | [] => none
    | pattern :: files => some ([pattern], files)
  else some (a.patterns, a.operands)

end Arguments

inductive UsageError
  | help
  | version
  | nothingGiven
  | patternMissing
  | unknown (argument : String)
  | valueMissing
  | valueEmpty
  | repeated
  | valueUnexpected
  deriving DecidableEq, Repr

def UsageError.message : UsageError → String
  | .help => "help requested"
  | .version => "version requested"
  | .nothingGiven => "no arguments given"
  | .patternMissing => "a pattern is required"
  | .unknown argument => "unexpected argument '" ++ argument ++ "'"
  | .valueMissing => "an option lacks its value"
  | .valueEmpty => "the config path must not be empty"
  | .repeated => "an option that may be given once is repeated"
  | .valueUnexpected => "a value is given to an option that takes none"

end TemplateGrep
