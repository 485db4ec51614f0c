import TemplateGrep.Regex.Compile
import TemplateGrep.Stream.Fault
import TemplateGrep.Template.Expansion

namespace TemplateGrep

open Template (ExpandError NameError)

inductive ConfigError
  | unreadable (path : String) (fault : Fault)
  | malformed
  | invalid (cause : NameError)
  deriving DecidableEq, Repr

def ConfigError.message : ConfigError → String
  | .unreadable path fault => "failed to read config file '" ++ path ++ "': " ++ fault.text
  | .malformed => "failed to parse config YAML: "
  | .invalid cause => "config validation failed: " ++ cause.message

inductive Failure
  | noPattern
  | template (index : Nat) (cause : ExpandError)
  | regex (text : String) (cause : Regex.CompileError)
  | config (cause : ConfigError)
  | io (path : String) (fault : Fault)
  deriving DecidableEq, Repr

namespace Failure

def message : Failure → String
  | .noPattern =>
      "no pattern given\nFix: pass a pattern as the first argument or with -e PATTERN (see --help)."
  | .template index cause =>
      "failed to expand pattern at index [" ++ toString index ++ "]: " ++ cause.message
  | .regex text .malformed => "invalid regex '" ++ text ++ "': "
  | .regex text .tooLarge =>
      "invalid regex '" ++ text ++ "': Compiled regex exceeds size limit of " ++
        toString Regex.sizeLimit ++ " bytes."
  | .config cause => "Config error: " ++ cause.message
  | .io path fault => "I/O error on " ++ path ++ ": " ++ fault.text

/-- The message stops where a reason would follow. -/
def lacksReason : Failure → Bool
  | .regex _ .malformed | .config .malformed => true
  | _ => false

def isBrokenPipe : Failure → Bool
  | .io _ fault => fault.brokenPipe
  | _ => false

end Failure

namespace ExitCode

def success : Nat := 0

def userError : Nat := 1

def ioFailure : Nat := 2

def usage : Nat := 2

end ExitCode

def Failure.exitCode : Failure → Nat
  | .io _ _ => ExitCode.ioFailure
  | _ => ExitCode.userError

end TemplateGrep
