namespace TemplateGrep

structure Fault where
  text : String
  brokenPipe : Bool := false
  deriving DecidableEq, Repr

namespace Fault

def notFound : Fault := ⟨"No such file or directory (os error 2)", false⟩

def notDirectory : Fault := ⟨"Not a directory (os error 20)", false⟩

def isDirectory : Fault := ⟨"Is a directory (os error 21)", false⟩

def nameTooLong : Fault := ⟨"File name too long (os error 36)", false⟩

def nulInName : Fault := ⟨"file name contained an unexpected NUL byte", false⟩

def notUtf8 : Fault := ⟨"stream did not contain valid UTF-8", false⟩

def noSpace : Fault := ⟨"No space left on device (os error 28)", false⟩

def closedPipe : Fault := ⟨"Broken pipe (os error 32)", true⟩

def writeZero : Fault := ⟨"failed to write whole buffer", false⟩

end Fault

end TemplateGrep
