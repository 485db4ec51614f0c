import TemplateGrep.CommandLine.Reader
import TemplateGrep.CommandLine.Help
import TemplateGrep.Program.Search

namespace TemplateGrep

structure Device where
  room : Option Nat := none
  fault : Fault := .noSpace

namespace Device

def working : Device := {}

def broken (f : Fault) : Device := ⟨some 0, f⟩

def sink (d : Device) (capacity : Nat) : Sink :=
  { capacity, room := d.room, fault := d.fault }

end Device

structure Setting where
  args : List String
  configVariable : Option String := none
  logVariable : Option String := none
  inputs : Inputs
  output : Device := .working

inductive Complaint
  | usage (e : UsageError)
  | failure (text : String)
  deriving DecidableEq, Repr

def Complaint.text : Complaint → String
  | .usage e => "error: " ++ e.message ++ "\n"
  | .failure t => "Error: " ++ t

structure Report where
  exitCode : Nat
  output : Bytes := []
  log : List LogRecord := []
  complaint : Option Complaint := none

namespace Report

def errorText (r : Report) : String :=
  String.join (r.log.map (·.line)) ++ ((r.complaint.map Complaint.text).getD "")

def printing (d : Device) (text : String) : Report :=
  { exitCode := ExitCode.success, output := ((d.sink 0).write (Bytes.ofString text)).1.taken }

def refused (d : Device) (help version : String) : UsageError → Report
  | .help => printing d help
  | .version => printing d version
  | e => { exitCode := ExitCode.usage, complaint := some (.usage e) }

end Report

def Failure.complaint (f : Failure) : Complaint :=
  .failure (if f.lacksReason then f.message else f.message ++ "\n")

namespace Setting

def shown (s : Setting) (log : List LogRecord) : List LogRecord :=
  log.filter (·.isShown (LogLevel.ofVariable s.logVariable))

end Setting

namespace Search

def outputCapacity : Nat := 8192

/-- What waits is handed over at the end. A broken pipe is taken for output that nobody reads, even if
it was a read that failed. -/
def report (s : Setting) (o : Outcome) : Report :=
  let log := s.shown o.log
  let output := o.sink.close
  match o.result with
  | .ok () => { exitCode := ExitCode.success, output, log }
  | .error f =>
      if f.isBrokenPipe then { exitCode := ExitCode.success, output, log }
      else { exitCode := f.exitCode, output, log, complaint := some f.complaint }

def program (s : Setting) : Report :=
  match Arguments.read Usage.search s.configVariable s.args with
  | .error e =>
      Report.refused s.output (Help.search s.configVariable) (Help.versionLine Help.searchName) e
  | .ok a => report s (run a s.inputs (s.output.sink outputCapacity))

end Search

end TemplateGrep
