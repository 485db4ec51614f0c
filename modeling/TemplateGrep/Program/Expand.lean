import TemplateGrep.Program.Report

namespace TemplateGrep.Expand

open Template (ExpandError Table)

inductive Stop
  | config (cause : ConfigError)
  | pattern (index : Nat) (cause : ExpandError)
  | output (fault : Fault)
  deriving DecidableEq, Repr

def Stop.complaint : Stop → Complaint
  | .config cause => (Failure.config cause).complaint
  | .pattern index cause =>
      because ("parsing pattern at index [" ++ toString index ++ "]") cause.message
  | .output fault => because "writing to stdout" fault.text
where
  because (what why : String) : Complaint :=
    .failure (what ++ "\n\nCaused by:\n    " ++ why ++ "\n")

def writeAll (table : Table) (index : Nat) : List String → Sink → Sink × Option Stop
  | [], sink => (sink, none)
  | pattern :: rest, sink =>
      match table.expand pattern with
      | .error e => (sink, some (.pattern index e))
      | .ok text =>
          match sink.writeLine (Bytes.ofString text) with
          | (sink, some f) => (sink, some (.output f))
          | (sink, none) => writeAll table (index + 1) rest sink

def run (a : Arguments) (openFile : OpenFile) (sink : Sink) :
    List LogRecord × Sink × Option Stop :=
  match Config.resolve openFile a.config with
  | .error e => ([], sink, some (.config e))
  | .ok c =>
      (configLog a.config c,
        match c.table with
        | .error e => (sink, some (.config e))
        | .ok table => writeAll table 0 a.operands sink)

def report (s : Setting) : List LogRecord × Sink × Option Stop → Report
  | (log, sink, none) =>
      { exitCode := ExitCode.success, output := sink.close, log := s.shown log }
  | (log, sink, some stop) =>
      { exitCode := ExitCode.userError, output := sink.close, log := s.shown log,
        complaint := some stop.complaint }

def program (s : Setting) : Report :=
  match Arguments.read Usage.expand s.configVariable s.args with
  | .error e =>
      Report.refused s.output (Help.expand s.configVariable) (Help.versionLine Help.expandName) e
  | .ok a => report s (run a s.inputs.openFile (s.output.sink 0))

end TemplateGrep.Expand
