import TemplateGrep.CommandLine.Arguments
import TemplateGrep.Config.Load
import TemplateGrep.Log
import TemplateGrep.Search.Filter
import TemplateGrep.Template.Listing

/-!
A run of the search program: the config is loaded, then the templates are listed or the patterns are
compiled and standard input or the files are searched in order. The run stops at the first failure.
-/

namespace TemplateGrep

open Template (PatternOptions Table)

structure Outcome where
  log : List LogRecord := []
  sink : Sink
  result : Except Failure Unit

namespace Outcome

def after (log : List LogRecord) (o : Outcome) : Outcome := { o with log := log ++ o.log }

def flush (o : Outcome) : Outcome :=
  match o.result with
  | .error _ => o
  | .ok () =>
      match o.sink.flush with
      | (sink, some f) => ⟨o.log, sink, .error (.io stdoutName f)⟩
      | (sink, none) => ⟨o.log, sink, .ok ()⟩

end Outcome

structure Inputs where
  stdin : Source
  openFile : OpenFile

namespace Search

def patternOptions (a : Arguments) (c : Config) : PatternOptions where
  wordBoundary := a.wordBoundary || c.wordBoundary
  ignoreCase := a.ignoreCase || c.ignoreCase
  noTemplate := a.noTemplate || c.noTemplate

def listTemplates (table : Table) (sink : Sink) : Outcome :=
  match sink.write (Bytes.ofString (Template.Listing.render table)) with
  | (sink, some f) => ⟨[], sink, .error (.io stdoutName f)⟩
  | (sink, none) => Outcome.flush ⟨[], sink, .ok ()⟩

def searchSource (m : Matcher) (name : String) (source : Source) (sink : Sink) : Outcome :=
  match m.filter name source sink with
  | (sink, .error e) => ⟨[], sink, .error e⟩
  | (sink, .ok written) => ⟨[.filtered name written], sink, .ok ()⟩

def searchFiles (m : Matcher) (openFile : OpenFile) : List String → Sink → Outcome
  | [], sink => ⟨[], sink, .ok ()⟩
  | name :: rest, sink =>
      match openFile name with
      | .error f => ⟨[.searching name], sink, .error (.io name f)⟩
      | .ok source =>
          let o := searchSource m name source sink
          match o.result with
          | .error e => ⟨.searching name :: o.log, o.sink, .error e⟩
          | .ok () => (searchFiles m openFile rest o.sink).after (.searching name :: o.log)

def searchInputs (m : Matcher) (inputs : Inputs) (files : List String) (sink : Sink) : Outcome :=
  Outcome.flush
    (if files.isEmpty then searchSource m stdinName inputs.stdin sink
     else searchFiles m inputs.openFile files sink)

def preparedTexts : List CompiledPattern × Option Failure → List String
  | (ps, some (.regex text _)) => ps.map (·.source) ++ [text]
  | (ps, _) => ps.map (·.source)

def preparedLog (raws : List String) (texts : List String) : List LogRecord :=
  (raws.zip texts).zipIdx.map fun p => .patternPrepared p.2 p.1.1 p.1.2

def searchPatterns (table : Table) (options : PatternOptions) (patterns files : List String)
    (inputs : Inputs) (sink : Sink) : Outcome :=
  let compiled := Matcher.compileFrom table options 0 patterns
  Outcome.after (preparedLog patterns (preparedTexts compiled))
    (match compiled with
     | (_, some f) => ⟨[], sink, .error f⟩
     | (ps, none) => searchInputs ⟨ps⟩ inputs files sink)

def runWith (a : Arguments) (c : Config) (table : Table) (inputs : Inputs) (sink : Sink) : Outcome :=
  if a.listTemplates then listTemplates table sink
  else match a.patternsAndFiles? with
    | none => ⟨[], sink, .error .noPattern⟩
    | some (patterns, files) =>
        searchPatterns table (patternOptions a c) patterns files inputs sink

end Search

def configLog (path : Option String) (c : Config) : List LogRecord :=
  path.toList.map fun p => .configLoaded p c.templates.size

namespace Search

def run (a : Arguments) (inputs : Inputs) (sink : Sink) : Outcome :=
  match Config.resolve inputs.openFile a.config with
  | .error e => ⟨[], sink, .error (.config e)⟩
  | .ok c =>
      Outcome.after (configLog a.config c)
        (match c.table with
         | .error e => ⟨[], sink, .error (.config e)⟩
         | .ok table => runWith a c table inputs sink)

end Search

end TemplateGrep
