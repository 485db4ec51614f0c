import TemplateGrep.Program.Expand

/-!
The programs as processes. The name that the process was started under chooses between them: `tg`
expands patterns, any other searches.
-/

namespace TemplateGrep

def Fault.ofError : IO.Error → Fault
  | .noFileOrDirectory _ _ _ => .notFound
  | .inappropriateType _ 21 _ => .isDirectory
  | .inappropriateType _ _ _ => .notDirectory
  | .resourceExhausted _ 28 _ => .noSpace
  | .resourceVanished 32 _ => .closedPipe
  | e => ⟨toString e, false⟩

def attempt {α : Type} (act : IO α) : IO (Except Fault α) := do
  match ← act.toBaseIO with
  | .ok a => return .ok a
  | .error e => return .error (.ofError e)

def bytesOf (b : ByteArray) : Bytes := b.data.toList

def readSource (h : IO.FS.Stream) : IO Source := do
  let mut chunks := #[]
  repeat
    match ← attempt (h.read 65536) with
    | .error f => return ⟨chunks.toList, some f⟩
    | .ok b =>
        if b.isEmpty then break
        chunks := chunks.push (bytesOf b)
  return ⟨chunks.toList, none⟩

def openSource (name : String) : IO (Except Fault Source) := do
  match ← attempt (IO.FS.Handle.mk name .read) with
  | .error f => return .error f
  | .ok h => return .ok (← readSource (.ofHandle h))

def readInputs (paths : List String) (usesStdin : Bool) : IO Inputs := do
  let mut opened := []
  for path in paths do
    opened := (path, ← openSource path) :: opened
  let stdin ← if usesStdin then readSource (← IO.getStdin) else pure (.ofBytes [])
  return ⟨stdin, fun path => (opened.lookup path).getD (.error .notFound)⟩

def readForSearch (a : Arguments) : IO Inputs :=
  match a.patternsAndFiles? with
  | some (_, files) =>
      readInputs (a.config.toList ++ files) (files.isEmpty && !a.listTemplates)
  | none => readInputs a.config.toList false

def readForExpand (a : Arguments) : IO Inputs := readInputs a.config.toList false

def readFor (usage : Usage) (read : Arguments → IO Inputs) (configVariable : Option String)
    (args : List String) : IO Inputs :=
  match Arguments.read usage configVariable args with
  | .ok a => read a
  | .error _ => readInputs [] false

def deliver (out : Bytes) : IO Unit := do
  let stdout ← IO.getStdout
  stdout.write ⟨out.toArray⟩
  stdout.flush

def runProcess (program : Setting → Report) (s : Setting) : IO UInt32 := do
  let r := program s
  let r ← match ← attempt (deliver r.output) with
    | .ok () => pure r
    | .error f => pure (program { s with output := .broken f })
  (← IO.getStderr).putStr r.errorText
  return r.exitCode.toUInt32

end TemplateGrep

open TemplateGrep in
def main (args : List String) : IO UInt32 := do
  let configVariable ← IO.getEnv Help.configVariableName
  let logVariable ← IO.getEnv LogLevel.variableName
  if (← IO.appPath).toString.endsWith ("/" ++ Help.expandName) then
    let inputs ← readFor Usage.expand readForExpand configVariable args
    runProcess Expand.program { args, configVariable, logVariable, inputs }
  else
    let inputs ← readFor Usage.search readForSearch configVariable args
    runProcess Search.program { args, configVariable, logVariable, inputs }
