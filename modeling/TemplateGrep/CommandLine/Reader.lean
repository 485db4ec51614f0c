import TemplateGrep.CommandLine.Arguments

/-!
Reading the command line. Options have a letter, a long name or both; letters may stand together, and
the value of an option may be attached to it or follow as the next argument. Behind `--` everything is
an operand.
-/

namespace TemplateGrep

inductive Switch
  | wordBoundary
  | ignoreCase
  | noTemplate
  | listTemplates
  deriving DecidableEq, Repr

inductive OptionKind
  | switch (s : Switch)
  | pattern
  | config
  | help
  | version
  deriving DecidableEq, Repr

def OptionKind.takesValue : OptionKind → Bool
  | .pattern | .config => true
  | _ => false

structure Usage where
  letter? : Char → Option OptionKind
  name? : String → Option OptionKind
  demand : Arguments → Except UsageError Unit

inductive Pending
  | nothing
  | pattern
  | config
  /-- A config path was given; it counts once something else follows. -/
  | path (p : String)
  deriving DecidableEq, Repr

structure Reading where
  arguments : Arguments := {}
  pending : Pending := .nothing
  deriving DecidableEq, Repr

namespace Reading

def setConfig (r : Reading) (path : String) : Except UsageError Reading :=
  if r.arguments.config.isSome then .error .repeated
  else if path = "" then .error .valueEmpty
  else .ok ⟨{ r.arguments with config := some path }, .nothing⟩

def settle (r : Reading) : Except UsageError Reading :=
  match r.pending with
  | .nothing => .ok r
  | .path p => r.setConfig p
  | .pattern | .config => .error .valueMissing

def addPattern (r : Reading) (pattern : String) : Reading :=
  ⟨{ r.arguments with patterns := r.arguments.patterns ++ [pattern] }, .nothing⟩

def addOperands (r : Reading) (operands : List String) : Reading :=
  { r with arguments := { r.arguments with operands := r.arguments.operands ++ operands } }

def isOn (r : Reading) : Switch → Bool
  | .wordBoundary => r.arguments.wordBoundary
  | .ignoreCase => r.arguments.ignoreCase
  | .noTemplate => r.arguments.noTemplate
  | .listTemplates => r.arguments.listTemplates

def turnOn (a : Arguments) : Switch → Arguments
  | .wordBoundary => { a with wordBoundary := true }
  | .ignoreCase => { a with ignoreCase := true }
  | .noTemplate => { a with noTemplate := true }
  | .listTemplates => { a with listTemplates := true }

def take (r : Reading) (kind : OptionKind) (value : Option String) : Except UsageError Reading :=
  if value.isSome && !kind.takesValue then .error .valueUnexpected
  else do
    let r ← r.settle
    match kind, value with
    | .switch s, _ =>
        if r.isOn s then throw .repeated else return { r with arguments := turnOn r.arguments s }
    | .pattern, some v => return r.addPattern v
    | .pattern, none => return { r with pending := .pattern }
    | .config, some v => r.setConfig v
    | .config, none => return { r with pending := .config }
    | .help, _ => throw .help
    | .version, _ => throw .version

def attached : List Char → Option String
  | [] => none
  | '=' :: rest => some (String.ofList rest)
  | rest => some (String.ofList rest)

def takeLetters (u : Usage) (r : Reading) : List Char → Except UsageError Reading
  | [] => .ok r
  | c :: rest =>
      match u.letter? c with
      | none => .error (.unknown (String.ofList ['-', c]))
      | some kind =>
          if kind.takesValue then r.take kind (attached rest)
          else do takeLetters u (← r.take kind none) rest

def splitName (cs : List Char) : String × Option String :=
  (String.ofList (cs.takeWhile (· != '=')),
    match cs.dropWhile (· != '=') with
    | [] => none
    | _ :: value => some (String.ofList value))

def takeName (u : Usage) (r : Reading) (cs : List Char) : Except UsageError Reading :=
  let (name, value) := splitName cs
  match u.name? name with
  | none => .error (.unknown (String.ofList ('-' :: '-' :: cs)))
  | some kind => r.take kind value

def takeOther (r : Reading) (arg : String) : Except UsageError Reading :=
  if r.pending = .config then .ok { r with pending := .path arg }
  else do return (← r.settle).addOperands [arg]

/-- Takes up one argument other than `--`. The value of a pattern option may look like anything. -/
def takeArgument (u : Usage) (r : Reading) (arg : String) : Except UsageError Reading :=
  if r.pending = .pattern then .ok (r.addPattern arg)
  else match arg.toList with
    | '-' :: '-' :: cs => r.takeName u cs
    | '-' :: c :: cs => r.takeLetters u (c :: cs)
    | _ => r.takeOther arg

def readAll (u : Usage) (r : Reading) : List String → Except UsageError Reading
  | [] => r.settle
  | arg :: rest =>
      if arg = "--" ∧ r.pending ≠ .pattern then do return (← r.settle).addOperands rest
      else do readAll u (← r.takeArgument u arg) rest

end Reading

namespace Arguments

def withInherited (a : Arguments) : Option String → Except UsageError Arguments
  | none => .ok a
  | some path =>
      if a.config.isSome then .ok a
      else if path = "" then .error .valueEmpty
      else .ok { a with config := some path }

def read (u : Usage) (inherited : Option String) (args : List String) :
    Except UsageError Arguments := do
  let r ← Reading.readAll u {} args
  let a ← r.arguments.withInherited inherited
  u.demand a
  return a

end Arguments

namespace Usage

def search : Usage where
  letter?
    | 'w' => some (.switch .wordBoundary)
    | 'i' => some (.switch .ignoreCase)
    | 'E' => some (.switch .noTemplate)
    | 'e' => some .pattern
    | 'c' => some .config
    | 'h' => some .help
    | 'V' => some .version
    | _ => none
  name?
    | "word-boundary" => some (.switch .wordBoundary)
    | "ignore-case" => some (.switch .ignoreCase)
    | "no-template" => some (.switch .noTemplate)
    | "list-templates" => some (.switch .listTemplates)
    | "regexp" => some .pattern
    | "config" => some .config
    | "help" => some .help
    | "version" => some .version
    | _ => none
  demand a := if a = {} then .error .nothingGiven else .ok ()

def expand : Usage where
  letter?
    | 'c' => some .config
    | 'h' => some .help
    | 'V' => some .version
    | _ => none
  name?
    | "config" => some .config
    | "help" => some .help
    | "version" => some .version
    | _ => none
  demand a := if a.operands.isEmpty then .error .patternMissing else .ok ()

end Usage

end TemplateGrep
