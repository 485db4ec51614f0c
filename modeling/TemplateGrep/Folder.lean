import TemplateGrep.Config.Load

/-!
A folder of named files, and what opening a path in it gives. Nothing is known about the folders
around it but that they are there.
-/

namespace TemplateGrep

abbrev Route := List String

structure Folder where
  files : List (Route × Bytes) := []
  folders : List Route := []

namespace Folder

inductive Found
  | file (content : Bytes)
  | folder

def isFolder (d : Folder) (r : Route) : Bool :=
  (d.folders ++ d.files.map fun f => f.1.dropLast).any fun r' => r.isPrefixOf r'

def partBytes : Nat := 255

def pathBytes : Nat := 4096

def follow (d : Folder) : Option Route → List String → Except Fault Found
  | _, [] => .ok .folder
  | place, part :: rest =>
      if part = "" ∨ part = "." then d.follow place rest
      else if part = ".." then
        d.follow (place.bind fun r => if r.isEmpty then none else some r.dropLast) rest
      else if partBytes < part.utf8ByteSize then .error .nameTooLong
      else match place with
        | none => .error .notFound
        | some r =>
            let r := r ++ [part]
            match d.files.lookup r with
            | some content => if rest.isEmpty then .ok (.file content) else .error .notDirectory
            | none => if d.isFolder r then d.follow (some r) rest else .error .notFound

def cut : List Char → List Char × List (List Char)
  | [] => ([], [])
  | c :: rest =>
      let (part, more) := cut rest
      if c = '/' then ([], part :: more) else (c :: part, more)

def parts (path : String) : List String :=
  let (part, more) := cut path.toList
  (part :: more).map String.ofList

def find (d : Folder) (path : String) : Except Fault Found :=
  if path.toList.contains '\x00' then .error .nulInName
  else if path = "" then .error .notFound
  else if pathBytes ≤ path.utf8ByteSize then .error .nameTooLong
  else match parts path with
    | "" :: rest => d.follow none rest
    | ps => d.follow (some []) ps

/-- A folder can be opened, and then fails to be read. -/
def openFile (d : Folder) : OpenFile := fun path =>
  match d.find path with
  | .ok (.file content) => .ok (.ofBytes content)
  | .ok .folder => .ok (.failing .isDirectory)
  | .error f => .error f

end Folder

end TemplateGrep
