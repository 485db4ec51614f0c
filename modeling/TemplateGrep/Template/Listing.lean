import TemplateGrep.Template.Table

namespace TemplateGrep.Template.Listing

def nameWidth : Nat := 12

def padded (s : String) : String := s ++ String.ofList (List.replicate (nameWidth - s.length) ' ')

def header : String := "  " ++ padded "Template" ++ "  Regex"

def underline (line : String) : String :=
  String.ofList (line.toList.map fun c => if c = ' ' then ' ' else '=')

def entryLine (e : Entry) : String := "- " ++ padded e.1 ++ ": " ++ e.2

def lines (t : Table) : List String := header :: underline header :: t.entries.map entryLine

def render (t : Table) : String := String.join ((lines t).map (· ++ "\n"))

end TemplateGrep.Template.Listing
