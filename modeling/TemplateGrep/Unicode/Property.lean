import TemplateGrep.Unicode.Age
import TemplateGrep.Unicode.BinaryProperty
import TemplateGrep.Unicode.GeneralCategory
import TemplateGrep.Unicode.ScriptExtension
import TemplateGrep.Unicode.Segmentation

/-!
Sets of code points by the names of Unicode properties. Names are compared in a loose form, without
case, blanks, `_`, `-` and a leading `is`.
-/

namespace TemplateGrep.Unicode

inductive PropertyName
  | single (name : String)
  | value (name which : String)
  deriving DecidableEq, Repr

namespace PropertyName

def isFiller (c : Char) : Bool := c == ' ' || c == '_' || c == '-'

def plain (cs : List Char) : List Char :=
  (cs.filter fun c => !isFiller c && decide (c.toNat < 128)).map Char.toLower

def loose (name : String) : String :=
  match name.toList with
  | c :: d :: rest =>
      if plain [c, d] = ['i', 's'] then
        if plain rest = ['c'] then "isc" else String.ofList (plain rest)
      else String.ofList (plain (c :: d :: rest))
  | cs => String.ofList (plain cs)

/-- A name that is short both for a general category and for a property means the category. -/
def isCategoryFirst (name : String) : Bool := ["cf", "sc", "lc"].contains name

def findSingle? (name : String) : Option CodeSet :=
  let binary := if isCategoryFirst name then none else BinaryProperty.find? name
  (binary <|> GeneralCategory.find? name) <|> Script.find? name

def findValue? (name which : String) : Option CodeSet :=
  match name with
  | "gc" | "generalcategory" => GeneralCategory.find? which
  | "sc" | "script" => Script.find? which
  | "scx" | "scriptextensions" => ScriptExtension.find? which
  | "age" => Age.find? which
  | "gcb" | "graphemeclusterbreak" => Segmentation.find? Segmentation.grapheme which
  | "wb" | "wordbreak" => Segmentation.find? Segmentation.word which
  | "sb" | "sentencebreak" => Segmentation.find? Segmentation.sentence which
  | _ => none

def find? : PropertyName → Option CodeSet
  | .single name => findSingle? (loose name)
  | .value name which => findValue? (loose name) (loose which)

end PropertyName

end TemplateGrep.Unicode
