import TemplateGrep.Unicode.GeneralCategory
import TemplateGrep.Unicode.BinaryProperty

namespace TemplateGrep.Text.Quoted

open Unicode

def unprintable : CodeSet :=
  (CodeSet.unions (["cc", "cf", "co", "zl", "zp", "zs", "cn"].filterMap
    GeneralCategory.find?)).difference (.singleton 0x20)

def joining : CodeSet := (BinaryProperty.find? "graphemeextend").getD .empty

def isPlain (c : Char) : Bool :=
  if c.toNat < 0x80 then 0x20 ≤ c.toNat && c.toNat < 0x7F
  else !(unprintable.hasChar c) && !(joining.hasChar c)

def hex (n : Nat) : List Char := Nat.toDigits 16 n

def escape (c : Char) : List Char :=
  match c with
  | '\x00' => ['\\', '0']
  | '\t' => ['\\', 't']
  | '\n' => ['\\', 'n']
  | '\r' => ['\\', 'r']
  | '"' => ['\\', '"']
  | '\\' => ['\\', '\\']
  | c => if isPlain c then [c] else ['\\', 'u', '{'] ++ hex c.toNat ++ ['}']

def encode (s : String) : String :=
  String.ofList (['"'] ++ s.toList.flatMap escape ++ ['"'])

def encodeList (ss : List String) : String :=
  "[" ++ String.intercalate ", " (ss.map encode) ++ "]"

end TemplateGrep.Text.Quoted
