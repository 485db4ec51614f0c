import TemplateGrep.Unicode.Property

namespace TemplateGrep.Unicode.CharClass

def named (name : String) : CodeSet := ((PropertyName.single name).find?).getD .empty

def digit : CodeSet := named "Nd"

def space : CodeSet := named "White_Space"

def word : CodeSet := .unions (["Alphabetic", "M", "Nd", "Pc", "Join_Control"].map named)

def asciiDigit : CodeSet := .range 0x30 0x39

def asciiSpace : CodeSet := ⟨[(0x09, 0x0D), (0x20, 0x20)]⟩

def asciiWord : CodeSet := ⟨[(0x30, 0x39), (0x41, 0x5A), (0x5F, 0x5F), (0x61, 0x7A)]⟩

def isAsciiWord (n : Nat) : Bool := asciiWord.mem n

def isWord (c : Char) : Bool :=
  if c.toNat < 128 then isAsciiWord c.toNat else word.hasChar c

def isSpace (c : Char) : Bool :=
  if c.toNat < 128 then asciiSpace.mem c.toNat else space.hasChar c

def alphabetic : CodeSet := named "Alphabetic"

def numeric : CodeSet := named "N"

def isAlphabetic (c : Char) : Bool :=
  if c.toNat < 128 then c.isAlpha else alphabetic.hasChar c

def isAlphanumeric (c : Char) : Bool :=
  if c.toNat < 128 then c.isAlphanum else alphabetic.hasChar c || numeric.hasChar c

end TemplateGrep.Unicode.CharClass
