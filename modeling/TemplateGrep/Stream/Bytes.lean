namespace TemplateGrep

abbrev Bytes := List UInt8

namespace Bytes

def ofString (s : String) : Bytes := s.toByteArray.data.toList

def toString? (bs : Bytes) : Option String := String.fromUTF8? ⟨bs.toArray⟩

def newline : UInt8 := 0x0A

def carriageReturn : UInt8 := 0x0D

end Bytes

end TemplateGrep
