import TemplateGrep.Stream.Bytes
import TemplateGrep.Stream.Fault

namespace TemplateGrep

structure Source where
  chunks : List Bytes
  fault : Option Fault := none
  deriving DecidableEq, Repr

namespace Source

def ofBytes (bs : Bytes) : Source := ⟨[bs], none⟩

def contents (s : Source) : Except Fault Bytes :=
  match s.fault with
  | some f => .error f
  | none => .ok s.chunks.flatten

def failing (f : Fault) : Source := ⟨[], some f⟩

/-- The lines that end in `chunk` after the bytes `carry`, and the bytes behind the last end of a
line. The carry is held last byte first. -/
def cut (carry : Bytes) : Bytes → List Bytes × Bytes
  | [] => ([], carry)
  | b :: rest =>
      if b = Bytes.newline then
        let p := cut [] rest
        ((b :: carry).reverse :: p.1, p.2)
      else cut (b :: carry) rest

/-- The lines of the chunks, each with its end, after the bytes `carry`. What stands behind the last
end of a line is a line of its own if the source ends, and is lost if it fails. -/
def linesFrom (fault : Option Fault) (carry : Bytes) : List Bytes → List Bytes
  | [] => if fault.isNone && !carry.isEmpty then [carry.reverse] else []
  | chunk :: rest => (cut carry chunk).1 ++ linesFrom fault (cut carry chunk).2 rest

def lines (s : Source) : List Bytes := linesFrom s.fault [] s.chunks

def pieces (n room : Nat) (piece : Bytes) : Bytes → List Bytes
  | [] => if piece.isEmpty then [] else [piece.reverse]
  | b :: rest =>
      match room with
      | 0 => piece.reverse :: pieces n n [b] rest
      | k + 1 => pieces n k (b :: piece) rest

def chunked (n : Nat) (bs : Bytes) : List Bytes :=
  match n with
  | 0 => if bs.isEmpty then [] else [bs]
  | n + 1 => pieces n (n + 1) [] bs

end Source

end TemplateGrep
