import TemplateGrep.Stream.Bytes
import TemplateGrep.Stream.Fault

/-!
Byte sinks. A sink passes bytes on to a device, which may fail, and may hold some back until it is
flushed.
-/

namespace TemplateGrep

structure Sink where
  taken : Bytes := []
  held : Bytes := []
  capacity : Nat := 0
  room : Option Nat := none
  fault : Fault := Fault.noSpace
  flushFault : Option Fault := none
  deriving DecidableEq, Repr

namespace Sink

def deliver (s : Sink) (bs : Bytes) : Sink × Option Fault :=
  match s.room with
  | none => ({ s with taken := s.taken ++ bs }, none)
  | some n =>
      if bs.length ≤ n then
        ({ s with taken := s.taken ++ bs, room := some (n - bs.length) }, none)
      else ({ s with taken := s.taken ++ bs.take n, room := some 0 }, some s.fault)

def empty (s : Sink) : Sink × Option Fault := ({ s with held := [] }).deliver s.held

/-- Holds bytes that fit, behind those that wait; passes on bytes that never fit. -/
def place (s : Sink) (bs : Bytes) : Sink × Option Fault :=
  if s.capacity ≤ bs.length then s.deliver bs else ({ s with held := s.held ++ bs }, none)

def write (s : Sink) (bs : Bytes) : Sink × Option Fault :=
  if s.held.length + bs.length ≤ s.capacity then s.place bs
  else match s.empty with
    | (s, some f) => (s, some f)
    | (s, none) => s.place bs

def flush (s : Sink) : Sink × Option Fault :=
  match s.empty with
  | (s, some f) => (s, some f)
  | (s, none) => (s, s.flushFault)

def close (s : Sink) : Bytes := s.empty.1.taken

end Sink

end TemplateGrep
