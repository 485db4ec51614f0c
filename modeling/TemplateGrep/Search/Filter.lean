import TemplateGrep.Search.Matcher
import TemplateGrep.Stream.Sink
import TemplateGrep.Stream.Source

namespace TemplateGrep

def stdinName : String := "<stdin>"

def stdoutName : String := "<stdout>"

def trimEnding (line : Bytes) : Bytes :=
  dropEnd Bytes.carriageReturn (dropEnd Bytes.newline line)
where
  dropEnd (b : UInt8) (bs : Bytes) : Bytes :=
    if bs.getLast? = some b then bs.dropLast else bs

def Sink.writeLine (s : Sink) (line : Bytes) : Sink × Option Fault :=
  match s.write line with
  | (s, some f) => (s, some f)
  | (s, none) => s.write [Bytes.newline]

namespace Matcher

def copyLines (m : Matcher) (written : Nat) : List Bytes → Sink → Sink × Except Fault Nat
  | [], sink => (sink, .ok written)
  | line :: rest, sink =>
      if m.isMatch (trimEnding line) then
        match sink.writeLine (trimEnding line) with
        | (sink, some f) => (sink, .error f)
        | (sink, none) => m.copyLines (written + 1) rest sink
      else m.copyLines written rest sink

/-- Copies the matching lines of a source. Lines in front of a failing read are copied first. -/
def filter (m : Matcher) (name : String) (source : Source) (sink : Sink) :
    Sink × Except Failure Nat :=
  match m.copyLines 0 source.lines sink with
  | (sink, .error f) => (sink, .error (.io stdoutName f))
  | (sink, .ok written) =>
      match source.fault with
      | some f => (sink, .error (.io name f))
      | none => (sink, .ok written)

end Matcher

end TemplateGrep
