import TemplateGrep.Unicode.CodeSet

/-!
Regexes in force: flags are gone, classes are sets, and an assertion says exactly what it looks at.
They are matched against bytes.
-/

namespace TemplateGrep

inductive WordLook
  | boundary
  | notBoundary
  | start
  | finish
  | startHalf
  | finishHalf
  deriving DecidableEq, Repr

inductive Look
  | textStart
  | textEnd
  | lineStart
  | lineEnd
  | crlfLineStart
  | crlfLineEnd
  | word (unicode : Bool) (kind : WordLook)
  deriving DecidableEq, Repr

inductive Regex
  | empty
  | literal (bytes : List UInt8)
  | byteClass (set : Unicode.CodeSet)
  | charClass (set : Unicode.CodeSet)
  | look (condition : Look)
  | concat (first second : Regex)
  | alternate (first second : Regex)
  | repetition (body : Regex) (min : Nat) (max : Option Nat)
  | capture (body : Regex)
  deriving DecidableEq, Repr

namespace Regex

def concats : List Regex → Regex
  | [] => .empty
  | [r] => r
  | r :: rest => .concat r (concats rest)

def alternates : List Regex → Regex
  | [] => .empty
  | [r] => r
  | r :: rest => .alternate r (alternates rest)

end Regex

end TemplateGrep
