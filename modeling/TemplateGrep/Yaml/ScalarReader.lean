import TemplateGrep.Yaml.Character

/-!
Reading scalars. A reader starts behind the mark that opens the scalar and returns the text, the place
where it stopped, and what follows there. A scalar may go over several lines: one break is a blank, and
of several breaks all but the first stay.
-/

namespace TemplateGrep.Yaml

structure Gap where
  -- last character first
  blanks : List Char := []
  broken : Bool := false
  first : Option Char := none
  more : List Char := []

namespace Gap

def addBlank (g : Gap) (c : Char) : Gap := if g.broken then g else { g with blanks := c :: g.blanks }

def addBreak (g : Gap) (c : Char) : Gap :=
  if g.broken then { g with more := c :: g.more } else { broken := true, first := some c }

def fold (g : Gap) : List Char :=
  if !g.broken then g.blanks
  else if g.first = some '\n' then (if g.more.isEmpty then [' '] else g.more)
  else g.more ++ g.first.toList

def isEmpty (g : Gap) : Bool := g.blanks.isEmpty && !g.broken

end Gap

structure ScalarEnd where
  text : List Char
  position : Position
  rest : List Char
  atLineStart : Bool := false

def flowMarks : List Char := [',', '[', ']', '{', '}']

def endsPlain (flow : Bool) : List Char → Bool
  | ':' :: rest => blankAhead rest
  | c :: _ => flow && flowMarks.contains c
  | [] => true

def isStrayColon (flow : Bool) : List Char → Bool
  | ':' :: c :: _ => flow && ('?' :: flowMarks).contains c
  | _ => false

/-- Reads a plain scalar whose further lines have to start at column `indent`. Text read so far is held
last character first. -/
def readPlain (flow : Bool) (indent : Nat) (p : Position) (g : Gap) (text : List Char) :
    List Char → Option ScalarEnd
  | [] => some ⟨text.reverse, p, [], g.broken⟩
  | c :: rest =>
      if isBlank c then
        if g.broken && p.column < indent && c == '\t' then none
        else readPlain flow indent p.next (g.addBlank c) text rest
      else if isBreak c then readPlain flow indent p.nextLine (g.addBreak c) text rest
      else
        let done := ScalarEnd.mk text.reverse p (c :: rest) g.broken
        if !g.isEmpty && ((!flow && p.column < indent) || c == '#' ||
            (p.column == 0 && isDocumentMark (c :: rest))) then some done
        else if isStrayColon flow (c :: rest) then none
        else if endsPlain flow (c :: rest) then some done
        else readPlain flow indent p.next {} (c :: g.fold ++ text) rest

def readSingleQuoted (p : Position) (g : Gap) (text : List Char) : List Char → Option ScalarEnd
  | [] => none
  | c :: rest =>
      if isBlank c then readSingleQuoted p.next (g.addBlank c) text rest
      else if isBreak c then readSingleQuoted p.nextLine (g.addBreak c) text rest
      else if p.column == 0 && isDocumentMark (c :: rest) then none
      else if c = '\'' then
        match rest with
        | '\'' :: rest => readSingleQuoted p.next.next {} ('\'' :: g.fold ++ text) rest
        | rest => some ⟨(g.fold ++ text).reverse, p.next, rest, false⟩
      else readSingleQuoted p.next {} (c :: g.fold ++ text) rest

def simpleEscape? (c : Char) : Option Char :=
  match c with
  | '0' => some '\x00'
  | 'a' => some '\x07'
  | 'b' => some '\x08'
  | 't' | '\t' => some '\t'
  | 'n' => some '\n'
  | 'v' => some '\x0b'
  | 'f' => some '\x0c'
  | 'r' => some '\r'
  | 'e' => some '\x1b'
  | ' ' => some ' '
  | '"' => some '"'
  | '/' => some '/'
  | '\\' => some '\\'
  | 'N' => some '\u0085'
  | '_' => some '\u00a0'
  | 'L' => some '\u2028'
  | 'P' => some '\u2029'
  | _ => none

def hexDigit? (c : Char) : Option Nat :=
  if c.isDigit then some (c.toNat - '0'.toNat)
  else if 'a' ≤ c ∧ c ≤ 'f' then some (c.toNat - 'a'.toNat + 10)
  else if 'A' ≤ c ∧ c ≤ 'F' then some (c.toNat - 'A'.toNat + 10)
  else none

def hexEscape? (digits : List Char) : Option Char := do
  let n ← digits.foldlM (fun n c => (hexDigit? c).map (n * 16 + ·)) 0
  if n.isValidChar then some (Char.ofNat n) else none

def hexWidth? (c : Char) : Option Nat :=
  match c with
  | 'x' => some 2
  | 'u' => some 4
  | 'U' => some 8
  | _ => none

def readDoubleQuoted (p : Position) (g : Gap) (digits : Option (Nat × List Char))
    (text : List Char) : List Char → Option ScalarEnd
  | [] => none
  | c :: rest =>
      match digits with
      | some (n, ds) =>
          if n ≤ 1 then
            match hexEscape? (c :: ds).reverse with
            | some e => readDoubleQuoted p.next {} none (e :: text) rest
            | none => none
          else readDoubleQuoted p.next {} (some (n - 1, c :: ds)) text rest
      | none =>
          if isBlank c then readDoubleQuoted p.next (g.addBlank c) none text rest
          else if isBreak c then readDoubleQuoted p.nextLine (g.addBreak c) none text rest
          else if p.column == 0 && isDocumentMark (c :: rest) then none
          else if c = '"' then some ⟨(g.fold ++ text).reverse, p.next, rest, false⟩
          else if c = '\\' then
            match rest with
            | [] => none
            | e :: rest =>
                if isBreak e then
                  readDoubleQuoted p.next.nextLine { broken := true } none (g.fold ++ text) rest
                else match simpleEscape? e, hexWidth? e with
                  | some d, _ => readDoubleQuoted p.next.next {} none (d :: g.fold ++ text) rest
                  | none, some n =>
                      readDoubleQuoted p.next.next {} (some (n, [])) (g.fold ++ text) rest
                  | none, none => none
          else readDoubleQuoted p.next {} none (c :: g.fold ++ text) rest

inductive Chomping
  | clip
  | strip
  | keep
  deriving DecidableEq, Repr

def chomping? (c : Char) : Option Chomping :=
  match c with
  | '-' => some .strip
  | '+' => some .keep
  | _ => none

structure BlockHeader where
  chomping : Chomping
  increment : Option Nat

def readHints (cs : List Char) : Option (BlockHeader × Nat × List Char) :=
  match cs with
  | [] => some (⟨.clip, none⟩, 0, [])
  | c :: rest =>
      match chomping? c with
      | some chomp =>
          match rest with
          | d :: rest' =>
              if d = '0' then none
              else if d.isDigit then some (⟨chomp, some (d.toNat - '0'.toNat)⟩, 2, rest')
              else some (⟨chomp, none⟩, 1, rest)
          | [] => some (⟨chomp, none⟩, 1, [])
      | none =>
          if c = '0' then none
          else if c.isDigit then
            let n := some (c.toNat - '0'.toNat)
            match rest with
            | d :: rest' =>
                match chomping? d with
                | some chomp => some (⟨chomp, n⟩, 2, rest')
                | none => some (⟨.clip, n⟩, 1, rest)
            | [] => some (⟨.clip, n⟩, 1, [])
          else some (⟨.clip, none⟩, 0, c :: rest)

def readLeadingBreaks (p : Position) (widest : Nat) (breaks : List Char) :
    List Char → Option (Nat × List Char × Position × List Char)
  | [] => some (max widest p.column, breaks, p, [])
  | c :: rest =>
      if c = ' ' then readLeadingBreaks p.next widest breaks rest
      else if c = '\t' then none
      else if isBreak c then
        readLeadingBreaks p.nextLine (max widest p.column) (c :: breaks) rest
      else some (max widest p.column, breaks, p, c :: rest)

/-- What has been read of a block scalar: the text, the break behind its last line and the breaks
behind that, each last first, and whether the last line began with a blank. -/
structure BlockText where
  text : List Char := []
  lineBreak : List Char := []
  breaks : List Char := []
  blankLine : Bool := false

namespace BlockText

def startLine (literal : Bool) (b : BlockText) (c : Char) : BlockText :=
  let joined :=
    if !literal && b.lineBreak == ['\n'] && !b.blankLine && !isBlank c then
      (if b.breaks.isEmpty then [' '] else b.breaks)
    else b.breaks ++ b.lineBreak
  { text := c :: joined ++ b.text, blankLine := isBlank c }

def finish (b : BlockText) : Chomping → List Char
  | .strip => b.text.reverse
  | .clip => (b.lineBreak ++ b.text).reverse
  | .keep => (b.breaks ++ b.lineBreak ++ b.text).reverse

end BlockText

def readBlockLines (literal : Bool) (chomp : Chomping) (indent : Nat) (inLine : Bool)
    (p : Position) (b : BlockText) : List Char → Option ScalarEnd
  | [] => some ⟨b.finish chomp, p, [], false⟩
  | c :: rest =>
      if inLine then
        if isBreak c then
          readBlockLines literal chomp indent false p.nextLine { b with lineBreak := [c] } rest
        else readBlockLines literal chomp indent true p.next { b with text := c :: b.text } rest
      else if p.column < indent && c == ' ' then
        readBlockLines literal chomp indent false p.next b rest
      else if p.column < indent && c == '\t' then none
      else if isBreak c then
        readBlockLines literal chomp indent false p.nextLine { b with breaks := c :: b.breaks } rest
      else if p.column < indent then some ⟨b.finish chomp, p, c :: rest, false⟩
      else readBlockLines literal chomp indent true p.next (b.startLine literal c) rest

/-- Reads a block scalar behind `|` or `>`. The collection around it is indented by `outer`, or not
at all. Without a hint the text starts at the column of its first line, and right of the collection. -/
def readBlock (literal : Bool) (outer : Option Nat) (p : Position) (cs : List Char) :
    Option ScalarEnd := do
  let (header, width, rest) ← readHints cs
  let p := p.afterAll (cs.take width)
  let blanks := rest.takeWhile isBlank
  let p := p.afterAll blanks
  let rest := rest.dropWhile isBlank
  let comment := match rest with
    | '#' :: _ => rest.takeWhile (!isBreak ·)
    | _ => []
  let p := p.afterAll comment
  match rest.drop comment.length with
  | [] => readLines header p []
  | c :: rest => if isBreak c then readLines header p.nextLine rest else none
where
  readLines (header : BlockHeader) (p : Position) (rest : List Char) : Option ScalarEnd :=
    match header.increment with
    | some n => readBlockLines literal header.chomping (outer.getD 0 + n) false p {} rest
    | none => do
        let (widest, breaks, p, rest) ← readLeadingBreaks p 0 [] rest
        let indent := max widest (match outer with | some n => n + 1 | none => 1)
        readBlockLines literal header.chomping indent false p { breaks } rest

end TemplateGrep.Yaml
