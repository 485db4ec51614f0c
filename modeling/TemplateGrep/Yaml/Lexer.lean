import TemplateGrep.Yaml.ScalarReader
import TemplateGrep.Yaml.Token

/-!
From characters to tokens. A scalar or a collection turns out to be a key only when a colon follows
it, so the lexer remembers where a key may have started and puts the key's token there later. The
indentation of block collections opens and closes them.
-/

namespace TemplateGrep.Yaml

structure KeyCandidate where
  tokenCount : Nat
  position : Position
  required : Bool

structure LexerState where
  position : Position := {}
  -- last token first, innermost collection first
  tokens : List Token := []
  indents : List Nat := []
  keyAllowed : Bool := true
  candidate : Option KeyCandidate := none
  outerCandidates : List (Option KeyCandidate) := []

namespace LexerState

def inFlow (s : LexerState) : Bool := !s.outerCandidates.isEmpty

def emit (s : LexerState) (t : Token) : LexerState := { s with tokens := t :: s.tokens }

def insertAt (s : LexerState) (tokenCount : Nat) (new : List Token) : LexerState :=
  let later := s.tokens.length - tokenCount
  { s with tokens := s.tokens.take later ++ new.reverse ++ s.tokens.drop later }

def isDeeper (s : LexerState) (column : Nat) : Bool :=
  !s.inFlow && (match s.indents with
    | [] => true
    | n :: _ => decide (n < column))

def open? (s : LexerState) (t : Token) : LexerState :=
  if s.isDeeper s.position.column then
    { s.emit t with indents := s.position.column :: s.indents }
  else s

def closeBlocks (column : Option Nat) : List Nat → List Token → List Nat × List Token
  | [], tokens => ([], tokens)
  | n :: outer, tokens =>
      if column.any (n ≤ ·) then (n :: outer, tokens)
      else closeBlocks column outer (.blockEnd :: tokens)

def unindent (s : LexerState) (column : Option Nat) : LexerState :=
  if s.inFlow then s
  else
    let (indents, tokens) := closeBlocks column s.indents s.tokens
    { s with indents, tokens }

def dropCandidate (s : LexerState) : Option LexerState :=
  if s.candidate.any (·.required) then none else some { s with candidate := none }

def saveCandidate (s : LexerState) : Option LexerState :=
  if s.keyAllowed then do
    let s ← s.dropCandidate
    let required := !s.inFlow && s.indents.head? == some s.position.column
    return { s with candidate := some ⟨s.tokens.length, s.position, required⟩ }
  else some s

def keyLength : Nat := 1024

def isStale (p : Position) (k : KeyCandidate) : Bool :=
  decide (k.position.line < p.line) || decide (k.position.index + keyLength < p.index)

def forgetStale (s : LexerState) : Option LexerState :=
  let stale (k : Option KeyCandidate) := k.any (isStale s.position)
  if (s.candidate :: s.outerCandidates).any fun k => stale k && k.any (·.required) then none
  else
    let keep (k : Option KeyCandidate) := if stale k then none else k
    some { s with candidate := keep s.candidate, outerCandidates := s.outerCandidates.map keep }

/-! ### Between tokens -/

/-- Skips blanks, comments and breaks. Where a key may start in a block, a tab is no blank. -/
def skipSpace (s : LexerState) (inComment : Bool) : List Char → LexerState × List Char
  | [] => (s, [])
  | c :: rest =>
      let next := { s with position := s.position.next }
      if isBreak c then
        skipSpace { s with position := s.position.nextLine, keyAllowed := s.keyAllowed || !s.inFlow }
          false rest
      else if inComment then skipSpace next true rest
      else if c == byteOrderMark && s.position.column == 0 then skipSpace next false rest
      else if c == ' ' then skipSpace next false rest
      else if c == '\t' && (s.inFlow || !s.keyAllowed) then skipSpace next false rest
      else if c == '#' then skipSpace next true rest
      else (s, c :: rest)

/-! ### Directives, anchors and tags -/

def readNumber (cs : List Char) : Option (Nat × List Char) :=
  let digits := cs.takeWhile Char.isDigit
  if digits.isEmpty || 9 < digits.length then none
  else some (digits.foldl (fun n d => n * 10 + (d.toNat - '0'.toNat)) 0, cs.dropWhile Char.isDigit)

def readVersion (cs : List Char) : Option (Token × List Char) := do
  let (major, rest) ← readNumber (cs.dropWhile isBlank)
  match rest with
  | '.' :: rest =>
      let (minor, rest) ← readNumber rest
      return (.version major minor, rest)
  | _ => none

def uriMarks : List Char :=
  [';', '/', '?', ':', '@', '&', '=', '+', '$', '.', '!', '~', '*', '\'', '(', ')']

def uriBrackets : List Char := [',', '[', ']']

def encodedWidth? (b : Nat) : Option Nat :=
  if b < 0x80 then some 1
  else if b / 0x20 = 0x06 then some 2
  else if b / 0x10 = 0x0E then some 3
  else if b / 0x08 = 0x1E then some 4
  else none

def readUri (verbatim : Bool) (pending : Nat) : List Char → Option (Bytes × List Char)
  | '%' :: a :: b :: rest => do
      let n := (← hexDigit? a) * 16 + (← hexDigit? b)
      let pending ← match pending with
        | 0 => (encodedWidth? n).map (· - 1)
        | k + 1 => if n / 0x40 = 2 then some k else none
      let (bs, rest) ← readUri verbatim pending rest
      return (n.toUInt8 :: bs, rest)
  | c :: rest =>
      if isWordChar c || uriMarks.contains c || (verbatim && uriBrackets.contains c) then
        if pending = 0 then do
          let (bs, rest) ← readUri verbatim 0 rest
          return (c.toNat.toUInt8 :: bs, rest)
        else none
      else if pending = 0 && c != '%' then some ([], c :: rest) else none
  | [] => if pending = 0 then some ([], []) else none

def untilNul (bs : Bytes) : Bytes := bs.takeWhile (· != 0)

def readTagHandle (cs : List Char) : Option (List Char × List Char) :=
  match cs with
  | '!' :: rest =>
      let word := rest.takeWhile isWordChar
      match rest.dropWhile isWordChar with
      | '!' :: rest => some ('!' :: word ++ ['!'], rest)
      | rest => some ('!' :: word, rest)
  | _ => none

def readHandleDirective (cs : List Char) : Option (Token × List Char) := do
  let (handle, rest) ← readTagHandle (cs.dropWhile isBlank)
  if handle != ['!'] && handle.getLast? != some '!' then none
  match rest with
  | c :: _ => if !isBlank c then none
  | [] => none
  let (stands, rest) ← readUri true 0 (rest.dropWhile isBlank)
  if stands.isEmpty || !blankAhead rest then none
  return (.tagHandle (String.ofList handle) (untilNul stands), rest)

def readDirective (cs : List Char) : Option (Token × List Char) := do
  let name := cs.takeWhile isWordChar
  let behind := cs.dropWhile isWordChar
  if !blankAhead behind then none
  let (token, rest) ← match String.ofList name with
    | "YAML" => readVersion behind
    | "TAG" => readHandleDirective behind
    | _ => none
  match rest.dropWhile isBlank with
  | '#' :: rest => return (token, rest.dropWhile (!isBreak ·))
  | c :: rest => if isBreak c then return (token, c :: rest) else none
  | [] => return (token, [])

def anchorEnds : List Char := ['?', ':', ',', ']', '}', '%', '@', '\x60']

def readAnchor (cs : List Char) : Option (String × List Char) :=
  let name := cs.takeWhile isWordChar
  let rest := cs.dropWhile isWordChar
  if name.isEmpty then none
  else if blankAhead rest || rest.head?.any anchorEnds.contains then
    some (String.ofList name, rest)
  else none

def readTagParts (cs : List Char) : Option ((String × Bytes) × List Char) :=
  match cs with
  | '!' :: '<' :: rest => do
      let (suffix, rest) ← readUri true 0 rest
      match rest with
      | '>' :: rest => if suffix.isEmpty then none else return (("", untilNul suffix), rest)
      | _ => none
  | cs => do
      let (handle, rest) ← readTagHandle cs
      let (suffix, rest) ← readUri false 0 rest
      if 1 < handle.length && handle.getLast? == some '!' then
        if suffix.isEmpty then none else return ((String.ofList handle, untilNul suffix), rest)
      else
        let suffix := untilNul (handle.tail.map (·.toNat.toUInt8) ++ suffix)
        return (if suffix.isEmpty then ("", Bytes.ofString "!") else ("!", suffix), rest)

def readTag (flow : Bool) (cs : List Char) : Option (Token × List Char) := do
  let ((handle, suffix), rest) ← readTagParts cs
  if blankAhead rest || (flow && rest.head? == some ',') then
    return (.tag handle suffix, rest)
  else none

/-! ### Tokens -/

def advance (s : LexerState) (cs rest : List Char) : LexerState :=
  { s with position := s.position.afterAll (cs.take (cs.length - rest.length)) }

def mark (s : LexerState) (t : Token) : LexerState :=
  { s with position := s.position.next }.emit t

def endContent (s : LexerState) : Option LexerState := do
  let s ← (s.unindent none).dropCandidate
  return { s with keyAllowed := false }

def openFlow (s : LexerState) (t : Token) : Option LexerState := do
  let s ← s.saveCandidate
  let s := { s with candidate := none, outerCandidates := s.candidate :: s.outerCandidates,
                    keyAllowed := true }
  return s.mark t

def closeFlow (s : LexerState) (t : Token) : Option LexerState := do
  let s ← s.dropCandidate
  let s := match s.outerCandidates with
    | k :: outer => { s with candidate := k, outerCandidates := outer, keyAllowed := false }
    | [] => { s with keyAllowed := false }
  return s.mark t

def flowEntry (s : LexerState) : Option LexerState := do
  let s ← s.dropCandidate
  return { s with keyAllowed := true }.mark .flowEntry

def blockEntry (s : LexerState) : Option LexerState := do
  if !s.inFlow && !s.keyAllowed then none
  let s ← (s.open? .blockSequenceStart).dropCandidate
  return { s with keyAllowed := true }.mark .blockEntry

def keyMark (s : LexerState) : Option LexerState := do
  if !s.inFlow && !s.keyAllowed then none
  let s ← (s.open? .blockMappingStart).dropCandidate
  return { s with keyAllowed := !s.inFlow }.mark .key

/-- A colon. It makes a key of the candidate, or else stands behind a key with a mark. -/
def valueMark (s : LexerState) : Option LexerState :=
  match s.candidate with
  | some k =>
      let opens := s.isDeeper k.position.column
      let s := s.insertAt k.tokenCount
        (if opens then [Token.blockMappingStart, .key] else [.key])
      let indents := if opens then k.position.column :: s.indents else s.indents
      some ({ s with indents, candidate := none, keyAllowed := false }.mark .value)
  | none =>
      if !s.inFlow && !s.keyAllowed then none
      else
        let s := s.open? .blockMappingStart
        some ({ s with keyAllowed := !s.inFlow }.mark .value)

def content (s : LexerState) (cs : List Char) (read : Option (Token × List Char)) :
    Option (LexerState × List Char) := do
  let s ← s.saveCandidate
  let (t, rest) ← read
  return ({ s.advance cs rest with keyAllowed := false }.emit t, rest)

def scalar (s : LexerState) (style : ScalarStyle) (e : ScalarEnd) : LexerState × List Char :=
  ({ s with position := e.position }.emit (.scalar (String.ofList e.text) style), e.rest)

def quoted (s : LexerState) (style : ScalarStyle) (read : Position → Option ScalarEnd) :
    Option (LexerState × List Char) := do
  let s ← s.saveCandidate
  let e ← read s.position.next
  return { s with keyAllowed := false }.scalar style e

def block (s : LexerState) (style : ScalarStyle) (cs : List Char) :
    Option (LexerState × List Char) := do
  let s ← s.dropCandidate
  let e ← readBlock (style == .literal) s.indents.head? s.position.next cs
  return { s with keyAllowed := true }.scalar style e

def plain (s : LexerState) (cs : List Char) : Option (LexerState × List Char) := do
  let s ← s.saveCandidate
  let indent := match s.indents with
    | [] => 0
    | n :: _ => n + 1
  let e ← readPlain s.inFlow indent s.position {} [] cs
  return { s with keyAllowed := e.atLineStart }.scalar .plain e

def indicators : List Char :=
  ['-', '?', ':', ',', '[', ']', '{', '}', '#', '&', '*', '!', '|', '>', '\'', '"', '%', '@', '\x60']

def startsPlain (flow : Bool) : List Char → Bool
  | [] => false
  | c :: rest =>
      (!isBlank c && !isBreak c && !indicators.contains c) ||
        (c == '-' && !rest.head?.any isBlank) ||
        (!flow && (c == '?' || c == ':') && !blankAhead rest)

def step (s : LexerState) (cs : List Char) : Option (LexerState × List Char) :=
  match cs with
  | [] => none
  | c :: rest =>
      let flow := s.inFlow
      if s.position.column == 0 && c == '%' then do
        let s ← s.endContent
        let (t, behind) ← readDirective rest
        return ((s.advance cs behind).emit t, behind)
      else if s.position.column == 0 && isDocumentMark cs then do
        let s ← s.endContent
        let t := if c == '-' then Token.documentStart else .documentEnd
        return ((s.advance cs (cs.drop 3)).emit t, cs.drop 3)
      else if c == '[' then (s.openFlow .flowSequenceStart).map (·, rest)
      else if c == '{' then (s.openFlow .flowMappingStart).map (·, rest)
      else if c == ']' then (s.closeFlow .flowSequenceEnd).map (·, rest)
      else if c == '}' then (s.closeFlow .flowMappingEnd).map (·, rest)
      else if c == ',' then s.flowEntry.map (·, rest)
      else if c == '-' && blankAhead rest then s.blockEntry.map (·, rest)
      else if c == '?' && (flow || blankAhead rest) then s.keyMark.map (·, rest)
      else if c == ':' && (flow || blankAhead rest) then s.valueMark.map (·, rest)
      else if c == '*' then s.content cs ((readAnchor rest).map fun p => (.alias p.1, p.2))
      else if c == '&' then s.content cs ((readAnchor rest).map fun p => (.anchor p.1, p.2))
      else if c == '!' then s.content cs (readTag flow cs)
      else if c == '|' && !flow then s.block .literal rest
      else if c == '>' && !flow then s.block .folded rest
      else if c == '\'' then s.quoted .singleQuoted fun p => readSingleQuoted p {} [] rest
      else if c == '"' then s.quoted .doubleQuoted fun p => readDoubleQuoted p {} none [] rest
      else if startsPlain flow cs then s.plain cs
      else none

def finish (s : LexerState) : Option (List Token) := do
  let s ← (s.unindent none).dropCandidate
  return s.tokens.reverse

def run : Nat → LexerState → List Char → Option (List Token)
  | 0, _, _ => none
  | fuel + 1, s, cs => do
      let (s, cs) := s.skipSpace false cs
      let s ← s.forgetStale
      let s := s.unindent (some s.position.column)
      match cs with
      | [] => s.finish
      | cs =>
          let (s, rest) ← s.step cs
          run fuel s rest

end LexerState

def tokens? (stream : List Char) : Option (List Token) :=
  if stream.all isAllowed then
    let cs := normalizeBreaks stream
    LexerState.run (cs.length + 1) {} cs
  else none

end TemplateGrep.Yaml
