import TemplateGrep.Yaml.Resolution
import TemplateGrep.Yaml.Token

namespace TemplateGrep.Yaml.ScalarWriter

def isLineEnd (c : Char) : Bool :=
  c == '\n' || c == '\r' || c == '\u0085' || c == '\u2028' || c == '\u2029'

def isPrintable (c : Char) : Bool :=
  c == '\n' || (' ' ≤ c && c ≤ '~') ||
    ('\u00a0' ≤ c && c != '\ufeff' && c != '\ufffe' && c != '\uffff')

def hasPair (p q : Char → Bool) : List Char → Bool
  | a :: b :: rest => (p a && q b) || hasPair p q (b :: rest)
  | _ => false

def isSpace (c : Char) : Bool := c == ' '

def isSeparator (c : Char) : Bool := c == ' ' || c == '\t' || isLineEnd c

def separatorAhead (cs : List Char) : Bool := cs.head?.all isSeparator

def isSpecial (cs : List Char) : Bool := cs.any (!isPrintable ·)

def indicators : List Char :=
  ['#', ',', '[', ']', '{', '}', '&', '*', '!', '|', '>', '\'', '"', '%', '@', '\x60']

def startsLikeToken : List Char → Bool
  | '-' :: '-' :: '-' :: _ => true
  | '.' :: '.' :: '.' :: _ => true
  | c :: rest =>
      indicators.contains c || ((c == '?' || c == ':' || c == '-') && separatorAhead rest)
  | [] => false

def hasKeyColon : List Char → Bool
  | [] => false
  | c :: rest => (c == ':' && separatorAhead rest) || hasKeyColon rest

def plainFits (cs : List Char) : Bool :=
  !cs.any isLineEnd && cs.head? != some ' ' && cs.getLast? != some ' ' && !isSpecial cs &&
    !startsLikeToken cs && !hasKeyColon cs && !hasPair isSeparator (· == '#') cs

def singleQuotesFit (cs : List Char) : Bool :=
  !hasPair isLineEnd isSpace cs && !hasPair isSpace isLineEnd cs && !isSpecial cs

def literalFits (cs : List Char) : Bool :=
  cs.getLast? != some ' ' && !hasPair isSpace isLineEnd cs && !isSpecial cs

/-- Several lines are written literally and text that looks typed is quoted, if that is possible. -/
def style (text : String) : ScalarStyle :=
  let cs := text.toList
  if cs.contains '\n' then (if literalFits cs then .literal else .doubleQuoted)
  else if !isTyped text && plainFits cs then .plain
  else if singleQuotesFit cs then .singleQuoted
  else .doubleQuoted

def indent : List Char := [' ', ' ', ' ', ' ']

def singleQuoted (atLineStart : Bool) : List Char → List Char
  | [] => (if atLineStart then indent else []) ++ ['\'']
  | c :: rest =>
      if isLineEnd c then c :: singleQuoted true rest
      else
        (if atLineStart then indent else []) ++
          (if c = '\'' then ['\'', '\''] else [c]) ++ singleQuoted false rest

def hexDigits (width n : Nat) : List Char :=
  let ds := (Nat.toDigits 16 n).map Char.toUpper
  List.replicate (width - ds.length) '0' ++ ds

def escapeLetter? (c : Char) : Option Char :=
  match c with
  | '\x00' => some '0'
  | '\x07' => some 'a'
  | '\x08' => some 'b'
  | '\t' => some 't'
  | '\n' => some 'n'
  | '\x0b' => some 'v'
  | '\x0c' => some 'f'
  | '\r' => some 'r'
  | '\x1b' => some 'e'
  | '"' => some '"'
  | '\\' => some '\\'
  | '\u0085' => some 'N'
  | '\u2028' => some 'L'
  | '\u2029' => some 'P'
  | _ => none

def escapedByNumber (c : Char) : List Char :=
  let n := c.toNat
  if n ≤ 0xFF then 'x' :: hexDigits 2 n
  else if n ≤ 0xFFFF then 'u' :: hexDigits 4 n
  else 'U' :: hexDigits 8 n

def doubleQuotedChar (c : Char) : List Char :=
  match escapeLetter? c with
  | some e => ['\\', e]
  | none => if isPrintable c then [c] else '\\' :: escapedByNumber c

/-- Hints behind `|`: the indentation if the text begins with a space or an empty line, and what
happens to the line ends behind it. -/
def literalHints (cs : List Char) : List Char :=
  (if cs.head?.any fun c => isSpace c || isLineEnd c then ['2'] else []) ++
    match cs.reverse with
    | [] => ['-']
    | c :: rest =>
        if !isLineEnd c then ['-'] else if rest.head?.all isLineEnd then ['+'] else []

def literalLines (atLineStart : Bool) : List Char → List Char
  | [] => if atLineStart then [] else ['\n']
  | c :: rest =>
      if isLineEnd c then c :: literalLines true rest
      else (if atLineStart then indent else []) ++ c :: literalLines false rest

def inline (text : String) : List Char :=
  let cs := text.toList
  match style text with
  | .plain => cs
  | .singleQuoted => '\'' :: singleQuoted false cs
  | _ => '"' :: cs.flatMap doubleQuotedChar ++ ['"']

def line (text : String) : List Char :=
  let cs := text.toList
  if style text = .literal then '|' :: literalHints cs ++ '\n' :: literalLines true cs
  else inline text ++ ['\n']

def keyBytes : Nat := 128

def isSimpleKey (text : String) : Bool :=
  !text.toList.any isLineEnd && decide (text.utf8ByteSize ≤ keyBytes)

def entry (key value : String) : List Char :=
  if isSimpleKey key then [' ', ' '] ++ inline key ++ [':', ' '] ++ line value
  else [' ', ' ', '?', ' '] ++ line key ++ [' ', ' ', ':', ' '] ++ line value

end TemplateGrep.Yaml.ScalarWriter
