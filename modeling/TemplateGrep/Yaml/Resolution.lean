/-!
What a plain scalar means to a reader that expects no type: null, a truth value, a number, or else
text.
-/

namespace TemplateGrep.Yaml

def isNull (cs : List Char) : Bool :=
  [['n', 'u', 'l', 'l'], ['N', 'u', 'l', 'l'], ['N', 'U', 'L', 'L'], ['~']].contains cs

def truthValue? (text : String) : Option Bool :=
  if text = "true" ∨ text = "True" ∨ text = "TRUE" then some true
  else if text = "false" ∨ text = "False" ∨ text = "FALSE" then some false
  else none

def digitIn? (base : Nat) (c : Char) : Option Nat :=
  let n :=
    if '0' ≤ c ∧ c ≤ '9' then c.toNat - '0'.toNat
    else if 'a' ≤ c ∧ c ≤ 'z' then c.toNat - 'a'.toNat + 10
    else if 'A' ≤ c ∧ c ≤ 'Z' then c.toNat - 'A'.toNat + 10
    else base
  if n < base then some n else none

def natural? (base : Nat) (cs : List Char) : Option Nat :=
  if cs.isEmpty then none
  else cs.foldlM (fun n c => (digitIn? base c).map (n * base + ·)) 0

def isSign (c : Char) : Bool := c == '+' || c == '-'

def dropSign : List Char → List Char
  | c :: rest => if isSign c then rest else c :: rest
  | [] => []

def dropPlus : List Char → List Char
  | '+' :: rest => rest
  | cs => cs

def isZeroPadded (cs : List Char) : Bool :=
  match dropSign cs with
  | '0' :: d :: rest => (d :: rest).all Char.isDigit
  | _ => false

def based? : List Char → Option Nat
  | '0' :: 'x' :: rest => natural? 16 rest
  | '0' :: 'o' :: rest => natural? 8 rest
  | '0' :: 'b' :: rest => natural? 2 rest
  | _ => none

def isInteger (cs : List Char) : Bool :=
  let read (cs' : List Char) : Option Nat :=
    based? cs' <|> if isZeroPadded cs then none else natural? 10 cs'
  match cs with
  | '-' :: rest => (read rest).any (· ≤ Nat.pow 2 127)
  | cs => (read (dropPlus cs)).any (· < Nat.pow 2 128)

def isInfinity (cs : List Char) : Bool :=
  [['.', 'i', 'n', 'f'], ['.', 'I', 'n', 'f'], ['.', 'I', 'N', 'F']].contains (dropSign cs)

def isNotANumber (cs : List Char) : Bool :=
  [['.', 'n', 'a', 'n'], ['.', 'N', 'a', 'N'], ['.', 'N', 'A', 'N']].contains cs

structure Decimal where
  digits : Nat
  places : Nat
  exponent : Int

def exponent? : List Char → Option Int
  | [] => some 0
  | c :: rest =>
      if c = 'e' ∨ c = 'E' then
        match rest with
        | '-' :: ds => (natural? 10 ds).map fun n => -(n : Int)
        | ds => (natural? 10 (dropPlus ds)).map fun n => (n : Int)
      else none

def Decimal.read? (cs : List Char) : Option Decimal :=
  let whole := cs.takeWhile Char.isDigit
  let rest := cs.dropWhile Char.isDigit
  let (fraction, rest) := match rest with
    | '.' :: rest => (rest.takeWhile Char.isDigit, rest.dropWhile Char.isDigit)
    | rest => ([], rest)
  do
    let digits ← natural? 10 (whole ++ fraction)
    let exponent ← exponent? rest
    return ⟨digits, fraction.length, exponent⟩

def overflow : Nat := Nat.pow 2 1024 - Nat.pow 2 970

def overflowDigits : Nat := 309

def Decimal.isFinite (d : Decimal) : Bool :=
  let length := (Nat.toDigits 10 d.digits).length
  match d.exponent - d.places with
  | .ofNat n =>
      d.digits == 0 ||
        (decide (length + n ≤ overflowDigits) && decide (d.digits * Nat.pow 10 n < overflow))
  | .negSucc n =>
      decide (length < overflowDigits + n) || decide (d.digits < overflow * Nat.pow 10 (n + 1))

def isFloat (cs : List Char) : Bool :=
  isInfinity cs || isNotANumber cs || (Decimal.read? (dropSign cs)).any (·.isFinite)

def isTyped (text : String) : Bool :=
  let cs := text.toList
  cs.isEmpty || isNull cs || (truthValue? text).isSome || isInteger cs || isZeroPadded cs ||
    isFloat cs

end TemplateGrep.Yaml
