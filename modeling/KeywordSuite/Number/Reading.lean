import KeywordSuite.Text.Blank
import KeywordSuite.Text.Word

/-! # Reading numbers

A number may have blanks around it, a sign, digits of any script, and single underscores between
its digits. A double may also be `inf`, `infinity` or `nan` in any case.
-/

namespace KeywordSuite

/-- Longest run of digits that is read or written as an integer. -/
def integerDigitLimit : Nat := 4300

/-- The characters with blanks as spaces and decimal digits as ASCII digits. -/
def plainDigits (cs : List Char) : List Char :=
  cs.map fun c =>
    if Text.isBlank c then ' '
    else match Text.digitValue? c with
      | some d => Char.ofNat (48 + d)
      | none => c

def trimSpaces (cs : List Char) : List Char := Text.trimEnds (· == ' ') cs

/-- The characters without underscores, if each stands between two digits. -/
def dropUnderscores? (previous : Option Char) : List Char → Option (List Char)
  | [] => some []
  | '_' :: d :: rest =>
    if (previous.any Char.isDigit) && d.isDigit then
      (dropUnderscores? (some d) rest).map (d :: ·)
    else none
  | ['_'] => none
  | c :: rest => (dropUnderscores? (some c) rest).map (c :: ·)

def takeSign : List Char → Bool × List Char
  | '-' :: rest => (true, rest)
  | '+' :: rest => (false, rest)
  | rest => (false, rest)

def digitsToNat (cs : List Char) : Nat := cs.foldl (fun n c => 10 * n + (c.toNat - 48)) 0

def signedDigits? (cs : List Char) : Option Int :=
  let (negative, digits) := takeSign cs
  if digits.isEmpty || !digits.all Char.isDigit then none
  else
    let n : Int := digitsToNat digits
    some (if negative then -n else n)

def readInt? (s : String) : Option Int :=
  match dropUnderscores? none (trimSpaces (plainDigits s.toList)) with
  | none => none
  | some cs => if integerDigitLimit < (takeSign cs).2.length then none else signedDigits? cs

/-- The double nearest to `mantissa * 10 ^ exponent`. -/
def decimalToFloat (mantissa : Nat) (exponent : Int) : Float :=
  let size := (toString mantissa).length + exponent
  if mantissa == 0 then 0.0
  else if 400 < size then 1.0 / 0.0
  else if size < -400 then 0.0
  else Float.ofScientific mantissa (exponent < 0) exponent.natAbs

/-- An exponent part `e`, sign and digits, or nothing. -/
def readExponent? : List Char → Option Int
  | [] => some 0
  | e :: rest =>
    if e == 'e' || e == 'E' then signedDigits? rest else none

/-- Digits, with a point, a fraction and an exponent where they are written. -/
def readUnsigned? (cs : List Char) : Option Float :=
  let whole := cs.takeWhile Char.isDigit
  let rest := cs.dropWhile Char.isDigit
  let (fraction, rest) := match rest with
    | '.' :: more => (more.takeWhile Char.isDigit, more.dropWhile Char.isDigit)
    | other => ([], other)
  if whole.isEmpty && fraction.isEmpty then none
  else (readExponent? rest).map fun e =>
    decimalToFloat (digitsToNat (whole ++ fraction)) (e - fraction.length)

/-- A double in a text of ASCII characters without blanks around it. -/
def readPlainFloat? (cs : List Char) : Option Float :=
  let (negative, body) := takeSign cs
  let size := match String.ofList (body.map Char.toLower) with
    | "inf" | "infinity" => some (1.0 / 0.0)
    | "nan" => some (0.0 / 0.0)
    | _ => readUnsigned? body
  size.map fun x => if negative then -x else x

def readFloat? (s : String) : Option Float :=
  (dropUnderscores? none (trimSpaces (plainDigits s.toList))).bind readPlainFloat?

def intToFloat (n : Int) : Float :=
  let size := decimalToFloat n.natAbs 0
  if n < 0 then -size else size

end KeywordSuite
