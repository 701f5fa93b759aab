import KeywordSuite.Fault.Basic

/-! # Reading JSON text

The reader also takes `NaN` and the infinities, integers of any size up to a limit of digits, and
keeps the last value of a key at the key's first place. A fault names what was expected and where.
-/

namespace KeywordSuite

inductive JsonFaultKind
  | expectingValue
  | expectingName
  | expectingColon
  | expectingComma
  | extraData
  | unterminatedText
  | controlCharacter
  | badEscape
  | badCodeEscape
  | byteOrderMark
  deriving DecidableEq, Repr

def JsonFaultKind.text : JsonFaultKind → String
  | .expectingValue => "Expecting value"
  | .expectingName => "Expecting property name enclosed in double quotes"
  | .expectingColon => "Expecting ':' delimiter"
  | .expectingComma => "Expecting ',' delimiter"
  | .extraData => "Extra data"
  | .unterminatedText => "Unterminated string starting at"
  | .controlCharacter => "Invalid control character at"
  | .badEscape => "Invalid \\escape"
  | .badCodeEscape => "Invalid \\uXXXX escape"
  | .byteOrderMark => "Unexpected UTF-8 BOM (decode using utf-8-sig)"

inductive JsonFault
  | unexpected (kind : JsonFaultKind) (position : Nat)
  | tooManyDigits (count : Nat)
  deriving DecidableEq, Repr

namespace JsonFault

def lineAndColumn (text : List Char) (position : Nat) : Nat × Nat :=
  let before := text.take position
  (before.count '\n' + 1, (before.reverse.takeWhile (· != '\n')).length + 1)

def toFault (text : List Char) : JsonFault → Fault
  | .unexpected kind position =>
    let (line, column) := lineAndColumn text position
    .plain .jsonSyntax (kind.text ++ ": line " ++ toString line ++ " column " ++ toString column
      ++ " (char " ++ toString position ++ ")")
  | .tooManyDigits count =>
    .plain .value ("Exceeds the limit (4300 digits) for integer string conversion: value has "
      ++ toString count ++ " digits; use sys.set_int_max_str_digits() to increase the limit")

end JsonFault

namespace Json

/-- A place in a text and the characters from there on. -/
structure Cursor where
  position : Nat
  rest : List Char

def isSpace (c : Char) : Bool := c == ' ' || c == '\t' || c == '\n' || c == '\r'

def Cursor.skipSpace (c : Cursor) : Cursor :=
  ⟨c.position + (c.rest.takeWhile isSpace).length, c.rest.dropWhile isSpace⟩

def Cursor.fault {α : Type} (kind : JsonFaultKind) (c : Cursor) : Except JsonFault α :=
  .error (.unexpected kind c.position)

def hexValue? (c : Char) : Option Nat :=
  if c.isDigit then some (c.toNat - 48)
  else if 'a' ≤ c && c ≤ 'f' then some (c.toNat - 87)
  else if 'A' ≤ c && c ≤ 'F' then some (c.toNat - 55)
  else none

def hexCode? (a b c d : Char) : Option Nat := do
  let a ← hexValue? a
  let b ← hexValue? b
  let c ← hexValue? c
  let d ← hexValue? d
  return ((a * 16 + b) * 16 + c) * 16 + d

def isHighHalf (n : Nat) : Bool := 0xd800 ≤ n && n < 0xdc00

def isLowHalf (n : Nat) : Bool := 0xdc00 ≤ n && n < 0xe000

/-- The character of a code; half of a pair on its own becomes the replacement character. -/
def codeChar (n : Nat) : Char := if isHighHalf n || isLowHalf n then '\ufffd' else Char.ofNat n

def joinHalves (high low : Nat) : Char := Char.ofNat (0x10000 + (high - 0xd800) * 0x400 + (low - 0xdc00))

def simpleEscape? : Char → Option Char
  | '"' => some '"'
  | '\\' => some '\\'
  | '/' => some '/'
  | 'b' => some '\x08'
  | 'f' => some '\x0c'
  | 'n' => some '\n'
  | 'r' => some '\r'
  | 't' => some '\t'
  | _ => none

/-- The rest of a text that opened at `start`; `seen` holds its characters so far in reverse. -/
def readText (start : Nat) (position : Nat) (seen : List Char) : List Char → Except JsonFault (String × Cursor)
  | [] => .error (.unexpected .unterminatedText start)
  | '"' :: rest => .ok (String.ofList seen.reverse, ⟨position + 1, rest⟩)
  | ['\\'] => .error (.unexpected .unterminatedText start)
  | '\\' :: 'u' :: a :: b :: c :: d :: '\\' :: 'u' :: e :: f :: g :: h :: rest =>
    match hexCode? a b c d with
    | none => .error (.unexpected .badCodeEscape (position + 1))
    | some high =>
      if isHighHalf high && !rest.isEmpty then
        match hexCode? e f g h with
        | none => .error (.unexpected .badCodeEscape (position + 7))
        | some low =>
          if isLowHalf low then readText start (position + 12) (joinHalves high low :: seen) rest
          else readText start (position + 6) (codeChar high :: seen)
            ('\\' :: 'u' :: e :: f :: g :: h :: rest)
      else readText start (position + 6) (codeChar high :: seen)
        ('\\' :: 'u' :: e :: f :: g :: h :: rest)
  | '\\' :: 'u' :: a :: b :: c :: d :: next :: rest =>
    match hexCode? a b c d with
    | none => .error (.unexpected .badCodeEscape (position + 1))
    | some code => readText start (position + 6) (codeChar code :: seen) (next :: rest)
  | '\\' :: 'u' :: _ => .error (.unexpected .badCodeEscape (position + 1))
  | '\\' :: c :: rest =>
    match simpleEscape? c with
    | none => .error (.unexpected .badEscape position)
    | some character => readText start (position + 2) (character :: seen) rest
  | c :: rest =>
    if c.toNat < 32 then .error (.unexpected .controlCharacter position)
    else readText start (position + 1) (c :: seen) rest
termination_by cs => cs.length

/-- The digits of the exponent of a number, with their sign and the letter before them. -/
def exponentPart (cs : List Char) : List Char × List Char :=
  match cs with
  | e :: rest =>
    if e == 'e' || e == 'E' then
      let (sign, rest) := match rest with
        | '+' :: more => (['+'], more)
        | '-' :: more => (['-'], more)
        | more => ([], more)
      let digits := rest.takeWhile Char.isDigit
      if digits.isEmpty then ([], cs) else (e :: sign ++ digits, rest.dropWhile Char.isDigit)
    else ([], cs)
  | [] => ([], [])

def fractionPart (cs : List Char) : List Char × List Char :=
  match cs with
  | '.' :: rest =>
    let digits := rest.takeWhile Char.isDigit
    if digits.isEmpty then ([], cs) else ('.' :: digits, rest.dropWhile Char.isDigit)
  | _ => ([], cs)

def readNumber (c : Cursor) : Except JsonFault (Value × Cursor) :=
  let (sign, body) := match c.rest with
    | '-' :: rest => (['-'], rest)
    | rest => ([], rest)
  match body with
  | [] => c.fault .expectingValue
  | d :: more =>
    if !d.isDigit then c.fault .expectingValue
    else
      let whole := if d == '0' then ['0'] else body.takeWhile Char.isDigit
      let rest := if d == '0' then more else body.dropWhile Char.isDigit
      let (fraction, rest) := fractionPart rest
      let (exponent, rest) := exponentPart rest
      let length := sign.length + whole.length + fraction.length + exponent.length
      let after : Cursor := ⟨c.position + length, rest⟩
      if fraction.isEmpty && exponent.isEmpty then
        if integerDigitLimit < whole.length then .error (.tooManyDigits whole.length)
        else
          let n : Int := digitsToNat whole
          .ok (.int (if sign.isEmpty then n else -n), after)
      else
        match readPlainFloat? (sign ++ whole ++ fraction ++ exponent) with
        | some x => .ok (.float x, after)
        | none => c.fault .expectingValue

def words : List (List Char × Value) := [
  ("null".toList, .null),
  ("true".toList, .bool true),
  ("false".toList, .bool false),
  ("NaN".toList, .float (0.0 / 0.0)),
  ("Infinity".toList, .float (1.0 / 0.0)),
  ("-Infinity".toList, .float (-1.0 / 0.0))]

def readScalar (c : Cursor) : Except JsonFault (Value × Cursor) :=
  match words.find? fun word => word.1.isPrefixOf c.rest with
  | some (word, value) => .ok (value, ⟨c.position + word.length, c.rest.drop word.length⟩)
  | none => readNumber c

mutual
/-- A value; `depth` bounds how far values nest. -/
def readValue (depth : Nat) (c : Cursor) : Except JsonFault (Value × Cursor) :=
  match depth with
  | 0 => c.fault .expectingValue
  | depth + 1 =>
    match c.rest with
    | '"' :: rest => do
      let (s, c) ← readText c.position (c.position + 1) [] rest
      return (.text s, c)
    | '[' :: rest =>
      let c := Cursor.skipSpace ⟨c.position + 1, rest⟩
      match c.rest with
      | ']' :: rest => .ok (.list [], ⟨c.position + 1, rest⟩)
      | _ => readItems depth [] c
    | '\x7b' :: rest =>
      let c := Cursor.skipSpace ⟨c.position + 1, rest⟩
      match c.rest with
      | '\x7d' :: rest => .ok (.dict [], ⟨c.position + 1, rest⟩)
      | _ => readMembers depth [] c
    | _ => readScalar c

/-- The items of a list from one of them on; `seen` holds those before it in reverse. -/
def readItems (depth : Nat) (seen : List Value) (c : Cursor) : Except JsonFault (Value × Cursor) :=
  match depth with
  | 0 => c.fault .expectingValue
  | depth + 1 => do
    let (item, c) ← readValue depth c
    let c := c.skipSpace
    match c.rest with
    | ']' :: rest => .ok (.list (item :: seen).reverse, ⟨c.position + 1, rest⟩)
    | ',' :: rest => readItems depth (item :: seen) (Cursor.skipSpace ⟨c.position + 1, rest⟩)
    | _ => c.fault .expectingComma

def readMembers (depth : Nat) (seen : Entries Value) (c : Cursor) : Except JsonFault (Value × Cursor) :=
  match depth with
  | 0 => c.fault .expectingValue
  | depth + 1 =>
    match c.rest with
    | '"' :: rest => do
      let (name, c) ← readText c.position (c.position + 1) [] rest
      let c := c.skipSpace
      match c.rest with
      | ':' :: rest =>
        let (value, c) ← readValue depth (Cursor.skipSpace ⟨c.position + 1, rest⟩)
        let c := c.skipSpace
        let seen := seen.set name value
        match c.rest with
        | '\x7d' :: rest => .ok (.dict seen, ⟨c.position + 1, rest⟩)
        | ',' :: rest => readMembers depth seen (Cursor.skipSpace ⟨c.position + 1, rest⟩)
        | _ => c.fault .expectingComma
      | _ => c.fault .expectingColon
    | _ => c.fault .expectingName
end

def readDocument (cs : List Char) : Except JsonFault Value :=
  if cs.head? == some '\ufeff' then .error (.unexpected .byteOrderMark 0)
  else do
    let (value, c) ← readValue (2 * cs.length + 2) (Cursor.skipSpace ⟨0, cs⟩)
    let c := c.skipSpace
    if c.rest.isEmpty then .ok value else c.fault .extraData

def read (text : String) : Except Fault Value :=
  (readDocument text.toList).mapError (JsonFault.toFault text.toList)

end Json

end KeywordSuite
