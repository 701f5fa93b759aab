import KeywordSuite.Fault.Basic
import KeywordSuite.Number.Rounded

/-! # Message templates

A message holds conversions: a percent sign, the name of a value in parentheses or none, flags, a
width, a precision and the kind of the conversion. Values are put in where the conversions stand; a
star in place of a width or a precision takes a value too.
-/

namespace KeywordSuite

structure ConversionShape where
  leftAligned : Bool := false
  plusSign : Bool := false
  spaceSign : Bool := false
  zeroPadded : Bool := false
  alternate : Bool := false
  width : Nat := 0
  precision : Option Nat := none

namespace ConversionShape

def addFlag (s : ConversionShape) : Char → ConversionShape
  | '-' => { s with leftAligned := true }
  | '+' => { s with plusSign := true }
  | ' ' => { s with spaceSign := true }
  | '0' => { s with zeroPadded := true }
  | _ => { s with alternate := true }

def isFlag (c : Char) : Bool := c == '-' || c == '+' || c == ' ' || c == '0' || c == '#'

def pad (s : ConversionShape) (text : String) : String :=
  let fill := String.ofList (List.replicate (s.width - text.length) ' ')
  if s.leftAligned then text ++ fill else fill ++ text

/-- Pads a number to the width; zeros stand between what leads it and its digits. -/
def padNumber (s : ConversionShape) (lead digits : String) : String :=
  if s.zeroPadded && !s.leftAligned then
    lead ++ padLeft (s.width - lead.length) '0' digits
  else s.pad (lead ++ digits)

def sign (s : ConversionShape) (negative : Bool) : String :=
  if negative then "-" else if s.plusSign then "+" else if s.spaceSign then " " else ""

def cut (s : ConversionShape) (text : String) : String :=
  match s.precision with
  | some n => String.ofList (text.toList.take n)
  | none => text

/-- Digits with zeros before them up to the precision. -/
def fillDigits (s : ConversionShape) (digits : String) : String :=
  padLeft (s.precision.getD 0) '0' digits

end ConversionShape

namespace LogTemplate

def typeFault {α : Type} (message : String) : Except Fault α := .error (.plain .wrongType message)

def valueFault {α : Type} (message : String) : Except Fault α := .error (.plain .value message)

def overflowFault {α : Type} (message : String) : Except Fault α := .error (.plain .overflow message)

def exactNumber? : Value → Option Int
  | .int n => some n
  | .bool b => some (if b then 1 else 0)
  | _ => none

/-- The whole number of a value; `other` is the outcome for what is not a number. -/
def wholeNumber (other : Except Fault Int) : Value → Except Fault Int
  | .int n => .ok n
  | .bool b => .ok (if b then 1 else 0)
  | .float x =>
    match DoubleClass.ofFloat x, truncateFloat? x with
    | _, some n => .ok n
    | .nan, none => valueFault "cannot convert float NaN to integer"
    | _, none => overflowFault "cannot convert float infinity to integer"
  | _ => other

def asFloat (v : Value) : Except Fault Float :=
  match v, exactNumber? v with
  | .float x, _ => .ok x
  | _, some n =>
    let x := intToFloat n
    if x.isInf then overflowFault "int too large to convert to float" else .ok x
  | _, none => typeFault ("must be real number, not " ++ v.kindName)

def asciiOnly (s : String) : String :=
  String.join (s.toList.map fun c =>
    if c.toNat < 128 then String.ofList [c] else Text.escapeCode c.toNat)

def upperAscii (s : String) : String := String.ofList (s.toList.map Char.toUpper)

def wholeText (shape : ConversionShape) (n : Int) : String :=
  shape.padNumber (shape.sign (n < 0)) (shape.fillDigits (toString n.natAbs))

/-- A whole number in another base, which a mark may stand for. -/
def baseText (shape : ConversionShape) (base : Nat) (mark : String) (n : Int) : String :=
  shape.padNumber (shape.sign (n < 0) ++ if shape.alternate then mark else "")
    (shape.fillDigits (String.ofList (Nat.toDigits base n.natAbs)))

def realText (shape : ConversionShape) (form : RoundedForm) (x : Float) : String :=
  match DoubleClass.ofFloat x with
  | .nan => shape.padNumber (shape.sign false) "nan"
  | .infinite negative => shape.padNumber (shape.sign negative) "inf"
  | .finite negative size =>
    shape.padNumber (shape.sign negative)
      (size.roundedText form (shape.precision.getD 6) shape.alternate)

/-- The character of a value: a text of one, or the one with a number. -/
def charOf (v : Value) : Except Fault Char :=
  match v, exactNumber? v with
  | .text s, _ =>
    match s.toList with
    | [c] => .ok c
    | _ => typeFault "%c requires int or char"
  | _, some n =>
    if 0 ≤ n && n < 0x110000 then .ok (Char.ofNat n.toNat)
    else overflowFault "%c arg not in range(0x110000)"
  | _, none => typeFault "%c requires int or char"

/-- The number of a kind that takes whole numbers; octal and hexadecimal take no others. -/
def numberFor (kind : Char) (v : Value) : Except Fault Int :=
  let head := "%" ++ String.ofList [kind] ++ " format: "
  if kind == 'x' || kind == 'X' || kind == 'o' then
    match exactNumber? v with
    | some n => .ok n
    | none => typeFault (head ++ "an integer is required, not " ++ v.kindName)
  else wholeNumber (typeFault (head ++ "a real number is required, not " ++ v.kindName)) v

/-- The text that a conversion of a kind makes of a value, if there is such a kind. -/
def convert? (kind : Char) (shape : ConversionShape) (v : Value) : Option (Except Fault String) :=
  let shown (s : Except TextFault String) (f : String → String) : Except Fault String :=
    (s.mapError Fault.ofTextFault).map fun s => shape.pad (shape.cut (f s))
  let whole (text : Int → String) : Except Fault String := (numberFor kind v).map text
  let real (form : RoundedForm) : Except Fault String := (asFloat v).map (realText shape form)
  match kind with
  | 's' => some (shown v.toText id)
  | 'r' => some (shown v.display id)
  | 'a' => some (shown v.display asciiOnly)
  | 'c' => some ((charOf v).map fun c => shape.pad (String.ofList [c]))
  | 'd' | 'i' | 'u' => some (whole (wholeText shape))
  | 'o' => some (whole (baseText shape 8 "0o"))
  | 'x' => some (whole (baseText shape 16 "0x"))
  | 'X' => some (whole fun n => upperAscii (baseText shape 16 "0x" n))
  | 'f' => some (real .fixed)
  | 'F' => some ((real .fixed).map upperAscii)
  | 'e' => some (real .exponent)
  | 'E' => some ((real .exponent).map upperAscii)
  | 'g' => some (real .general)
  | 'G' => some ((real .general).map upperAscii)
  | _ => none

/-- What is left of the values: items in order, or values by name and the one that comes next. -/
inductive Supply
  | items (vs : List Value)
  | named (entries : Entries Value) (next : Option Value)

namespace Supply

/-- The next value, and what is left. -/
def take : Supply → Except Fault (Value × Supply)
  | .items (v :: vs) => .ok (v, .items vs)
  | .named entries (some v) => .ok (v, .named entries none)
  | .items [] | .named _ none => typeFault "not enough arguments for format string"

/-- Makes the value of a name the next one. -/
def choose (s : Supply) (name : String) : Except Fault Supply :=
  match s with
  | .items _ => typeFault "format requires a mapping"
  | .named entries _ =>
    match entries.get? name with
    | some v => .ok (.named entries (some v))
    | none => .error (.plain .missingKey (Text.quoted name))

/-- The number that a star takes; `bits` of them hold it. -/
def takeNumber (s : Supply) (bits : Nat) (size : String) : Except Fault (Int × Supply) := do
  let (v, s) ← s.take
  match exactNumber? v with
  | none => typeFault "* wants int"
  | some n =>
    if -Int.pow 2 (bits - 1) ≤ n && n < Int.pow 2 (bits - 1) then return (n, s)
    else overflowFault ("Python int too large to convert to C " ++ size)

end Supply

/-- The text up to the parenthesis that closes, and what follows it; `depth` others are open. -/
def takeClosed (depth : Nat) : List Char → Option (List Char × List Char)
  | [] => none
  | ')' :: rest =>
    match depth with
    | 0 => some ([], rest)
    | depth + 1 => (takeClosed depth rest).map fun (inner, after) => (')' :: inner, after)
  | c :: rest =>
    (takeClosed (if c == '(' then depth + 1 else depth) rest).map fun (inner, after) =>
      (c :: inner, after)

/-- Reads the name of a value, where there is one. -/
def readName (cs : List Char) (s : Supply) : Except Fault (List Char × Supply) :=
  match cs, s with
  | '(' :: _, .items _ => typeFault "format requires a mapping"
  | '(' :: rest, _ =>
    match takeClosed 0 rest with
    | some (name, after) => do return (after, ← s.choose (String.ofList name))
    | none => valueFault "incomplete format key"
  | _, _ => .ok (cs, s)

def readWidth (shape : ConversionShape) (cs : List Char) (s : Supply) :
    Except Fault (ConversionShape × List Char × Supply) :=
  match cs with
  | '*' :: rest => do
    let (n, s) ← s.takeNumber 64 "ssize_t"
    return ({ shape with width := n.natAbs, leftAligned := shape.leftAligned || n < 0 }, rest, s)
  | _ =>
    .ok ({ shape with width := digitsToNat (cs.takeWhile Char.isDigit) },
      cs.dropWhile Char.isDigit, s)

def readPrecision (shape : ConversionShape) (cs : List Char) (s : Supply) :
    Except Fault (ConversionShape × List Char × Supply) :=
  match cs with
  | '.' :: '*' :: rest => do
    let (n, s) ← s.takeNumber 32 "int"
    return ({ shape with precision := some n.toNat }, rest, s)
  | '.' :: rest =>
    .ok ({ shape with precision := some (digitsToNat (rest.takeWhile Char.isDigit)) },
      rest.dropWhile Char.isDigit, s)
  | _ => .ok (shape, cs, s)

/-- What follows a mark of the size of a number, which says nothing here. -/
def dropSizeMark : List Char → List Char
  | 'h' :: rest | 'l' :: rest | 'L' :: rest => rest
  | cs => cs

/-- Reads a conversion after its percent sign: its text, what follows it and what is left. -/
def readConversion (length : Nat) (cs : List Char) (s : Supply) :
    Except Fault (String × List Char × Supply) := do
  let (cs, s) ← readName cs s
  let shape := (cs.takeWhile ConversionShape.isFlag).foldl ConversionShape.addFlag {}
  let (shape, cs, s) ← readWidth shape (cs.dropWhile ConversionShape.isFlag) s
  let (shape, cs, s) ← readPrecision shape cs s
  match dropSizeMark cs with
  | [] => valueFault "incomplete format"
  | kind :: rest =>
    let (v, s) ← s.take
    match convert? kind shape v with
    | some text => return (← text, rest, s)
    | none =>
      let shown := if 31 ≤ kind.toNat && kind.toNat < 128 then kind else '?'
      valueFault ("unsupported format character '" ++ String.ofList [shown] ++ "' (0x"
        ++ Text.hexDigits kind.toNat ++ ") at index " ++ toString (length - rest.length - 1))

/-- Puts values into the rest of a message; `fuel` bounds its length. -/
def fill (length : Nat) : (fuel : Nat) → List Char → Supply → Except Fault (List String)
  | 0, _, _ => .ok []
  | _ + 1, [], .items (_ :: _) => typeFault "not all arguments converted during string formatting"
  | _ + 1, [], _ => .ok []
  | fuel + 1, '%' :: '%' :: rest, s => do return "%" :: (← fill length fuel rest s)
  | fuel + 1, '%' :: rest, s => do
    let (text, rest, s) ← readConversion length rest s
    return text :: (← fill length fuel rest s)
  | fuel + 1, c :: rest, s => do return String.ofList [c] :: (← fill length fuel rest s)

def apply (message : String) (s : Supply) : Except Fault String := do
  return String.join (← fill message.length (message.length + 1) message.toList s)

end LogTemplate

end KeywordSuite
