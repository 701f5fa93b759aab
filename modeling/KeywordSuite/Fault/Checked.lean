import KeywordSuite.Fault.Basic
import KeywordSuite.Text.Search

/-! # Checked fields

Fields are read from entries of values in the order they are declared. Every field that is missing
or does not fit adds an issue, so that one reading reports all of them.
-/

namespace KeywordSuite

/-- A value, or every issue that reading it met. -/
inductive Checked (α : Type)
  | valid (value : α)
  | wrong (issues : List FieldIssue)

namespace Checked

variable {α β : Type}

def map (f : α → β) : Checked α → Checked β
  | .valid a => .valid (f a)
  | .wrong issues => .wrong issues

/-- Applies a checked function to a checked value; the issues of both are kept in order. -/
def ap : Checked (α → β) → Checked α → Checked β
  | .valid f, .valid a => .valid (f a)
  | .valid _, .wrong issues => .wrong issues
  | .wrong issues, .valid _ => .wrong issues
  | .wrong first, .wrong second => .wrong (first ++ second)

instance : Applicative Checked where
  pure := .valid
  map := map
  seq f x := ap f (x ())

def complain (complaint : Complaint) : Checked α := .wrong [⟨[], complaint⟩]

/-- Reads on with a value that is valid. -/
def andThen : Checked α → (α → Checked β) → Checked β
  | .valid a, f => f a
  | .wrong issues, _ => .wrong issues

def below (step : FieldStep) : Checked α → Checked α
  | .valid a => .valid a
  | .wrong issues => .wrong (issues.map fun issue => ⟨step :: issue.path, issue.complaint⟩)

def toExcept (model : String) : Checked α → Except Fault α
  | .valid a => .ok a
  | .wrong issues => .error (.invalid model issues)

end Checked

/-- The field of a name, or its default where it is absent. -/
def field {α : Type} (data : Entries Value) (name : String) (default : Option α)
    (read : Value → Checked α) : Checked α :=
  match data.get? name, default with
  | some v, _ => (read v).below (.name name)
  | none, some a => .valid a
  | none, none => .wrong [⟨[.name name], .missing⟩]

namespace Read

def text : Value → Checked String
  | .text s => .valid s
  | .verdict v => .valid v.label
  | _ => .complain .notText

def optional {α : Type} (read : Value → Checked α) : Value → Checked (Option α)
  | .null => .valid none
  | v => (read v).map some

def nonEmptyText (v : Value) : Checked String :=
  (text v).andThen fun s => if s == "" then .complain .textTooShort else .valid s

def trueWords : List String := ["1", "on", "t", "true", "y", "yes"]

def falseWords : List String := ["0", "off", "f", "false", "n", "no"]

def boolWord (s : String) : Checked Bool :=
  let word := String.ofList (s.toList.map Char.toLower)
  if trueWords.contains word then .valid true
  else if falseWords.contains word then .valid false
  else .complain .unreadableBool

def bool : Value → Checked Bool
  | .bool b => .valid b
  | .text s => boolWord s
  | .verdict v => boolWord v.label
  | .int 0 => .valid false
  | .int 1 => .valid true
  | .int _ => .complain .unreadableBool
  | .float x =>
    if x == 0.0 then .valid false else if x == 1.0 then .valid true else .complain .notBool
  | _ => .complain .notBool

/-- White space around a number in a field. -/
def isFieldBlank (c : Char) : Bool := Text.isBlank c && !(0x1c ≤ c.toNat && c.toNat ≤ 0x1f)

/-- The characters without underscores, none of which may be first, last or after another. -/
def joinDigits? (cs : List Char) : Option (List Char) :=
  if cs.head? == some '_' || cs.getLast? == some '_' || Text.holds ['_', '_'] cs then none
  else some (cs.filter (· != '_'))

/-- An integer in a field: a sign, digits, and a fraction of zeros. -/
def integerText? (s : String) : Option Int :=
  let body := Text.trimEnds isFieldBlank s.toList
  let whole := body.takeWhile (· != '.')
  let fraction := (body.dropWhile (· != '.')).drop 1
  if fraction.all (· == '0') then (joinDigits? whole).bind signedDigits? else none

def intWord (s : String) : Checked Int :=
  if integerDigitLimit < s.length then .complain .intTooLong
  else match integerText? s with
    | some n => .valid n
    | none => .complain .unreadableInt

def int : Value → Checked Int
  | .bool b => .valid (if b then 1 else 0)
  | .int n => .valid n
  | .float x =>
    match truncateFloat? x with
    | none => .complain .notFinite
    | some n => if isWholeFloat x then .valid n else .complain .fractionalInt
  | .text s => intWord s
  | .verdict v => intWord v.label
  | _ => .complain .notInt

def numberWord (s : String) : Checked Float :=
  match (joinDigits? (Text.trimEnds isFieldBlank s.toList)).bind readPlainFloat? with
  | some x => .valid x
  | none => .complain .unreadableNumber

def number : Value → Checked Float
  | .bool b => .valid (if b then 1.0 else 0.0)
  | .int n => .valid (intToFloat n)
  | .float x => .valid x
  | .text s => numberWord s
  | .verdict v => numberWord v.label
  | _ => .complain .notNumber

def intAtLeast (limit : Int) (v : Value) : Checked Int :=
  (int v).andThen fun n => if n < limit then .complain (.below limit) else .valid n

def intBetween (low high : Int) (v : Value) : Checked Int :=
  (intAtLeast low v).andThen fun n => if high < n then .complain (.above high) else .valid n

/-- A number that is at least zero; what is not a number is not. -/
def duration (v : Value) : Checked Float :=
  (number v).andThen fun x => if 0.0 ≤ x then .valid x else .complain (.below 0)

/-- Reads each element, keeping the issues of all. -/
def each {α : Type} (read : Value → Checked α) : Nat → List Value → Checked (List α)
  | _, [] => .valid []
  | n, v :: vs =>
    Checked.ap (((read v).below (.index n)).map fun a rest => a :: rest) (each read (n + 1) vs)

def list {α : Type} (read : Value → Checked α) : Value → Checked (List α)
  | .list vs => each read 0 vs
  | _ => .complain .notList

def eachEntry {α : Type} (read : Value → Checked α) : Entries Value → Checked (Entries α)
  | [] => .valid []
  | (key, v) :: rest =>
    Checked.ap (((read v).below (.name key)).map fun a more => (key, a) :: more) (eachEntry read rest)

def entries {α : Type} (read : Value → Checked α) : Value → Checked (Entries α)
  | .dict kvs => eachEntry read kvs
  | _ => .complain .notDict

def model {α : Type} (name : String) (read : Entries Value → Checked α) : Value → Checked α
  | .dict kvs => read kvs
  | _ => .complain (.notModel name)

def choice {α : Type} (options : List (String × α)) (shown : String) : Value → Checked α
  | .text s =>
    match options.lookup s with
    | some a => .valid a
    | none => .complain (.notOneOf shown)
  | _ => .complain (.notOneOf shown)

def timestamp : Value → Checked Timestamp
  | .datetime t => .valid t
  | .date d => .valid ⟨d, ⟨0, 0, 0, 0⟩, none⟩
  | .text s =>
    match Timestamp.read? s with
    | some t => .valid t
    | none => .complain .unreadableDatetime
  | .int n => .valid (.ofClockMicroseconds (n * 1000000) (some 0))
  | .float x => .valid (.ofClockMicroseconds (secondsToMicroseconds x) (some 0))
  | _ => .complain .notDatetime

end Read

end KeywordSuite
