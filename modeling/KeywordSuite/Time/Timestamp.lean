import KeywordSuite.Number.Layout
import KeywordSuite.Number.Reading

/-! # Dates, times of day and timestamps

A timestamp may have an offset from universal time. Two timestamps differ by a duration only if
both have an offset or neither has.
-/

namespace KeywordSuite

structure Date where
  year : Nat
  month : Nat
  day : Nat
  deriving DecidableEq, Repr, Inhabited

structure TimeOfDay where
  hour : Nat
  minute : Nat
  second : Nat
  microsecond : Nat
  deriving DecidableEq, Repr, Inhabited

/-- A point in time as a clock shows it, with the clock's offset from universal time in seconds. -/
structure Timestamp where
  date : Date
  time : TimeOfDay
  offset : Option Int
  deriving DecidableEq, Repr, Inhabited

/-- Days since 1970-01-01. -/
def Date.toDays (d : Date) : Int :=
  let y : Int := if d.month ≤ 2 then (d.year : Int) - 1 else d.year
  let era := y.fdiv 400
  let yearOfEra := y - era * 400
  let shifted : Int := (((d.month + 9) % 12 : Nat) : Int)
  let dayOfYear := (153 * shifted + 2) / 5 + (d.day : Int) - 1
  let dayOfEra := yearOfEra * 365 + yearOfEra / 4 - yearOfEra / 100 + dayOfYear
  era * 146097 + dayOfEra - 719468

def Date.ofDays (days : Int) : Date :=
  let z := days + 719468
  let era := z.fdiv 146097
  let dayOfEra := z - era * 146097
  let yearOfEra := (dayOfEra - dayOfEra / 1460 + dayOfEra / 36524 - dayOfEra / 146096) / 365
  let dayOfYear := dayOfEra - (365 * yearOfEra + yearOfEra / 4 - yearOfEra / 100)
  let shifted := (5 * dayOfYear + 2) / 153
  let day := dayOfYear - (153 * shifted + 2) / 5 + 1
  let month := if shifted < 10 then shifted + 3 else shifted - 9
  let year := yearOfEra + era * 400 + (if month ≤ 2 then 1 else 0)
  ⟨year.toNat, month.toNat, day.toNat⟩

def TimeOfDay.toMicroseconds (t : TimeOfDay) : Nat :=
  ((t.hour * 60 + t.minute) * 60 + t.second) * 1000000 + t.microsecond

def TimeOfDay.ofMicroseconds (n : Nat) : TimeOfDay :=
  let seconds := n / 1000000
  ⟨seconds / 3600 % 24, seconds / 60 % 60, seconds % 60, n % 1000000⟩

/-- Microseconds since 1970-01-01 on the timestamp's own clock. -/
def Timestamp.clockMicroseconds (t : Timestamp) : Int :=
  t.date.toDays * 86400000000 + t.time.toMicroseconds

def Timestamp.ofClockMicroseconds (n : Int) (offset : Option Int) : Timestamp :=
  ⟨Date.ofDays (n.fdiv 86400000000), TimeOfDay.ofMicroseconds (n.fmod 86400000000).toNat, offset⟩

/-- A number of seconds in whole microseconds; a half goes to the even neighbour. -/
def secondsToMicroseconds (seconds : Float) : Int :=
  match truncateFloat? seconds with
  | none => 0
  | some whole =>
    let fraction := (seconds - intToFloat whole) * 1000000.0
    match DoubleClass.ofFloat fraction with
    | .finite negative size =>
      let n : Int := size.ratio.round
      whole * 1000000 + (if negative then -n else n)
    | _ => whole * 1000000

def microsecondsToSeconds (n : Int) : Float :=
  let size := decimalToFloat n.natAbs (-6)
  if n < 0 then -size else size

/-- The seconds from `start` to `finish`, if both have an offset or neither has. -/
def Timestamp.secondsSince? (finish start : Timestamp) : Option Float :=
  match finish.offset, start.offset with
  | some f, some s =>
    some (microsecondsToSeconds
      (finish.clockMicroseconds - f * 1000000 - (start.clockMicroseconds - s * 1000000)))
  | none, none => some (microsecondsToSeconds (finish.clockMicroseconds - start.clockMicroseconds))
  | _, _ => none

def twoDigits (n : Nat) : String := padLeft 2 '0' (toString n)

def Date.text (d : Date) : String :=
  padLeft 4 '0' (toString d.year) ++ "-" ++ twoDigits d.month ++ "-" ++ twoDigits d.day

def TimeOfDay.clockText (t : TimeOfDay) : String :=
  twoDigits t.hour ++ ":" ++ twoDigits t.minute ++ ":" ++ twoDigits t.second

def TimeOfDay.text (t : TimeOfDay) : String :=
  t.clockText ++ (if t.microsecond == 0 then "" else "." ++ padLeft 6 '0' (toString t.microsecond))

def offsetText : Option Int → String
  | none => ""
  | some seconds =>
    let n := seconds.natAbs
    (if seconds < 0 then "-" else "+") ++ twoDigits (n / 3600) ++ ":" ++ twoDigits (n / 60 % 60)
      ++ (if n % 60 == 0 then "" else ":" ++ twoDigits (n % 60))

/-- Date and time with `separator` between them, then the offset. -/
def Timestamp.isoText (separator : String) (t : Timestamp) : String :=
  t.date.text ++ separator ++ t.time.text ++ offsetText t.offset

def Timestamp.text (t : Timestamp) : String := t.isoText " "

/-- `2024-05-01 14:30:00` -/
def Timestamp.secondText (t : Timestamp) : String :=
  toString t.date.year ++ "-" ++ twoDigits t.date.month ++ "-" ++ twoDigits t.date.day
    ++ " " ++ t.time.clockText

/-- `2024-05-01 14:30` -/
def Timestamp.minuteText (t : Timestamp) : String :=
  toString t.date.year ++ "-" ++ twoDigits t.date.month ++ "-" ++ twoDigits t.date.day
    ++ " " ++ twoDigits t.time.hour ++ ":" ++ twoDigits t.time.minute

/-- `20240501_143000`, for file names. -/
def Timestamp.compactText (t : Timestamp) : String :=
  toString t.date.year ++ twoDigits t.date.month ++ twoDigits t.date.day
    ++ "_" ++ twoDigits t.time.hour ++ twoDigits t.time.minute ++ twoDigits t.time.second

/-- `20240501_143000_000000`, for names of files made within one second. -/
def Timestamp.compactMicrosecondText (t : Timestamp) : String :=
  t.compactText ++ "_" ++ padLeft 6 '0' (toString t.time.microsecond)

/-- `2024-05-01_14-30-00`, for names of attached files. -/
def Timestamp.dashedText (t : Timestamp) : String :=
  toString t.date.year ++ "-" ++ twoDigits t.date.month ++ "-" ++ twoDigits t.date.day
    ++ "_" ++ twoDigits t.time.hour ++ "-" ++ twoDigits t.time.minute ++ "-" ++ twoDigits t.time.second

def weekdayNames : List String :=
  ["Thursday", "Friday", "Saturday", "Sunday", "Monday", "Tuesday", "Wednesday"]

def monthNames : List String :=
  ["January", "February", "March", "April", "May", "June", "July", "August", "September",
    "October", "November", "December"]

def Date.weekday (d : Date) : String := weekdayNames.getD (d.toDays.fmod 7).toNat ""

/-- `Wednesday, May 01, 2024 at 14:30:00` -/
def Timestamp.longText (t : Timestamp) : String :=
  t.date.weekday ++ ", " ++ monthNames.getD (t.date.month - 1) "" ++ " " ++ twoDigits t.date.day
    ++ ", " ++ toString t.date.year ++ " at " ++ t.time.clockText

/-- The digits of a fixed-width number at the front. -/
def takeNumber? (width : Nat) (cs : List Char) : Option (Nat × List Char) :=
  let digits := cs.take width
  if digits.length == width && digits.all Char.isDigit then
    some (digitsToNat digits, cs.drop width)
  else none

def takeLiteral? (c : Char) : List Char → Option (List Char)
  | d :: rest => if d == c then some rest else none
  | [] => none

def daysInMonth (year month : Nat) : Nat :=
  if month == 2 then
    if year % 4 == 0 && (year % 100 != 0 || year % 400 == 0) then 29 else 28
  else if month == 4 || month == 6 || month == 9 || month == 11 then 30 else 31

def takeDate? (cs : List Char) : Option (Date × List Char) := do
  let (year, cs) ← takeNumber? 4 cs
  let cs ← takeLiteral? '-' cs
  let (month, cs) ← takeNumber? 2 cs
  let cs ← takeLiteral? '-' cs
  let (day, cs) ← takeNumber? 2 cs
  if 1 ≤ year && 1 ≤ month && month ≤ 12 && 1 ≤ day && day ≤ daysInMonth year month then
    some (⟨year, month, day⟩, cs)
  else none

/-- A fraction of a second in up to six digits; further digits are dropped. -/
def takeFraction (cs : List Char) : Nat × List Char :=
  let digits := cs.takeWhile Char.isDigit
  let kept := digits.take 6
  (digitsToNat kept * Nat.pow 10 (6 - kept.length), cs.dropWhile Char.isDigit)

def takeTime? (cs : List Char) : Option (TimeOfDay × List Char) := do
  let (hour, cs) ← takeNumber? 2 cs
  let (minute, cs) ← match cs with
    | ':' :: rest => takeNumber? 2 rest
    | _ => some (0, cs)
  let (second, cs) ← match cs with
    | ':' :: rest => takeNumber? 2 rest
    | _ => some (0, cs)
  let (microsecond, cs) := match cs with
    | '.' :: rest => takeFraction rest
    | _ => (0, cs)
  if hour < 24 && minute < 60 && second < 60 then some (⟨hour, minute, second, microsecond⟩, cs)
  else none

def readOffset? (cs : List Char) : Option (Option Int) :=
  match cs with
  | [] => some none
  | ['Z'] => some (some 0)
  | sign :: rest =>
    match takeTime? rest with
    | some (t, []) =>
      let seconds : Int := t.toMicroseconds / 1000000
      if sign == '+' then some (some seconds)
      else if sign == '-' then some (some (-seconds))
      else none
    | _ => none

def Date.read? (s : String) : Option Date :=
  match takeDate? s.toList with
  | some (d, []) => some d
  | _ => none

def TimeOfDay.read? (s : String) : Option TimeOfDay :=
  match takeTime? s.toList with
  | some (t, []) => some t
  | _ => none

def Timestamp.read? (s : String) : Option Timestamp := do
  let (date, cs) ← takeDate? s.toList
  match cs with
  | [] => some ⟨date, ⟨0, 0, 0, 0⟩, none⟩
  | _ :: rest =>
    let (time, rest) ← takeTime? rest
    let offset ← readOffset? rest
    some ⟨date, time, offset⟩

end KeywordSuite
