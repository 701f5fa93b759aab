import KeywordSuite.Entries
import KeywordSuite.Time.Timestamp
import KeywordSuite.Text.Quoted

/-! # Values

Input data, scratch values, settings and cells hold values of one dynamic type. The text of a value
is how it reads on its own; inside a list or a mapping a text is quoted. Some values have no text.
-/

namespace KeywordSuite

/-- What a keyword may return to say how it went. -/
inductive Verdict
  | success
  | failure
  | noVerdict
  deriving DecidableEq, Repr

def Verdict.label : Verdict → String
  | .success => "success"
  | .failure => "failure"
  | .noVerdict => "no_verdict"

inductive Value
  | null
  | bool (b : Bool)
  | int (n : Int)
  | float (x : Float)
  | text (s : String)
  | list (items : List Value)
  | dict (entries : List (String × Value))
  | datetime (t : Timestamp)
  | date (d : Date)
  | time (t : TimeOfDay)
  | verdict (v : Verdict)
  /-- A value whose text cannot be made. -/
  | textless (message : String)

instance : Inhabited Value := ⟨.null⟩

/-- The entries of a mapping; other values have none. -/
def Value.entries : Value → Entries Value
  | .dict kvs => kvs
  | _ => []

inductive TextFault
  | refused (message : String)
  | tooManyDigits
  deriving DecidableEq, Repr

def intText (n : Int) : Except TextFault String :=
  let digits := toString n.natAbs
  if integerDigitLimit < digits.length then .error .tooManyDigits
  else .ok (signText (n < 0) ++ digits)

def offsetDisplay : Int → String
  | 0 => "datetime.timezone.utc"
  | seconds =>
    let days := seconds.fdiv 86400
    let rest := seconds.fmod 86400
    "datetime.timezone(datetime.timedelta("
      ++ (if days == 0 then "" else "days=" ++ toString days
        ++ (if rest == 0 then "" else ", "))
      ++ (if rest == 0 then "" else "seconds=" ++ toString rest) ++ "))"

def timeFields (t : TimeOfDay) : String :=
  toString t.hour ++ ", " ++ toString t.minute
    ++ (if t.second == 0 && t.microsecond == 0 then "" else ", " ++ toString t.second)
    ++ (if t.microsecond == 0 then "" else ", " ++ toString t.microsecond)

def dateFields (d : Date) : String :=
  toString d.year ++ ", " ++ toString d.month ++ ", " ++ toString d.day

def Timestamp.display (t : Timestamp) : String :=
  "datetime.datetime(" ++ dateFields t.date ++ ", " ++ timeFields t.time
    ++ (match t.offset with
      | none => ""
      | some seconds => ", tzinfo=" ++ offsetDisplay seconds)
    ++ ")"

def Verdict.display (v : Verdict) : String :=
  "KeywordResult." ++ (match v with
    | .success => "SUCCESS"
    | .failure => "FAILURE"
    | .noVerdict => "NO_VERDICT")

mutual
/-- How a value reads inside a list or a mapping. -/
def Value.display : Value → Except TextFault String
  | .null => .ok "None"
  | .bool b => .ok (if b then "True" else "False")
  | .int n => intText n
  | .float x => .ok (floatText x)
  | .text s => .ok (Text.quoted s)
  | .list items => do
    let parts ← Value.displays items
    return "[" ++ ", ".intercalate parts ++ "]"
  | .dict entries => do
    let parts ← Value.displayEntries entries
    return "\x7b" ++ ", ".intercalate parts ++ "\x7d"
  | .datetime t => .ok t.display
  | .date d => .ok ("datetime.date(" ++ dateFields d ++ ")")
  | .time t => .ok ("datetime.time(" ++ timeFields t ++ ")")
  | .verdict v => .ok ("<" ++ v.display ++ ": " ++ Text.quoted v.label ++ ">")
  | .textless message => .error (.refused message)

def Value.displays : List Value → Except TextFault (List String)
  | [] => .ok []
  | v :: vs => do
    let first ← Value.display v
    let rest ← Value.displays vs
    return first :: rest

def Value.displayEntries : List (String × Value) → Except TextFault (List String)
  | [] => .ok []
  | (key, v) :: vs => do
    let first ← Value.display v
    let rest ← Value.displayEntries vs
    return (Text.quoted key ++ ": " ++ first) :: rest
end

def Value.toText : Value → Except TextFault String
  | .text s => .ok s
  | .datetime t => .ok t.text
  | .date d => .ok d.text
  | .time t => .ok t.text
  | .verdict v => .ok v.display
  | v => v.display

def Value.kindName : Value → String
  | .null => "NoneType"
  | .bool _ => "bool"
  | .int _ => "int"
  | .float _ => "float"
  | .text _ => "str"
  | .list _ => "list"
  | .dict _ => "dict"
  | .datetime _ => "datetime"
  | .date _ => "date"
  | .time _ => "time"
  | .verdict _ => "KeywordResult"
  | .textless _ => "Unprintable"

/-- How a value reads in a spreadsheet cell: whole numbers without a point, nothing as no text. -/
def Value.cellText : Value → Except TextFault String
  | .null => .ok ""
  | .bool b => .ok (if b then "true" else "false")
  | .float x => .ok (if isWholeFloat x then fixedFloatText 0 x else floatText x)
  | v => v.toText

end KeywordSuite
