import KeywordSuite.Fault.Basic
import KeywordSuite.Json.Writer
import KeywordSuite.Number.Reading

/-! # Tagged values

Rehearsals are described in JSON and answer in JSON, which has no floats of their own kind, no dates
and no faults. Such a value is a mapping with one key that starts with a dollar sign, and a fault is
a mapping with fixed keys.
-/

namespace KeywordSuite

namespace Tagged

def verdictOf (s : String) : Verdict :=
  if s = "success" then .success else if s = "failure" then .failure else .noVerdict

def tagged? : Entries Value → Option Value
  | [("$float", .text s)] => (readFloat? s).map .float
  | [("$datetime", .text s)] => (Timestamp.read? s).map .datetime
  | [("$date", .text s)] => (Date.read? s).map .date
  | [("$time", .text s)] => (TimeOfDay.read? s).map .time
  | [("$result", .text s)] => some (.verdict (verdictOf s))
  | [("$unprintable", .text s)] => some (.textless s)
  | _ => none

mutual
def decode : Value → Value
  | .list vs => .list (decodeItems vs)
  | .dict kvs => (tagged? kvs).getD (.dict (decodeEntries kvs))
  | v => v

def decodeItems : List Value → List Value
  | [] => []
  | v :: vs => decode v :: decodeItems vs

def decodeEntries : Entries Value → Entries Value
  | [] => []
  | (key, v) :: kvs => (key, decode v) :: decodeEntries kvs
end

mutual
def encode : Value → Value
  | .list vs => .list (encodeItems vs)
  | .dict kvs => .dict (encodeEntries kvs)
  | .float x => .dict [("$float", .text (floatText x))]
  | .datetime t => .dict [("$datetime", .text (t.isoText "T"))]
  | .date d => .dict [("$date", .text d.text)]
  | .time t => .dict [("$time", .text t.text)]
  | .verdict v => .text v.label
  | v => v

def encodeItems : List Value → List Value
  | [] => []
  | v :: vs => encode v :: encodeItems vs

def encodeEntries : Entries Value → Entries Value
  | [] => []
  | (key, v) :: kvs => (key, encode v) :: encodeEntries kvs
end

def insertByKey (key : String) (v : Value) : Entries Value → Entries Value
  | [] => [(key, v)]
  | (k, w) :: rest => if key ≤ k then (key, v) :: (k, w) :: rest else (k, w) :: insertByKey key v rest

mutual
def sortKeys : Value → Value
  | .list vs => .list (sortItems vs)
  | .dict kvs => .dict (sortEntries kvs)
  | v => v

def sortItems : List Value → List Value
  | [] => []
  | v :: vs => sortKeys v :: sortItems vs

def sortEntries : Entries Value → Entries Value
  | [] => []
  | (key, v) :: kvs => insertByKey key (sortKeys v) (sortEntries kvs)
end

/-! ## Faults -/

def stepValue : FieldStep → Value
  | .name s => .text s
  | .index n => .int n

def issueValue (i : FieldIssue) : Value :=
  .dict [("type", .text i.complaint.code), ("loc", .list (i.path.map stepValue)),
    ("msg", .text i.complaint.text)]

/-- A message with the text of an invalid cause left out, which is shown beside it. -/
def shownMessage (message : String) : Option Fault → String
  | some (.invalid model issues) => message.replace (Fault.invalid model issues).message "<cause>"
  | _ => message

def ofFault : Fault → Value
  | .plain kind message => .dict [("error", .text kind.labels.2), ("message", .text message)]
  | .invalid model issues =>
    .dict [("error", .text "ValidationError"), ("title", .text model),
      ("errors", .list (issues.map issueValue))]
  | .suite subject message code details none =>
    let f : Fault := .suite subject message code details none
    .dict [("error", .text f.label), ("message", .text message), ("code", .text f.code),
      ("details", .dict (encodeEntries f.details)), ("cause", .null)]
  | .suite subject message code details (some cause) =>
    let f : Fault := .suite subject message code details (some cause)
    .dict [("error", .text f.label), ("message", .text (shownMessage message (some cause))),
      ("code", .text f.code), ("details", .dict (encodeEntries f.details)), ("cause", ofFault cause)]
  | .interrupt message => .dict [("error", .text "KeyboardInterrupt"), ("message", .text message)]

def describedKinds : List FaultKind :=
  [.value, .runtime, .system, .wrongType, .connectionRefused, .timeout, .mail, .fileMissing,
    .missingAttribute, .overflow]

/-- The fault of a kind and a message; a kind that is not known is a general one of the suite. -/
def toFault (kind message : String) (source : Option String) : Fault :=
  if kind = "KeyboardInterrupt" then .interrupt message
  else if kind = "TestDefinitionError" then .definition message source none
  else match describedKinds.find? fun k => k.labels.2 = kind with
    | some k => .plain k message
    | none => .suite .general message none [] none

def ofExcept : Except Fault Value → Value
  | .ok v => encode v
  | .error fault => ofFault fault

end Tagged

end KeywordSuite
