import KeywordSuite.Json.Writer
import KeywordSuite.Log.Record
import KeywordSuite.Sanitizer.Basic

/-! # Sanitized and formatted records

Records are sanitized in place, so that whoever sees a record later sees it masked. A record is
written as one line of plain text or of JSON.
-/

namespace KeywordSuite

namespace Sanitizer

def sanitizeMessage (s : Sanitizer) : Value → Value
  | .text t => .text (s.sanitizeString t)
  | .verdict v => .text (s.sanitizeString v.label)
  | v => v

def sanitizeArguments (s : Sanitizer) : LogArguments → LogArguments
  | .none => .none
  | .items vs => .items (vs.map s.sanitizeItem)
  | .named entries => .named (s.sanitizeMapping entries)

def sanitizeRecord (s : Sanitizer) (r : LogRecord) : LogRecord :=
  { r with message := s.sanitizeMessage r.message, arguments := s.sanitizeArguments r.arguments }

end Sanitizer

namespace LogRecord

def contextFields : List String := ["test_id", "test_name", "keyword", "unit_id", "event_type"]

def faultText (f : Fault) : String :=
  if f.message = "" then f.fullLabel else f.fullLabel ++ ": " ++ f.message

def jsonEntries (r : LogRecord) (text : String) (now : Timestamp) : Entries Value :=
  [("timestamp", .text (now.isoText "T")),
    ("level", .text r.level.label),
    ("logger", .text r.logger),
    ("message", .text text),
    ("module", .text r.moduleName),
    ("function", .text r.function),
    ("line", .int r.line),
    ("thread", .text r.thread)]
  ++ contextFields.filterMap (fun name => (r.extra.get? name).map fun v => (name, v))
  ++ (match r.fault with
    | some f => [("exception", .text (faultText f))]
    | none => [])

/-- A JSON line. With a sanitizer, the record and then the entries are sanitized. -/
def jsonLine (sanitizer : Option Sanitizer) (r : LogRecord) (now : Timestamp) : Except Fault String := do
  let r := match sanitizer with
    | some s => s.sanitizeRecord r
    | none => r
  let text ← r.text
  let entries := r.jsonEntries text now
  let entries := match sanitizer with
    | some s => s.sanitizeMapping entries
    | none => entries
  (Json.write (.dict entries)).mapError Fault.ofTextFault

/-- `2024-05-01 14:30:00,000` -/
def clockText (now : Timestamp) : String :=
  now.secondText ++ "," ++ padLeft 3 '0' (toString (now.time.microsecond / 1000))

def plainLine (r : LogRecord) (now : Timestamp) : Except Fault String := do
  let text ← r.text
  return clockText now ++ " - " ++ r.thread ++ " - " ++ r.logger ++ " - " ++ r.level.label ++ " - "
    ++ text
    ++ (match r.fault with
      | some f => "\n" ++ faultText f
      | none => "")

end LogRecord

end KeywordSuite
