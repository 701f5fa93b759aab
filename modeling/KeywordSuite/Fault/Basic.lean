import KeywordSuite.Entries
import KeywordSuite.Value

/-! # Faults

A fault is an ordinary one, an invalid set of fields, one of the suite's own faults, or an
interruption by the user. Boundaries recover from all but the interruption.
-/

namespace KeywordSuite

/-- An execution unit: the calling one, a worker of the running suite, or one with a number. -/
inductive UnitId
  | calling
  | worker (index : Nat)
  | numbered (n : Int)
  deriving DecidableEq, Repr

def UnitId.toValue : UnitId → Value
  | .calling => .text "main"
  | .worker index => .int index
  | .numbered n => .int n

/-- Kinds of ordinary fault, as far as a boundary or a reader tells them apart. -/
inductive FaultKind
  | value
  | runtime
  | system
  | connectionRefused
  | timeout
  | mail
  | fileMissing
  | fileExists
  | isDirectory
  | notDirectory
  | wrongType
  | missingKey
  | missingAttribute
  | overflow
  | index
  | jsonSyntax
  | encoding
  | settingsSource
  | badArchive
  | badWorkbookName
  deriving DecidableEq, Repr

/-- The package a kind is shown with, where there is one, and its name. -/
def FaultKind.labels : FaultKind → String × String
  | .value => ("", "ValueError")
  | .runtime => ("", "RuntimeError")
  | .system => ("", "OSError")
  | .connectionRefused => ("", "ConnectionRefusedError")
  | .timeout => ("", "TimeoutError")
  | .mail => ("smtplib.", "SMTPException")
  | .fileMissing => ("", "FileNotFoundError")
  | .fileExists => ("", "FileExistsError")
  | .isDirectory => ("", "IsADirectoryError")
  | .notDirectory => ("", "NotADirectoryError")
  | .wrongType => ("", "TypeError")
  | .missingKey => ("", "KeyError")
  | .missingAttribute => ("", "AttributeError")
  | .overflow => ("", "OverflowError")
  | .index => ("", "IndexError")
  | .jsonSyntax => ("json.decoder.", "JSONDecodeError")
  | .encoding => ("", "UnicodeDecodeError")
  | .settingsSource => ("pydantic_settings.exceptions.", "SettingsError")
  | .badArchive => ("zipfile.", "BadZipFile")
  | .badWorkbookName => ("openpyxl.utils.exceptions.", "InvalidFileException")

def FaultKind.isSystem : FaultKind → Bool
  | .system | .connectionRefused | .timeout | .mail | .fileMissing | .fileExists | .isDirectory
  | .notDirectory => true
  | _ => false

def FaultKind.isValue : FaultKind → Bool
  | .value | .jsonSyntax | .encoding | .settingsSource => true
  | _ => false

inductive Complaint
  | missing
  | notText
  | textTooShort
  | notBool
  | unreadableBool
  | notInt
  | unreadableInt
  | intTooLong
  | fractionalInt
  | notFinite
  | notNumber
  | unreadableNumber
  | below (limit : Int)
  | above (limit : Int)
  | notList
  | notDict
  | notModel (model : String)
  | notOneOf (choices : String)
  | notPath
  | notDatetime
  | unreadableDatetime
  | frozen
  | refused (reason : String)
  deriving DecidableEq, Repr

def Complaint.code : Complaint → String
  | .missing => "missing"
  | .notText => "string_type"
  | .textTooShort => "string_too_short"
  | .notBool => "bool_type"
  | .unreadableBool => "bool_parsing"
  | .notInt => "int_type"
  | .unreadableInt => "int_parsing"
  | .intTooLong => "int_parsing_size"
  | .fractionalInt => "int_from_float"
  | .notFinite => "finite_number"
  | .notNumber => "float_type"
  | .unreadableNumber => "float_parsing"
  | .below _ => "greater_than_equal"
  | .above _ => "less_than_equal"
  | .notList => "list_type"
  | .notDict => "dict_type"
  | .notModel _ => "model_type"
  | .notOneOf _ => "enum"
  | .notPath => "path_type"
  | .notDatetime => "datetime_type"
  | .unreadableDatetime => "datetime_from_date_parsing"
  | .frozen => "frozen_instance"
  | .refused _ => "value_error"

def Complaint.text : Complaint → String
  | .missing => "Field required"
  | .notText => "Input should be a valid string"
  | .textTooShort => "String should have at least 1 character"
  | .notBool => "Input should be a valid boolean"
  | .unreadableBool => "Input should be a valid boolean, unable to interpret input"
  | .notInt => "Input should be a valid integer"
  | .unreadableInt => "Input should be a valid integer, unable to parse string as an integer"
  | .intTooLong => "Unable to parse input string as an integer, exceeded maximum size"
  | .fractionalInt => "Input should be a valid integer, got a number with a fractional part"
  | .notFinite => "Input should be a finite number"
  | .notNumber => "Input should be a valid number"
  | .unreadableNumber => "Input should be a valid number, unable to parse string as a number"
  | .below limit => "Input should be greater than or equal to " ++ toString limit
  | .above limit => "Input should be less than or equal to " ++ toString limit
  | .notList => "Input should be a valid list"
  | .notDict => "Input should be a valid dictionary"
  | .notModel model => "Input should be a valid dictionary or instance of " ++ model
  | .notOneOf choices => "Input should be " ++ choices
  | .notPath => "Input is not a valid path for <class 'pathlib.Path'>"
  | .notDatetime => "Input should be a valid datetime"
  | .unreadableDatetime => "Input should be a valid datetime or date, input is too short"
  | .frozen => "Instance is frozen"
  | .refused reason => "Value error, " ++ reason

inductive FieldStep
  | name (s : String)
  | index (n : Nat)
  deriving DecidableEq, Repr

def FieldStep.text : FieldStep → String
  | .name s => s
  | .index n => toString n

structure FieldIssue where
  path : List FieldStep
  complaint : Complaint
  deriving DecidableEq, Repr

/-- What one of the suite's own faults is about. -/
inductive FaultSubject
  | general
  | session (browser : Option String) (unit : Option UnitId)
  | absentSession (browser : Option String) (unit : Option UnitId)
  | registration (provider : String) (keyword : Option String)
  | definition (source testId : Option String)
  | delivery (channel : String) (recipients : Option (List String))
  deriving DecidableEq, Repr

/-- The names of a subject's class and of the classes above it. -/
def FaultSubject.ancestry : FaultSubject → List String
  | .general => ["KeyRunnerError"]
  | .session .. => ["SessionError", "KeyRunnerError"]
  | .absentSession .. => ["SessionNotInitializedError", "SessionError", "KeyRunnerError"]
  | .registration .. => ["KeywordRegistrationError", "KeyRunnerError"]
  | .definition .. => ["TestDefinitionError", "KeyRunnerError"]
  | .delivery .. => ["ReportDeliveryError", "KeyRunnerError"]

def FaultSubject.label (s : FaultSubject) : String := s.ancestry.headD ""

def optionText : Option String → Value
  | some s => .text s
  | none => .null

def optionUnit : Option UnitId → Value
  | some u => u.toValue
  | none => .null

def FaultSubject.attributes : FaultSubject → Entries Value
  | .general => []
  | .session browser unit | .absentSession browser unit =>
    [("browser", optionText browser), ("unit_id", optionUnit unit)]
  | .registration provider keyword => [("provider", .text provider), ("keyword", optionText keyword)]
  | .definition source testId => [("source", optionText source), ("test_id", optionText testId)]
  | .delivery channel recipients =>
    [("channel", .text channel), ("recipients", .list ((recipients.getD []).map .text))]

/-- The details a subject adds; recipients that were not given stay absent. -/
def FaultSubject.details : FaultSubject → Entries Value
  | .delivery channel none => [("channel", .text channel), ("recipients", .null)]
  | s => s.attributes

/-- What an absent session's fault says, whatever was asked of it. -/
def absentSessionText : String :=
  "Browser session not initialized or has been closed. Call open() first."

inductive Fault
  | plain (kind : FaultKind) (message : String)
  | invalid (model : String) (issues : List FieldIssue)
  | suite (subject : FaultSubject) (message : String) (code : Option String)
      (details : Entries Value) (cause : Option Fault)
  | interrupt (message : String)

instance : Inhabited Fault := ⟨.interrupt ""⟩

namespace Fault

def isInterrupt : Fault → Bool
  | .interrupt _ => true
  | _ => false

def isSystem : Fault → Bool
  | .plain kind _ => kind.isSystem
  | _ => false

def isValue : Fault → Bool
  | .plain kind _ => kind.isValue
  | .invalid .. => true
  | _ => false

def label : Fault → String
  | .plain kind _ => kind.labels.2
  | .invalid .. => "ValidationError"
  | .suite subject .. => subject.label
  | .interrupt _ => "KeyboardInterrupt"

/-- The label with its package, where the fault is not one of the common kinds. -/
def fullLabel : Fault → String
  | .plain kind _ => kind.labels.1 ++ kind.labels.2
  | .invalid .. => "pydantic_core._pydantic_core.ValidationError"
  | .suite subject .. => "keyrunner.error_handling.exceptions." ++ subject.label
  | .interrupt _ => "KeyboardInterrupt"

def issueText (issue : FieldIssue) : String :=
  "\n" ++ ".".intercalate (issue.path.map FieldStep.text) ++ "\n  " ++ issue.complaint.text
    ++ " [type=" ++ issue.complaint.code ++ "]"

def message : Fault → String
  | .plain _ message => message
  | .invalid model issues =>
    toString issues.length ++ (if issues.length == 1 then " validation error" else " validation errors")
      ++ " for " ++ model ++ String.join (issues.map issueText)
  | .suite _ message .. => message
  | .interrupt message => message

def code : Fault → String
  | .suite subject _ (some code) _ _ => if code == "" then subject.label else code
  | fault => fault.label

def details : Fault → Entries Value
  | .suite subject _ _ details _ => details.setAll subject.details
  | _ => []

def cause? : Fault → Option Fault
  | .suite _ _ _ _ cause => cause
  | _ => none

def toEntries (fault : Fault) (now : Timestamp) : Entries Value := [
  ("error_type", .text fault.label),
  ("error_code", .text fault.code),
  ("message", .text fault.message),
  ("details", .dict fault.details),
  ("timestamp", .text (now.isoText "T")),
  ("cause", optionText (fault.cause?.map message))]

def ofTextFault : TextFault → Fault
  | .refused message => .plain .runtime message
  | .tooManyDigits =>
    .plain .value "Exceeds the limit (4300 digits) for integer string conversion; use sys.set_int_max_str_digits() to increase the limit"

def absentSession (unit : UnitId) : Fault :=
  .suite (.absentSession none (some unit)) absentSessionText none [] none

def definition (message : String) (source : Option String) (cause : Option Fault) : Fault :=
  .suite (.definition source none) message none [] cause

end Fault

def Value.textOrFault (v : Value) : Except Fault String := v.toText.mapError Fault.ofTextFault

def Value.cellTextOrFault (v : Value) : Except Fault String := v.cellText.mapError Fault.ofTextFault

end KeywordSuite
