import KeywordSuite.Host.Basic
import KeywordSuite.Log.Format
import KeywordSuite.Text.Upper

/-! # The log of a run

A log has a console handler and, where a file is given, a file handler. Each takes the records at or
above its level, in order; one that sanitizes leaves the record masked for those after it. A record
that cannot be formatted is dropped by the handler that meets it.
-/

namespace KeywordSuite

def reservedAttributes : List String :=
  ["message", "asctime", "name", "msg", "args", "levelname", "levelno", "pathname", "filename",
    "module", "exc_info", "exc_text", "stack_info", "lineno", "funcName", "created", "msecs",
    "relativeCreated", "thread", "threadName", "processName", "process"]

/-- The fault of extra attributes that would replace one of a record's own. -/
def extraFault? (extra : Entries Value) : Option Fault :=
  (extra.keys.find? reservedAttributes.contains).map fun name =>
    .plain .missingKey ("\"Attempt to overwrite " ++ Text.quoted name ++ " in LogRecord\"")

inductive LogTarget
  /-- The decorated console, on the error stream. -/
  | console
  /-- The standard output. -/
  | output
  | file (path : String)
  deriving DecidableEq, Repr

structure LogHandler where
  target : LogTarget
  threshold : Nat
  /-- Whether lines are JSON, and if so whether they are sanitized on their own. -/
  asJson : Bool
  /-- Whether records are sanitized before the handler sees them. -/
  wrapped : Bool
  sanitize : Bool
  deriving DecidableEq, Repr

structure LogSetup where
  rootLevel : Nat
  handlers : List LogHandler
  deriving DecidableEq, Repr

def levelNumbers : List (String × Nat) := [
  ("CRITICAL", 50), ("FATAL", 50), ("ERROR", 40), ("WARNING", 30), ("WARN", 30), ("INFO", 20),
  ("DEBUG", 10), ("NOTSET", 0)]

def levelNumber (name : String) : Except Fault Nat :=
  let upper := Text.upper name
  match levelNumbers.lookup upper with
  | some n => .ok n
  | none => .error (.plain .missingAttribute ("module 'logging' has no attribute '" ++ upper ++ "'"))

namespace LogSetup

def consoleHandler (threshold : Nat) (json sanitize : Bool) : LogHandler :=
  if json then ⟨.output, threshold, true, false, sanitize⟩
  else ⟨.console, threshold, false, sanitize, sanitize⟩

def fileHandler (path : String) (threshold : Nat) (json sanitize : Bool) : LogHandler :=
  ⟨.file path, threshold, json, false, sanitize⟩

/-- The log of a level, a format, a file and whether it is sanitized. -/
def new (level format : String) (file : Option String) (sanitize : Bool) : Except Fault LogSetup := do
  let threshold ← levelNumber level
  let json := format = "json"
  return ⟨threshold, consoleHandler threshold json sanitize ::
    (match file with
      | some path => if path = "" then [] else [fileHandler path threshold json sanitize]
      | none => [])⟩

def firstRecord (level format : String) (file : Option String) (sanitize : Bool) : LogRecord where
  logger := "keyrunner"
  level := .info
  message := .text "KeyRunner logging initialized"
  arguments := .none
  moduleName := "logger"
  function := "setup_logging"
  line := 0
  thread := "MainThread"
  fault := none
  extra := [("log_level", .text level), ("log_format", .text format), ("log_file", optionText file),
    ("sanitize_logs", .bool sanitize)]

end LogSetup

namespace LogHandler

/-- The record as a handler leaves it for those after it. -/
def leaves (h : LogHandler) (r : LogRecord) : LogRecord :=
  if h.wrapped || (h.asJson && h.sanitize) then Sanitizer.standard.sanitizeRecord r else r

def line (h : LogHandler) (r : LogRecord) (now : Timestamp) : Except Fault String :=
  if h.asJson then r.jsonLine (if h.sanitize then some Sanitizer.standard else none) now
  else (h.leaves r).plainLine now

def takes (h : LogHandler) (level : LogLevel) : Bool := h.threshold ≤ level.number

end LogHandler

namespace LogSetup

def linesOf (now : Timestamp) : List LogHandler → LogRecord → List (LogTarget × String)
  | [], _ => []
  | h :: hs, r =>
    if h.takes r.level then
      (match h.line r now with
        | .ok line => [(h.target, line)]
        | .error _ => [])
      ++ linesOf now hs (h.leaves r)
    else linesOf now hs r

def emit (s : LogSetup) (r : LogRecord) (now : Timestamp) : List (LogTarget × String) :=
  linesOf now s.handlers r

variable {ε : Type}

def appendText (path : FilePath) (text : String) : Act (Host ε) Unit := do
  let old := match (← get).files.find path with
    | .ok (.file (.text s) _) => s
    | _ => ""
  Host.writeFile path (.text (old ++ text))

def openFiles : List LogHandler → Act (Host ε) Unit
  | [] => return ()
  | h :: hs => do
    if let .file path := h.target then appendText (.ofText path) ""
    openFiles hs

/-- Writes the lines of a record to the files among its targets; the other lines are given back. -/
def writeLines : List (LogTarget × String) → Act (Host ε) (List (LogTarget × String))
  | [] => return []
  | (.file path, line) :: rest => do
    appendText (.ofText path) (line ++ "\n")
    writeLines rest
  | (target, line) :: rest => return (target, line) :: (← writeLines rest)

def write (s : LogSetup) (r : LogRecord) : Act (Host ε) (List (LogTarget × String)) := do
  writeLines (s.emit r (← get).now)

end LogSetup

end KeywordSuite
