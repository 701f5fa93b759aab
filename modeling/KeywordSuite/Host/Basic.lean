import KeywordSuite.Host.Files
import KeywordSuite.Log.Level
import KeywordSuite.Program

/-! # The host

A clock, the files and the log, beside a state of whatever lies further out. The clock starts at a
fixed point and moves only as time passes on it.
-/

namespace KeywordSuite

structure Host (ε : Type) where
  /-- Where the clock started, on universal time without an offset. -/
  origin : Timestamp
  elapsed : Float
  files : Files
  /-- What was logged, newest first. -/
  log : List (LogLevel × String)
  outer : ε

namespace Host

variable {ε α : Type}

def start (origin : Timestamp) (working : List String) (outer : ε) : Host ε :=
  ⟨origin, 0.0, Files.empty working, [], outer⟩

/-- Local time, which shows no offset. -/
def localNow (h : Host ε) : Timestamp :=
  .ofClockMicroseconds (h.origin.clockMicroseconds + secondsToMicroseconds h.elapsed) none

/-- Universal time. -/
def now (h : Host ε) : Timestamp := { h.localNow with offset := some 0 }

def epochSeconds (h : Host ε) : Float :=
  intToFloat (h.origin.clockMicroseconds / 1000000) + h.elapsed

def advance (seconds : Float) (h : Host ε) : Host ε := { h with elapsed := h.elapsed + seconds }

def note (level : LogLevel) (message : String) (h : Host ε) : Host ε :=
  { h with log := (level, message) :: h.log }

def noteAll (lines : List (LogLevel × String)) (h : Host ε) : Host ε :=
  { h with log := lines.reverse ++ h.log }

def logging (level : LogLevel) (message : String) : Act (Host ε) Unit := modify (note level message)

/-- Longest sleep, in seconds, that a clock takes. -/
def sleepLimit : Float := 9000000000.0

/-- Lets time pass; a duration that the clock does not take is refused. -/
def sleep (seconds : Float) : Act (Host ε) Unit :=
  if seconds != seconds then throw (.plain .value "Invalid value NaN (not a number)")
  else if sleepLimit < seconds then
    throw (.plain .overflow "timestamp too large to convert to C _PyTime_t")
  else modify (advance seconds)

def onFiles (f : Files → Except Fault Files) : Act (Host ε) Unit := do
  let h ← get
  let files ← Act.ofExcept (f h.files)
  set { h with files }

def makePath (path : FilePath) : Act (Host ε) Unit := do
  let made := (← get).epochSeconds
  onFiles fun files => files.makePath made path

def writeFile (path : FilePath) (content : FileContent) : Act (Host ε) Unit := do
  let h ← get
  onFiles fun files => (files.write path content h.epochSeconds).mapError fun f => f.toFault path

end Host

end KeywordSuite
