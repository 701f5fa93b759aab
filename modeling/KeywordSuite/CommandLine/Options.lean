import KeywordSuite.Host.Path
import KeywordSuite.Number.Reading
import KeywordSuite.Text.Quoted

/-! # Command line options

Every argument is told to be a flag or a value before any is acted on; after a lone double dash all
are values. Then they are acted on from left to right. A long name may be cut short as far as no
other flag starts the same way.
-/

namespace KeywordSuite

inductive Flag
  | help
  | excelDir
  | jsonSuite
  | browser
  | headless
  | workers
  | output
  | noEmail
  | listKeywords
  | debug
  | version
  deriving DecidableEq, Repr

namespace Flag

def all : List Flag :=
  [.help, .excelDir, .jsonSuite, .browser, .headless, .workers, .output, .noEmail, .listKeywords,
    .debug, .version]

def longName : Flag → String
  | .help => "--help"
  | .excelDir => "--excel-dir"
  | .jsonSuite => "--json-suite"
  | .browser => "--browser"
  | .headless => "--headless"
  | .workers => "--workers"
  | .output => "--output"
  | .noEmail => "--no-email"
  | .listKeywords => "--list-keywords"
  | .debug => "--debug"
  | .version => "--version"

def names : Flag → List String
  | .help => ["-h", "--help"]
  | f => [f.longName]

def label (f : Flag) : String := "/".intercalate f.names

def takesValue : Flag → Bool
  | .excelDir | .jsonSuite | .browser | .workers | .output => true
  | .help | .headless | .noEmail | .listKeywords | .debug | .version => false

/-- The flags that may not be given beside a flag. -/
def rivals : Flag → List Flag
  | .excelDir => [.jsonSuite]
  | .jsonSuite => [.excelDir]
  | _ => []

def ofName? (name : String) : Option Flag := all.find? fun f => f.names.contains name

def startingWith (start : String) : List Flag :=
  all.filter fun f => start.toList.isPrefixOf f.longName.toList

end Flag

def browserChoices : List String := ["chrome", "firefox", "edge", "safari"]

inductive UsageProblem
  | ambiguous (given : String) (candidates : List Flag)
  | missingValue (flag : Flag)
  | unwantedValue (flag : Flag) (value : String)
  | notAnInteger (flag : Flag) (value : String)
  | notAChoice (flag : Flag) (value : String) (choices : List String)
  | rivals (flag other : Flag)
  | unrecognized (arguments : List String)
  deriving DecidableEq, Repr

namespace UsageProblem

def ofFlag (flag : Flag) (problem : String) : String :=
  "argument " ++ flag.label ++ ": " ++ problem

def message : UsageProblem → String
  | .ambiguous given candidates =>
    "ambiguous option: " ++ given ++ " could match " ++ ", ".intercalate (candidates.map Flag.longName)
  | .missingValue flag => ofFlag flag "expected one argument"
  | .unwantedValue flag value => ofFlag flag ("ignored explicit argument " ++ Text.quoted value)
  | .notAnInteger flag value => ofFlag flag ("invalid int value: " ++ Text.quoted value)
  | .notAChoice flag value choices =>
    ofFlag flag ("invalid choice: " ++ Text.quoted value ++ " (choose from "
      ++ ", ".intercalate (choices.map Text.quoted) ++ ")")
  | .rivals flag other => ofFlag flag ("not allowed with argument " ++ other.label)
  | .unrecognized arguments => "unrecognized arguments: " ++ " ".intercalate arguments

end UsageProblem

inductive CommandStop
  | help
  | misuse (problem : UsageProblem)
  deriving DecidableEq, Repr

/-- An argument as it stands on the command line. -/
inductive Argument
  | value (text : String)
  /-- A flag, and the value joined to it with an equals sign. -/
  | flag (flag : Flag) (joined : Option String)
  /-- The short flag for help, and the letters right behind it. -/
  | shortHelp (letters : List Char)
  | unknown (text : String)
  | divider
  deriving DecidableEq, Repr

namespace Argument

/-- Whether all is digits, but for one point that has digits behind it. -/
def isUnsignedNumber (cs : List Char) : Bool :=
  match cs.dropWhile Text.isDecimal with
  | [] => !cs.isEmpty
  | '.' :: fraction => !fraction.isEmpty && fraction.all Text.isDecimal
  | _ => false

/-- An argument with a dash that no flag matches: a negative number or a text with a space is a value. -/
def ofUnmatched (text : String) : Argument :=
  if isUnsignedNumber (text.toList.drop 1) || text.toList.contains ' ' then .value text
  else .unknown text

/-- A long name before the first equals sign and the value after it. -/
def splitJoined (text : String) : String × Option String :=
  let name := text.toList.takeWhile (· != '=')
  match text.toList.dropWhile (· != '=') with
  | [] => (text, none)
  | _ :: joined => (String.ofList name, some (String.ofList joined))

def ofLong (text : String) : Except UsageProblem Argument :=
  let (name, joined) := splitJoined text
  match Flag.ofName? name, Flag.startingWith name with
  | some f, _ => .ok (.flag f joined)
  | none, [f] => .ok (.flag f joined)
  | none, [] => .ok (ofUnmatched text)
  | none, many => .error (.ambiguous text many)

/-- Reads an argument that stands before any divider. -/
def read (text : String) : Except UsageProblem Argument :=
  match text.toList with
  | '-' :: '-' :: _ => ofLong text
  | '-' :: 'h' :: letters => .ok (.shortHelp letters)
  | '-' :: _ :: _ => .ok (ofUnmatched text)
  | _ => .ok (.value text)

def readAll : List String → Except UsageProblem (List Argument)
  | [] => .ok []
  | text :: rest =>
    if text = "--" then .ok (.divider :: rest.map Argument.value)
    else do return (← read text) :: (← readAll rest)

end Argument

structure CommandOptions where
  excelDir : Option FilePath := none
  jsonSuite : Option FilePath := none
  browser : Option String := none
  headless : Bool := false
  workers : Option Int := none
  output : Option FilePath := none
  noEmail : Bool := false
  listKeywords : Bool := false
  debug : Bool := false
  version : Bool := false
  deriving DecidableEq, Repr

namespace CommandOptions

def turnOn (o : CommandOptions) : Flag → CommandOptions
  | .headless => { o with headless := true }
  | .noEmail => { o with noEmail := true }
  | .listKeywords => { o with listKeywords := true }
  | .debug => { o with debug := true }
  | .version => { o with version := true }
  | .help | .excelDir | .jsonSuite | .browser | .workers | .output => o

def assign (o : CommandOptions) (flag : Flag) (text : String) : Except UsageProblem CommandOptions :=
  match flag with
  | .excelDir => .ok { o with excelDir := some (.ofText text) }
  | .jsonSuite => .ok { o with jsonSuite := some (.ofText text) }
  | .output => .ok { o with output := some (.ofText text) }
  | .browser =>
    if browserChoices.contains text then .ok { o with browser := some text }
    else .error (.notAChoice flag text browserChoices)
  | .workers =>
    match readInt? text with
    | some n => .ok { o with workers := some n }
    | none => .error (.notAnInteger flag text)
  | .help | .headless | .noEmail | .listKeywords | .debug | .version => .ok o

end CommandOptions

/-- A command line that is acted on: the options so far, the flags with values that were given, and
the arguments that nothing takes. -/
structure CommandReading where
  options : CommandOptions := {}
  given : List Flag := []
  leftOver : List String := []

namespace CommandReading

def leave (r : CommandReading) (text : String) : CommandReading :=
  { r with leftOver := r.leftOver ++ [text] }

def assign (r : CommandReading) (flag : Flag) (text : String) : Except CommandStop CommandReading :=
  match r.options.assign flag text, flag.rivals.find? r.given.contains with
  | .error problem, _ => .error (.misuse problem)
  | .ok _, some other => .error (.misuse (.rivals flag other))
  | .ok options, none => .ok { r with options, given := flag :: r.given }

def turnOn (r : CommandReading) : Flag → Except CommandStop CommandReading
  | .help => .error .help
  | flag => .ok { r with options := r.options.turnOn flag }

/-- Help, unless the letters behind its short flag are a value for it. -/
def helpOfLetters : List Char → CommandStop
  | '=' :: value => .misuse (.unwantedValue .help (String.ofList value))
  | '-' :: rest => .misuse (.unwantedValue .help (String.ofList ('-' :: rest)))
  | 'h' :: rest => helpOfLetters rest
  | _ => .help

def act : List Argument → CommandReading → Except CommandStop CommandReading
  | [], r => .ok r
  | .value text :: rest, r | .unknown text :: rest, r => act rest (r.leave text)
  | .divider :: rest, r => act rest (r.leave "--")
  | .shortHelp letters :: _, _ => .error (helpOfLetters letters)
  | .flag f (some text) :: rest, r =>
    if f.takesValue then do act rest (← r.assign f text)
    else .error (.misuse (.unwantedValue f text))
  | .flag f none :: .value text :: rest, r =>
    if f.takesValue then do act rest (← r.assign f text)
    else do act (.value text :: rest) (← r.turnOn f)
  | .flag f none :: rest, r =>
    if f.takesValue then .error (.misuse (.missingValue f))
    else do act rest (← r.turnOn f)

end CommandReading

def CommandOptions.read (arguments : List String) : Except CommandStop CommandOptions := do
  let arguments ← (Argument.readAll arguments).mapError .misuse
  let r ← CommandReading.act arguments {}
  if r.leftOver.isEmpty then return r.options
  else throw (.misuse (.unrecognized r.leftOver))

end KeywordSuite
