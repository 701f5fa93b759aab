import KeywordSuite.Settings.Basic
import KeywordSuite.Settings.EnvironmentFile
import KeywordSuite.Host.Basic

/-! # Sources of settings

Settings come from given values, the environment, an environment file and defaults, in falling
order of weight. Mappings from two sources are merged.
-/

namespace KeywordSuite

namespace Settings

/-- How the name of a setting starts in the environment. -/
def environmentPrefix : String := "keyrunner_"

/-- The settings that have to be JSON text in the environment. -/
def jsonFields : List String := ["base_urls"]

def fieldNames : List String := (match read [] with
  | .valid s => s.toEntries
  | .wrong _ => []).keys

/-- Bindings by their name in lower case; the last of a name counts. -/
def foldNames {α : Type} (bindings : Entries α) : Entries α :=
  bindings.foldl (fun acc (name, v) => acc.set (Text.lower name) v) []

def decodeField (source name text : String) : Except Fault Value :=
  if jsonFields.contains name then
    (Json.read text).mapError fun _ =>
      .plain .settingsSource ("error parsing value for field \"" ++ name ++ "\" from source \""
        ++ source ++ "\"")
  else .ok (.text text)

/-- The settings among bindings; a JSON setting that is null counts as not given. -/
def fromBindings (source : String) (bindings : Entries (Option String)) :
    Except Fault (Entries Value) := do
  let folded := foldNames bindings
  let found ← fieldNames.filterMapM fun name => do
    match folded.get? (environmentPrefix ++ name) with
    | some (some text) =>
      match ← decodeField source name text with
      | .null => return none
      | v => return some (name, v)
    | _ => return none
  return found

def fromEnvironment (environment : Entries String) : Except Fault (Entries Value) :=
  fromBindings "EnvSettingsSource" (environment.map fun (name, v) => (name, some v))

def fromFile (environment : Entries String) (text : Option String) : Except Fault (Entries Value) :=
  match text with
  | none => .ok []
  | some text =>
    fromBindings "DotEnvSettingsSource" (EnvironmentFile.read true environment text)

mutual
/-- A value under one of more weight; two mappings are merged. -/
def mergeValue : Value → Value → Value
  | .dict low, .dict high => .dict (mergeEntries low high)
  | _, high => high

def mergeEntries (low : Entries Value) : Entries Value → Entries Value
  | [] => low
  | (name, v) :: rest =>
    let merged := match low.get? name with
      | some old => mergeValue old v
      | none => v
    mergeEntries (low.set name merged) rest
end

/-- Settings from given values, the environment and the text of an environment file. -/
def load (given : Entries Value) (environment : Entries String) (file : Option String) :
    Except Fault Settings := do
  let outer ← fromEnvironment environment
  let inner ← fromFile environment file
  (read (mergeEntries (mergeEntries inner outer) (foldNames given))).toExcept model

def environmentFile : FilePath := .ofText ".env"

def makeDirectories {ε : Type} (s : Settings) : Act (Host ε) Unit := do
  Host.makePath s.reportsDir
  Host.makePath s.screenshotsDir

/--
The settings of a run: the environment file is added to the environment first, and the directories
for output are made.
-/
def forRun {ε : Type} (environment : Entries String) : Act (Host ε) Settings := do
  let files := (← get).files
  let file ← match files.find environmentFile with
    | .ok (.file ..) => some <$> Act.ofExcept (files.readText environmentFile)
    | _ => pure none
  let environment := match file with
    | some text => EnvironmentFile.load environment text
    | none => environment
  let s ← Act.ofExcept (load [] environment file)
  s.makeDirectories
  return s

end Settings

end KeywordSuite
