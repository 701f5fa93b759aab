import KeywordSuite.Rehearsal.Run

/-! # The program

Reads the command line, the environment and the suite file, rehearses the run, shows what it has to
show and writes the texts it left. The clock of a rehearsal starts at noon of a fixed day.
-/

namespace KeywordSuite

def Notice.lines : Notice → List String
  | .text marked => [marked]
  | .table title columns rows => title :: (columns :: rows).map (" | ".intercalate ·)
  | .panel marked title _ => title.toList ++ [marked]

namespace CommandLine

def environment : IO (Entries String) := do
  let bound ← Settings.fieldNames.mapM fun name => do
    let name := Text.upper (Settings.environmentPrefix ++ name)
    return (← IO.getEnv name).map fun v => (name, v)
  return bound.filterMap id

def readFiles (paths : List FilePath) (files : Files) : IO Files :=
  paths.foldlM (fun files path => do
    let text ← try some <$> IO.FS.readFile path.text catch _ => pure none
    return match text with
      | none => files
      | some text =>
        ((files.makePath 0.0 path.parent).toOption.bind fun files =>
          (files.write path (.text text) 0.0).toOption).getD files) files

def writeFiles (old new : Files) : IO Unit :=
  new.fileList.forM fun name => do
    let path := FilePath.ofText name
    let before := (old.readText path).toOption
    match (new.readText path).toOption with
    | some text =>
      if before ≠ some text then
        IO.FS.createDirAll path.parent.text
        IO.FS.writeFile name text
    | none => return ()

def start : Timestamp := ⟨⟨2024, 1, 1⟩, ⟨12, 0, 0, 0⟩, none⟩

def rehearse (o : CommandOptions) : IO UInt32 := do
  let stage : Stage := Host.start start ["rehearsal"] {}
  let files ← readFiles (Settings.environmentFile :: o.jsonSuite.toList) stage.files
  let (ended, w) := Stage.rehearse (← environment) o { stage with files }
  writeFiles files w.outer.files
  for (level, message) in w.outer.log.reverse do
    IO.eprintln (level.label ++ " " ++ message)
  match ended with
  | .ok c =>
    for line in c.shown.flatMap Notice.lines do
      IO.println line
    return c.status.number.toUInt32
  | .error fault =>
    IO.eprintln (fault.label ++ ": " ++ fault.message)
    return 1

end CommandLine

end KeywordSuite

def main (arguments : List String) : IO UInt32 := do
  match KeywordSuite.CommandOptions.read arguments with
  | .ok o => KeywordSuite.CommandLine.rehearse o
  | .error stop =>
    match stop with
    | .help => IO.print stop.text
    | .misuse _ => IO.eprint stop.text
    return stop.exitStatus.toUInt32
