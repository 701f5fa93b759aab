import KeywordSuite.Host.Path
import KeywordSuite.Text.Lines
import KeywordSuite.Text.Utf8

/-! # Files

The tree of files and directories a program sees. Every fault names the path as it was given.
-/

namespace KeywordSuite

abbrev Workbook := Entries (List (List Value))

inductive FileContent
  | text (s : String)
  | bytes (bs : List Nat)
  | workbook (book : Workbook)
  | archive (names : List String)
  | picture

inductive FileNode
  | directory (made : Float)
  | file (content : FileContent) (modified : Float)

namespace FileNode

def isDirectory : FileNode → Bool
  | .directory _ => true
  | .file .. => false

end FileNode

/-- Nodes by their names from the root, in the order they were made, and the working directory. -/
structure Files where
  working : List String
  nodes : List (List String × FileNode)

inductive FileFault
  | missing
  | exists
  | notDirectory
  | isDirectory
  | nameTooLong
  /-- A name holds the character that ends names. -/
  | nameBroken
  deriving DecidableEq, Repr

def FileFault.toFault (f : FileFault) (path : FilePath) : Fault :=
  let shown := ": " ++ Text.quoted path.text
  match f with
  | .missing => .plain .fileMissing ("[Errno 2] No such file or directory" ++ shown)
  | .exists => .plain .fileExists ("[Errno 17] File exists" ++ shown)
  | .notDirectory => .plain .notDirectory ("[Errno 20] Not a directory" ++ shown)
  | .isDirectory => .plain .isDirectory ("[Errno 21] Is a directory" ++ shown)
  | .nameTooLong => .plain .system ("[Errno 36] File name too long" ++ shown)
  | .nameBroken => .plain .value "embedded null byte"

namespace Files

def empty (working : List String) : Files :=
  ⟨working, (List.range working.length).map fun n => (working.take (n + 1), .directory 0.0)⟩

def node? (f : Files) (names : List String) : Option FileNode :=
  if names.isEmpty then some (.directory 0.0) else List.lookup names f.nodes

def nameLimit : Nat := 255

def pathLimit : Nat := 4095

/-- Goes down one name at a time; every place on the way has to be a directory. -/
def descend (f : Files) : List String → List String → Except FileFault (List String)
  | here, [] => .ok here
  | here, name :: rest =>
    match f.node? here with
    | none => .error .missing
    | some (.file ..) => .error .notDirectory
    | some (.directory _) =>
      if nameLimit < name.utf8ByteSize then .error .nameTooLong
      else f.descend (FilePath.walk here name) rest

def locate (f : Files) (path : FilePath) : Except FileFault (List String) :=
  if path.text.contains '\x00' then .error .nameBroken
  else if pathLimit < path.text.utf8ByteSize then .error .nameTooLong
  else f.descend (if path.isAbsolute then [] else f.working) path.parts

def find (f : Files) (path : FilePath) : Except FileFault FileNode := do
  let names ← f.locate path
  match f.node? names with
  | some node => .ok node
  | none => .error .missing

/-- Whether there is something at a path; of a name that is too long this cannot be said. -/
def isThere (f : Files) (path : FilePath) : Except Fault Bool :=
  match f.find path with
  | .ok _ => .ok true
  | .error .nameTooLong => .error (FileFault.nameTooLong.toFault path)
  | .error _ => .ok false

def isDirectory (f : Files) (path : FilePath) : Bool :=
  match f.find path with
  | .ok node => node.isDirectory
  | .error _ => false

def setNode : List (List String × FileNode) → List String → FileNode → List (List String × FileNode)
  | [], names, node => [(names, node)]
  | (n, old) :: rest, names, node =>
    if n = names then (n, node) :: rest else (n, old) :: setNode rest names node

def put (f : Files) (names : List String) (node : FileNode) : Files :=
  { f with nodes := setNode f.nodes names node }

def write (f : Files) (path : FilePath) (content : FileContent) (modified : Float) :
    Except FileFault Files := do
  let names ← f.locate path
  match f.node? names with
  | some (.directory _) => .error .isDirectory
  | _ => return f.put names (.file content modified)

def makeDirectory (made : Float) (f : Files) (path : FilePath) : Except FileFault Files := do
  let names ← f.locate path
  match f.node? names with
  | some _ => .error .exists
  | none => return f.put names (.directory made)

abbrev PathFault := FileFault × FilePath

/-- Makes one directory; one that is already there is left. -/
def ensureDirectory (made : Float) (f : Files) (path : FilePath) : Except PathFault Files :=
  match f.makeDirectory made path with
  | .ok f => .ok f
  | .error fault => if f.isDirectory path then .ok f else .error (fault, path)

/-- Makes a directory, whose names are given last first, and every missing one above it. -/
def ensureDirectories (made : Float) (f : Files) (root : String) : List String → Except PathFault Files
  | [] => f.ensureDirectory made ⟨root, []⟩
  | name :: above =>
    let path : FilePath := ⟨root, (name :: above).reverse⟩
    match f.makeDirectory made path with
    | .error .missing => do
      let f ← f.ensureDirectories made root above
      f.ensureDirectory made path
    | _ => f.ensureDirectory made path

def makePath (made : Float) (f : Files) (path : FilePath) : Except Fault Files :=
  (f.ensureDirectories made path.root path.parts.reverse).mapError fun (fault, p) => fault.toFault p

/-- The names and nodes of what is directly in a directory, in the order they were made. -/
def children (f : Files) (names : List String) : List (String × FileNode) :=
  f.nodes.filterMap fun (place, node) =>
    match place.getLast? with
    | some name => if place.dropLast = names then some (name, node) else none
    | none => none

def listDirectory (f : Files) (path : FilePath) : List (String × FileNode) :=
  match f.locate path with
  | .ok names => if f.isDirectory path then f.children names else []
  | .error _ => []

def remove (f : Files) (path : FilePath) : Files :=
  match f.locate path with
  | .ok names => { f with nodes := f.nodes.filter fun entry => !names.isPrefixOf entry.1 }
  | .error _ => f

/-- The paths of all nodes of a kind below the working directory, sorted. -/
def listing (f : Files) (wanted : FileNode → Bool) : List String :=
  (f.nodes.filterMap fun (names, node) =>
    if f.working.isPrefixOf names && names ≠ f.working && wanted node then
      some ("/".intercalate (names.drop f.working.length))
    else none).mergeSort fun a b => a ≤ b

def fileList (f : Files) : List String := f.listing fun node => !node.isDirectory

def directoryList (f : Files) : List String := f.listing FileNode.isDirectory

/-- The text in a file, with every line break as a line feed. -/
def readText (f : Files) (path : FilePath) : Except Fault String :=
  match f.find path with
  | .error fault => .error (fault.toFault path)
  | .ok (.directory _) => .error (FileFault.isDirectory.toFault path)
  | .ok (.file content _) => do
    let s ← match content with
      | .text s => .ok s
      | .bytes bs => Text.decodeUtf8 bs
      | .workbook _ | .archive _ => .error (Text.Utf8Fault.toFault ⟨10, 1, 0x87, "invalid start byte"⟩)
      | .picture => .error (Text.Utf8Fault.toFault ⟨0, 1, 0x89, "invalid start byte"⟩)
    return String.ofList (Text.plainLines s.toList)

end Files

end KeywordSuite
