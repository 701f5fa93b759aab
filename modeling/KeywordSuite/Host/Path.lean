/-! # Paths

A path is a root and the names below it. Empty names and single dots are dropped, double dots are
kept; a path with no names and no root is the current directory.
-/

namespace KeywordSuite

structure FilePath where
  /-- `/` or `//` for an absolute path, nothing for a relative one. -/
  root : String
  parts : List String
  deriving DecidableEq, Repr, Inhabited

namespace FilePath

def splitNames (cs : List Char) : List String :=
  ((cs.splitOn '/').map String.ofList).filter fun name => name ≠ "" && name ≠ "."

def rootOf : List Char → String
  | '/' :: '/' :: '/' :: _ => "/"
  | '/' :: '/' :: _ => "//"
  | '/' :: _ => "/"
  | _ => ""

def ofText (s : String) : FilePath := ⟨rootOf s.toList, splitNames s.toList⟩

def isAbsolute (p : FilePath) : Bool := p.root ≠ ""

def text (p : FilePath) : String :=
  if p.root = "" && p.parts.isEmpty then "." else p.root ++ "/".intercalate p.parts

/-- The path of `q` from the directory `p`. -/
def join (p q : FilePath) : FilePath :=
  if q.isAbsolute then q else ⟨p.root, p.parts ++ q.parts⟩

def joinText (p : FilePath) (s : String) : FilePath := p.join (ofText s)

def parent (p : FilePath) : FilePath := ⟨p.root, p.parts.dropLast⟩

def name (p : FilePath) : String := p.parts.getLastD ""

/-- The last dot of a name and what follows it, unless the dot is the name's first or last. -/
def suffix (p : FilePath) : String :=
  let reversed := p.name.toList.reverse
  let ending := reversed.takeWhile (· != '.')
  let before := reversed.dropWhile (· != '.')
  if ending.isEmpty || before.length ≤ 1 then "" else String.ofList ('.' :: ending.reverse)

/-- Whether a name holds the character that ends names, so that no file can have it. -/
def isBroken (p : FilePath) : Bool := p.parts.any fun name => name.toList.contains '\x00'

/-- The names of an absolute path after one more name; a double dot goes back. -/
def walk (names : List String) (name : String) : List String :=
  if name = ".." then names.dropLast else names ++ [name]

/-- The names from the root to a path, as seen from the working directory. -/
def resolve (p : FilePath) (working : List String) : List String :=
  p.parts.foldl walk (if p.isAbsolute then [] else working)

/-- The names from one directory to a place, both given from the root. -/
def relativeNames : List String → List String → List String
  | place, [] => place
  | [], base => base.map fun _ => ".."
  | name :: place, b :: base =>
    if name = b then relativeNames place base
    else (b :: base).map (fun _ => "..") ++ (name :: place)

/-- The text of the way from one directory to a place. -/
def relativeText (place base : List String) : String :=
  let names := relativeNames place base
  if names.isEmpty then "." else "/".intercalate names

end FilePath

end KeywordSuite
