import KeywordSuite.Text.Upper
import KeywordSuite.Keyword.Procedure

/-! # The keyword registry

Providers declare keywords, and the registry files them under their canonical names: without blanks
around them and in upper case. The last declaration of a name counts. A provider with a bad
declaration changes nothing.
-/

namespace KeywordSuite

def canonicalName (name : String) : String := Text.upper (Text.strip name)

structure KeywordEntry where
  name : String
  body : KeywordBody
  mandatory : Bool
  description : String
  provider : String

/-- A keyword as a provider declares it; without a body it cannot be run. -/
structure KeywordDeclaration where
  name : String
  body : Option KeywordBody
  mandatory : Bool := true
  description : String := ""

structure KeywordProvider where
  name : String
  declarations : List KeywordDeclaration
  /-- What the provider raises after its declarations. -/
  fault : Option Fault := none

namespace KeywordProvider

def entry (provider : String) (d : KeywordDeclaration) : Except Fault KeywordEntry :=
  if Text.isBlankText d.name then
    .error (.suite (.registration provider none) "Keyword name must not be blank" none [] none)
  else
    match d.body with
    | none =>
      .error (.suite (.registration provider (some d.name))
        ("Implementation of keyword " ++ d.name ++ " is not callable") none [] none)
    | some body => .ok ⟨canonicalName d.name, body, d.mandatory, d.description, provider⟩

/-- The entries of all declarations, unless one of them or the provider itself has a fault. -/
def entries (p : KeywordProvider) : Except Fault (List KeywordEntry) := do
  let entries ← p.declarations.mapM (entry p.name)
  match p.fault with
  | some fault => throw fault
  | none => return entries

end KeywordProvider

/-- Registered keywords by canonical name, in the order the names first came. -/
structure KeywordRegistry where
  keywords : Entries KeywordEntry

abbrev LogLine := LogLevel × String

namespace KeywordRegistry

def empty : KeywordRegistry := ⟨[]⟩

def resolve? (r : KeywordRegistry) (name : Option String) : Option KeywordEntry :=
  name.bind fun n => r.keywords.get? (canonicalName n)

def has (r : KeywordRegistry) (name : Option String) : Bool := (r.resolve? name).isSome

def count (r : KeywordRegistry) : Nat := r.keywords.length

def names (r : KeywordRegistry) : List String := r.keywords.keys.mergeSort fun a b => a ≤ b

def entries (r : KeywordRegistry) : List KeywordEntry := r.names.filterMap r.keywords.get?

def add (r : KeywordRegistry) (e : KeywordEntry) : KeywordRegistry := ⟨r.keywords.set e.name e⟩

def addAll (r : KeywordRegistry) (es : List KeywordEntry) : KeywordRegistry := es.foldl add r

def addLines (r : KeywordRegistry) (e : KeywordEntry) : List LogLine :=
  (match r.keywords.get? e.name with
    | some old =>
      [(.warning, "Keyword " ++ e.name ++ " from " ++ old.provider ++ " replaced by " ++ e.provider)]
    | none => [])
  ++ [(.debug, "Registered keyword: " ++ e.name ++ " (mandatory: "
    ++ (if e.mandatory then "True" else "False") ++ ")")]

def addAllLines : KeywordRegistry → List KeywordEntry → List LogLine
  | _, [] => []
  | r, e :: es => r.addLines e ++ addAllLines (r.add e) es

/-- What registering a provider gives: the new registry, how many keywords it declared, and the log. -/
structure Registration where
  registry : KeywordRegistry
  declared : Nat
  lines : List LogLine

def register (r : KeywordRegistry) (p : KeywordProvider) : Except Fault Registration := do
  let es ← p.entries
  return {
    registry := r.addAll es
    declared := es.length
    lines := r.addAllLines es
      ++ [(.info, "Registered " ++ toString es.length ++ " keywords from " ++ p.name)] }

end KeywordRegistry

end KeywordSuite
