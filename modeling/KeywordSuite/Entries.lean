/-! # Ordered entries

A mapping from names to values that keeps the order in which the names first came.
-/

namespace KeywordSuite

abbrev Entries (α : Type) := List (String × α)

namespace Entries

variable {α : Type}

def get? (entries : Entries α) (key : String) : Option α := List.lookup key entries

def has (entries : Entries α) (key : String) : Bool := (entries.get? key).isSome

/-- Replaces the value of a key in its place, or adds the key at the end. -/
def set : Entries α → String → α → Entries α
  | [], key, value => [(key, value)]
  | (k, v) :: rest, key, value =>
    if k = key then (key, value) :: rest else (k, v) :: set rest key value

def setAll (entries new : Entries α) : Entries α :=
  new.foldl (fun acc (key, value) => acc.set key value) entries

def keys (entries : Entries α) : List String := entries.map (·.1)

end Entries

end KeywordSuite
