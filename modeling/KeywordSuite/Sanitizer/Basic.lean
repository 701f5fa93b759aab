import KeywordSuite.Sanitizer.Pattern
import KeywordSuite.Text.Search
import KeywordSuite.Value
import KeywordSuite.Entries

/-! # The sanitizer

Masks credentials in texts by patterns, and in mappings also by the keys they are stored under.
-/

namespace KeywordSuite

structure Sanitizer where
  /-- Parts of key names, in lower case. -/
  sensitiveKeys : List String
  patterns : List CredentialPattern

namespace Sanitizer

def defaultKeys : List String :=
  ["password", "passwd", "pwd", "secret", "token", "api_key", "apikey", "authorization"]

def defaultPatterns : List CredentialPattern :=
  [Credential.keyValue, Credential.bearerToken, Credential.urlCredentials]

/-- The sanitizer of some sensitive keys, or of the default ones if there are none. -/
def new (keys : List String) : Sanitizer :=
  ⟨(if keys.isEmpty then defaultKeys else keys).map Text.lower, defaultPatterns⟩

def standard : Sanitizer := new []

def addPattern (s : Sanitizer) (p : CredentialPattern) : Sanitizer :=
  { s with patterns := s.patterns ++ [p] }

def disable (s : Sanitizer) (names : List String) : Sanitizer :=
  { s with patterns := s.patterns.map fun p =>
      { p with enabled := p.enabled && !names.contains p.name } }

def sanitizeChars (s : Sanitizer) (cs : List Char) : List Char :=
  (s.patterns.filter (·.enabled)).foldl (fun text p => p.maskText text) cs

def sanitizeString (s : Sanitizer) (text : String) : String :=
  String.ofList (s.sanitizeChars text.toList)

def isSensitiveKey (s : Sanitizer) (key : String) : Bool :=
  let name := (Text.lower key).toList
  s.sensitiveKeys.any fun part => Text.holds part.toList name

def isBlankValue : Value → Bool
  | .null => true
  | .text s => s = ""
  | _ => false

mutual
def sanitizeValue (s : Sanitizer) : Value → Value
  | .text t => .text (s.sanitizeString t)
  | .verdict v => .text (s.sanitizeString v.label)
  | .dict entries => .dict (s.sanitizeMapping entries)
  | v => v

/-- A mapping with the values under sensitive keys masked and every other text sanitized. -/
def sanitizeMapping (s : Sanitizer) : Entries Value → Entries Value
  | [] => []
  | (key, v) :: rest =>
    (key, if s.isSensitiveKey key && !isBlankValue v then .text (String.ofList mask)
      else s.sanitizeValue v) :: s.sanitizeMapping rest
end

/-- A text item of a list of arguments; other items are kept. -/
def sanitizeItem (s : Sanitizer) : Value → Value
  | .text t => .text (s.sanitizeString t)
  | .verdict v => .text (s.sanitizeString v.label)
  | v => v

end Sanitizer

end KeywordSuite
