import KeywordSuite.Text.Blank
import KeywordSuite.Text.Lower
import KeywordSuite.Text.Word

/-! # Patterns of credentials

A pattern describes what stands before a secret, the secret, and what stands after it, each as a
sequence of pieces. A piece takes as much as it can; no piece can begin with what the run before
it takes, so that taking less never helps. Masking replaces the secret of every match and
goes on after the match.
-/

namespace KeywordSuite

def mask : List Char := "********".toList

inductive Piece
  | edge
  /-- One of some words, without regard to case. -/
  | anyWord (words : List (List Char))
  /-- One text, letter by letter. -/
  | exactly (text : List Char)
  /-- At least `least` and at most `most` characters of a class. -/
  | run (allowed : Char → Bool) (least : Nat) (most : Option Nat)

namespace Piece

/-- The ASCII letter that a character stands for where case does not matter. -/
def foldChar (c : Char) : Char :=
  if c = 'ı' ∨ c = 'İ' then 'i'
  else if c = 'ſ' then 's'
  else if c = '\u212a' then 'k'
  else c.toLower

def sameLetter (c letter : Char) : Bool := foldChar c = letter

def isFoldedLetter (c : Char) : Bool := 'a' ≤ foldChar c && foldChar c ≤ 'z'

/-- Whether one of the two neighbours of a place is a word character and the other is not. -/
def atEdge (previous : Option Char) (rest : List Char) : Bool :=
  previous.any Text.isWord != rest.head?.any Text.isWord

/-- What is left after a word, without regard to case. -/
def dropWord : List Char → List Char → Option (List Char)
  | [], rest => some rest
  | _ :: _, [] => none
  | letter :: word, c :: rest => if sameLetter c letter then dropWord word rest else none

def dropExactly : List Char → List Char → Option (List Char)
  | [], rest => some rest
  | _ :: _, [] => none
  | d :: text, c :: rest => if c = d then dropExactly text rest else none

/-- How many characters of a class stand at the front, up to a limit. -/
def countRun (allowed : Char → Bool) (most : Option Nat) (cs : List Char) : Nat :=
  let n := (cs.takeWhile allowed).length
  match most with
  | some limit => min n limit
  | none => n

/-- How many characters a piece takes at the front of a text, if it matches there. -/
def take? (previous : Option Char) (cs : List Char) : Piece → Option Nat
  | .edge => if atEdge previous cs then some 0 else none
  | .anyWord words => words.findSome? fun w => (dropWord w cs).map fun _ => w.length
  | .exactly text => (dropExactly text cs).map fun _ => text.length
  | .run allowed least most =>
    let n := countRun allowed most cs
    if least ≤ n then some n else none

/-- The last of some characters, or the one before them. -/
def lastOf (previous : Option Char) (cs : List Char) : Option Char := cs.getLast?.or previous

/-- How many characters a sequence of pieces takes, if all of them match. -/
def takeAll? (previous : Option Char) (cs : List Char) : List Piece → Option Nat
  | [] => some 0
  | p :: ps =>
    match p.take? previous cs with
    | none => none
    | some n =>
      (takeAll? (lastOf previous (cs.take n)) (cs.drop n) ps).map fun m => n + m

end Piece

/-- Where a match lies: the lengths of what is before the secret, of the secret and of what is after. -/
structure Match where
  before : Nat
  secret : Nat
  after : Nat
  deriving DecidableEq, Repr

def Match.length (m : Match) : Nat := m.before + m.secret + m.after

structure CredentialPattern where
  name : String
  before : List Piece
  secret : List Piece
  after : List Piece
  enabled : Bool := true

namespace CredentialPattern

def matchAt? (p : CredentialPattern) (previous : Option Char) (cs : List Char) : Option Match := do
  let before ← Piece.takeAll? previous cs p.before
  let cs₁ := cs.drop before
  let previous₁ := Piece.lastOf previous (cs.take before)
  let secret ← Piece.takeAll? previous₁ cs₁ p.secret
  let cs₂ := cs₁.drop secret
  let previous₂ := Piece.lastOf previous₁ (cs₁.take secret)
  let after ← Piece.takeAll? previous₂ cs₂ p.after
  return ⟨before, secret, after⟩

def masked (m : Match) (cs : List Char) : List Char :=
  cs.take m.before ++ mask ++ (cs.drop (m.before + m.secret)).take m.after

/-- Masks every match of a text; `skip` characters at its front belong to the match before. -/
def maskFrom (p : CredentialPattern) (skip : Nat) (previous : Option Char) : List Char → List Char
  | [] => []
  | c :: cs =>
    match skip with
    | skip + 1 => p.maskFrom skip (some c) cs
    | 0 =>
      match p.matchAt? previous (c :: cs) with
      | some m => masked m (c :: cs) ++ p.maskFrom (m.length - 1) (some c) cs
      | none => c :: p.maskFrom 0 (some c) cs

def maskText (p : CredentialPattern) (cs : List Char) : List Char := p.maskFrom 0 none cs

end CredentialPattern

namespace Credential

def isQuote (c : Char) : Bool := c = '"' || c = '\''

def isValueChar (c : Char) : Bool := !(isQuote c || Text.isBlank c || c = ',' || c = ';')

def isTokenChar (c : Char) : Bool :=
  Piece.isFoldedLetter c || c.isDigit || c = '-' || c = '.' || c = '_' || c = '~' || c = '+' || c = '/'

/-- A character of a URL scheme after its first letter. -/
def isSchemeChar (c : Char) : Bool :=
  Piece.isFoldedLetter c || c.isDigit || c = '+' || c = '.' || c = '-'

def isUserChar (c : Char) : Bool := !(c = '/' || Text.isBlank c || c = ':' || c = '@')

def isPasswordChar (c : Char) : Bool := !(c = '/' || Text.isBlank c || c = '@')

def keyWords : List (List Char) :=
  ["password", "passwd", "pwd", "secret", "token", "api_key", "api-key", "apikey"].map String.toList

/-- A key, a colon or an equals sign, and a value that may be quoted. -/
def keyValue : CredentialPattern where
  name := "key_value"
  before := [.edge, .anyWord keyWords, .run Text.isBlank 0 none,
    .run (fun c => c = ':' || c = '=') 1 (some 1), .run Text.isBlank 0 none, .run isQuote 0 (some 1)]
  secret := [.run isValueChar 1 none]
  after := []

def bearerToken : CredentialPattern where
  name := "bearer_token"
  before := [.anyWord ["bearer".toList], .run Text.isBlank 1 none]
  secret := [.run isTokenChar 1 none, .run (· = '=') 0 none]
  after := []

/-- A scheme, a user name and a password before the host of a URL. -/
def urlCredentials : CredentialPattern where
  name := "url_credentials"
  before := [.edge, .run Piece.isFoldedLetter 1 (some 1), .run isSchemeChar 0 none,
    .exactly "://".toList, .run isUserChar 1 none, .exactly [':']]
  secret := [.run isPasswordChar 1 none]
  after := [.exactly ['@']]

end Credential

end KeywordSuite
