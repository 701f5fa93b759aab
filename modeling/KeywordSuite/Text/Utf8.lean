import KeywordSuite.Fault.Basic

/-! # Bytes of text

Texts in files are UTF-8. A fault names the first bytes that no text contains, and why.
-/

namespace KeywordSuite

namespace Text

structure Utf8Fault where
  /-- Where the bad bytes start, and how many there are. -/
  start : Nat
  count : Nat
  first : Nat
  reason : String
  deriving DecidableEq, Repr

def Utf8Fault.toFault (f : Utf8Fault) : Fault :=
  .plain .encoding (
    if f.count == 1 then
      "'utf-8' codec can't decode byte 0x" ++ padLeft 2 '0' (hexDigits f.first) ++ " in position "
        ++ toString f.start ++ ": " ++ f.reason
    else
      "'utf-8' codec can't decode bytes in position " ++ toString f.start ++ "-"
        ++ toString (f.start + f.count - 1) ++ ": " ++ f.reason)

def isTail (b : Nat) : Bool := 0x80 ≤ b && b ≤ 0xbf

/-- Whether a second byte may follow a lead byte. -/
def isSecond (lead b : Nat) : Bool :=
  isTail b && (lead != 0xe0 || 0xa0 ≤ b) && (lead != 0xed || b < 0xa0)
    && (lead != 0xf0 || 0x90 ≤ b) && (lead != 0xf4 || b < 0x90)

def tailBits (b : Nat) : Nat := b % 64

/-- The length of the sequence that a lead byte opens. -/
def sequenceLength? (lead : Nat) : Option Nat :=
  if lead < 0x80 then some 1
  else if 0xc2 ≤ lead && lead ≤ 0xdf then some 2
  else if 0xe0 ≤ lead && lead ≤ 0xef then some 3
  else if 0xf0 ≤ lead && lead ≤ 0xf4 then some 4
  else none

/-- Checks the bytes after a lead byte: how many were good, and whether the data ended. -/
def goodTail (lead : Nat) (owed : Nat) (first : Bool) : List Nat → Nat × Bool
  | [] => (0, owed != 0)
  | b :: rest =>
    if owed == 0 then (0, false)
    else if (if first then isSecond lead b else isTail b) then
      let (n, ended) := goodTail lead (owed - 1) false rest
      (n + 1, ended)
    else (0, false)

def leadBits (length lead : Nat) : Nat :=
  if length == 1 then lead else if length == 2 then lead % 32 else if length == 3 then lead % 16
  else lead % 8

/-- Decodes bytes from a position on; `owed` bytes still belong to the character before. -/
def decodeFrom (position : Nat) (owed : Nat) : List Nat → Except Utf8Fault (List Char)
  | [] => .ok []
  | b :: rest =>
    match owed with
    | owed + 1 => decodeFrom (position + 1) owed rest
    | 0 =>
      match sequenceLength? b with
      | none => .error ⟨position, 1, b, "invalid start byte"⟩
      | some length =>
        let (good, ended) := goodTail b (length - 1) true rest
        if good == length - 1 then do
          let code := (rest.take good).foldl (fun n t => n * 64 + tailBits t) (leadBits length b)
          let more ← decodeFrom (position + 1) good rest
          return Char.ofNat code :: more
        else if ended then .error ⟨position, good + 1, b, "unexpected end of data"⟩
        else .error ⟨position, good + 1, b, "invalid continuation byte"⟩

def decodeUtf8 (bytes : List Nat) : Except Fault String :=
  match decodeFrom 0 0 bytes with
  | .ok cs => .ok (String.ofList cs)
  | .error f => .error f.toFault

end Text

end KeywordSuite
