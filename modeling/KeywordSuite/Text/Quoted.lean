import KeywordSuite.Text.Printable
import KeywordSuite.Number.Layout

/-! # Quoted texts

A text inside a list or a mapping is quoted: in single quotes, or in double quotes if it holds a
single quote and no double quote. Unprintable characters are escaped by their code point.
-/

namespace KeywordSuite

namespace Text

def hexDigits (n : Nat) : String := String.ofList (Nat.toDigits 16 n)

def escapeCode (n : Nat) : String :=
  if n < 0x100 then "\\x" ++ padLeft 2 '0' (hexDigits n)
  else if n < 0x10000 then "\\u" ++ padLeft 4 '0' (hexDigits n)
  else "\\U" ++ padLeft 8 '0' (hexDigits n)

def quoteChar (quote c : Char) : String :=
  if c == quote || c == '\\' then String.ofList ['\\', c]
  else if c == '\n' then "\\n"
  else if c == '\t' then "\\t"
  else if c == '\r' then "\\r"
  else if isPrintable c then String.ofList [c]
  else escapeCode c.toNat

def quoteMark (cs : List Char) : Char :=
  if cs.contains '\'' && !cs.contains '"' then '"' else '\''

def quoted (s : String) : String :=
  let mark := quoteMark s.toList
  let edge := String.ofList [mark]
  edge ++ String.join (s.toList.map (quoteChar mark)) ++ edge

end Text

end KeywordSuite
