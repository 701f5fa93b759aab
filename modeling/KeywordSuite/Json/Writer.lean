import KeywordSuite.Fault.Basic

/-! # Writing JSON text

Everything beyond ASCII is escaped, items are parted by `", "` and names from values by `": "`. A
value that JSON has no form for is written as its text.
-/

namespace KeywordSuite

namespace Json

def codeEscape (n : Nat) : String := "\\u" ++ padLeft 4 '0' (Text.hexDigits n)

def escapeChar (c : Char) : String :=
  if c == '"' then "\\\""
  else if c == '\\' then "\\\\"
  else if c == '\n' then "\\n"
  else if c == '\r' then "\\r"
  else if c == '\t' then "\\t"
  else if c == '\x08' then "\\b"
  else if c == '\x0c' then "\\f"
  else if 32 ≤ c.toNat && c.toNat < 127 then String.ofList [c]
  else if c.toNat < 0x10000 then codeEscape c.toNat
  else
    let n := c.toNat - 0x10000
    codeEscape (0xd800 + n / 0x400) ++ codeEscape (0xdc00 + n % 0x400)

def writeText (s : String) : String := "\"" ++ String.join (s.toList.map escapeChar) ++ "\""

def writeFloat (x : Float) : String :=
  match DoubleClass.ofFloat x with
  | .nan => "NaN"
  | .infinite negative => signText negative ++ "Infinity"
  | .finite .. => floatText x

mutual
def write : Value → Except TextFault String
  | .null => .ok "null"
  | .bool b => .ok (if b then "true" else "false")
  | .int n => intText n
  | .float x => .ok (writeFloat x)
  | .text s => .ok (writeText s)
  | .verdict v => .ok (writeText v.label)
  | .list items => do
    let parts ← writeItems items
    return "[" ++ ", ".intercalate parts ++ "]"
  | .dict entries => do
    let parts ← writeMembers entries
    return "\x7b" ++ ", ".intercalate parts ++ "\x7d"
  | v => do
    let s ← v.toText
    return writeText s

def writeItems : List Value → Except TextFault (List String)
  | [] => .ok []
  | v :: vs => do
    let first ← write v
    let rest ← writeItems vs
    return first :: rest

def writeMembers : Entries Value → Except TextFault (List String)
  | [] => .ok []
  | (name, v) :: vs => do
    let first ← write v
    let rest ← writeMembers vs
    return (writeText name ++ ": " ++ first) :: rest
end

end Json

end KeywordSuite
