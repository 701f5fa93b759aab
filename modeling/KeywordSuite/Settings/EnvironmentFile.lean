import KeywordSuite.Entries
import KeywordSuite.Text.Blank
import KeywordSuite.Text.Lines

/-! # Environment files

One binding a line: an optional `export`, a name, and a value after `=`. Values may be quoted; a
double-quoted value understands escapes. A line that does not parse is passed over. Names in
braces after a dollar sign stand for earlier bindings or the environment.
-/

namespace KeywordSuite

namespace EnvironmentFile

def isLineEnd (c : Char) : Bool := c == '\n' || c == '\r'

def isInlineSpace (c : Char) : Bool := Text.isBlank c && !isLineEnd c

def dropInlineSpace (cs : List Char) : List Char := cs.dropWhile isInlineSpace

/-- What follows `export` and blanks, where the text starts with them. -/
def dropExport (cs : List Char) : List Char :=
  match cs with
  | 'e' :: 'x' :: 'p' :: 'o' :: 'r' :: 't' :: c :: rest =>
    if isInlineSpace c then dropInlineSpace rest else cs
  | _ => cs

/-- A name that is not quoted; a comment has none. Where there is no name, `none`. -/
def takeName (cs : List Char) : Option (Option String × List Char) :=
  match cs with
  | '#' :: _ => some (none, cs)
  | '\'' :: rest =>
    let name := rest.takeWhile (· != '\'')
    match rest.dropWhile (· != '\'') with
    | _ :: after => if name.isEmpty then none else some (some (String.ofList name), after)
    | [] => none
  | _ =>
    let isName (c : Char) := c != '=' && c != '#' && !Text.isBlank c
    let name := cs.takeWhile isName
    if name.isEmpty then none else some (some (String.ofList name), cs.dropWhile isName)

/-- The text up to the closing quote; a quote after a backslash closes only if no later one does. -/
def takeQuoted (quote : Char) : List Char → Option (List Char × List Char)
  | [] => none
  | '\\' :: c :: rest =>
    if c == quote then
      match takeQuoted quote rest with
      | some (inner, after) => some ('\\' :: c :: inner, after)
      | none => some (['\\'], rest)
    else (takeQuoted quote (c :: rest)).map fun (inner, after) => ('\\' :: inner, after)
  | c :: rest =>
    if c == quote then some ([], rest)
    else (takeQuoted quote rest).map fun (inner, after) => (c :: inner, after)

def singleEscape? : Char → Option Char
  | '\\' => some '\\'
  | '\'' => some '\''
  | _ => none

def doubleEscape? : Char → Option Char
  | '\\' => some '\\'
  | '\'' => some '\''
  | '"' => some '"'
  | 'a' => some '\x07'
  | 'b' => some '\x08'
  | 'f' => some '\x0c'
  | 'n' => some '\n'
  | 'r' => some '\r'
  | 't' => some '\t'
  | 'v' => some '\x0b'
  | _ => none

def decodeEscapes (escape? : Char → Option Char) : List Char → List Char
  | '\\' :: c :: rest =>
    match escape? c with
    | some d => d :: decodeEscapes escape? rest
    | none => '\\' :: decodeEscapes escape? (c :: rest)
  | c :: rest => c :: decodeEscapes escape? rest
  | [] => []

/-- The text before the first blanks that a number sign follows. -/
def dropNote : List Char → List Char
  | [] => []
  | c :: rest =>
    if Text.isBlank c && (rest.dropWhile Text.isBlank).head? == some '#' then []
    else c :: dropNote rest

def plainValue (cs : List Char) : List Char :=
  ((dropNote cs).reverse.dropWhile Text.isBlank).reverse

def takeValue (cs : List Char) : Option (List Char × List Char) :=
  match cs with
  | '\'' :: rest => (takeQuoted '\'' rest).map fun (v, after) => (decodeEscapes singleEscape? v, after)
  | '"' :: rest => (takeQuoted '"' rest).map fun (v, after) => (decodeEscapes doubleEscape? v, after)
  | _ =>
    some (plainValue (cs.takeWhile fun c => !isLineEnd c), cs.dropWhile fun c => !isLineEnd c)

/-- What follows the end of a line, where only a comment stands before it. -/
def takeLineEnd (cs : List Char) : Option (List Char) :=
  let rest := dropInlineSpace cs
  let rest := match rest with
    | '#' :: _ => rest.dropWhile fun c => !isLineEnd c
    | _ => rest
  match rest with
  | [] => some []
  | '\r' :: '\n' :: after => some after
  | c :: after => if isLineEnd c then some after else none

def dropLine (cs : List Char) : List Char := (cs.dropWhile fun c => !isLineEnd c).drop 1

/-- A binding of a name, and the text after it; without `=` the name has no value. -/
def takeBinding (cs : List Char) : Option (String × Option String) × List Char :=
  let cs := dropExport cs
  match takeName cs with
  | none => (none, dropLine cs)
  | some (name, rest) =>
    let rest := dropInlineSpace rest
    match rest with
    | '=' :: more =>
      match takeValue (dropInlineSpace more) with
      | none => (none, dropLine (dropInlineSpace more))
      | some (value, after) =>
        match takeLineEnd after with
        | some next => (name.map fun n => (n, some (String.ofList value)), next)
        | none => (none, dropLine after)
    | _ =>
      match takeLineEnd rest with
      | some next => (name.map fun n => (n, none), next)
      | none => (none, dropLine rest)

/-- The bindings of a text in order; `fuel` bounds how many there are. -/
def bindings : (fuel : Nat) → List Char → List (String × Option String)
  | 0, _ => []
  | fuel + 1, cs =>
    match cs.dropWhile Text.isBlank with
    | [] => []
    | rest =>
      let (binding, after) := takeBinding rest
      binding.toList ++ bindings fuel after

/-- A name in braces after a dollar sign, with its default, and the text after it. -/
def takeReference : List Char → Option (String × Option String × List Char)
  | '$' :: '\x7b' :: rest =>
    let name := rest.takeWhile fun c => c != '\x7d' && c != ':'
    match rest.dropWhile fun c => c != '\x7d' && c != ':' with
    | '\x7d' :: after => some (String.ofList name, none, after)
    | ':' :: '-' :: more =>
      let default := more.takeWhile (· != '\x7d')
      match more.dropWhile (· != '\x7d') with
      | _ :: after => some (String.ofList name, some (String.ofList default), after)
      | [] => none
    | _ => none
  | _ => none

/-- A value with its references replaced; `fuel` bounds its length. -/
def expand (find : String → Option String) : (fuel : Nat) → List Char → List Char
  | 0, cs => cs
  | _, [] => []
  | fuel + 1, c :: rest =>
    match takeReference (c :: rest) with
    | some (name, default, after) =>
      ((find name).getD (default.getD "")).toList ++ expand find fuel after
    | none => c :: expand find fuel rest

/-- How a name is looked up: the earlier bindings and the environment, in this order or the other. -/
def lookUp (override : Bool) (environment : Entries String) (known : Entries (Option String))
    (name : String) : Option String :=
  let bound := (known.get? name).map fun v => v.getD ""
  if override then bound <|> environment.get? name else environment.get? name <|> bound

/--
The names and values of an environment file, where the last binding of a name counts. Earlier
bindings go before the environment if they are to override it.
-/
def read (override : Bool) (environment : Entries String) (text : String) : Entries (Option String) :=
  let cs := Text.plainLines text.toList
  (bindings (cs.length + 1) cs).foldl (fun known (name, value) =>
    known.set name (value.map fun v =>
      String.ofList (expand (lookUp override environment known) (v.length + 1) v.toList))) []

/-- The environment with the bindings of a file added; what it has stays. -/
def load (environment : Entries String) (text : String) : Entries String :=
  (read false environment text).foldl (fun acc (name, value) =>
    match value with
    | some v => if acc.has name then acc else acc.set name v
    | none => acc) environment

end EnvironmentFile

end KeywordSuite
