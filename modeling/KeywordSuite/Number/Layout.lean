import KeywordSuite.Number.Decimal

/-! # Layout of numbers as text

A shortest decimal is written positionally from `1e-4` up to below `1e16` and keeps one digit
after the point; other sizes have an exponent of at least two digits.
-/

namespace KeywordSuite

structure NumberLayout where
  /-- The first power of ten that is written with an exponent. -/
  positionalLimit : Int
  /-- Whether a whole number keeps `.0`. -/
  keepsPoint : Bool

def NumberLayout.plain : NumberLayout := ⟨16, true⟩

def NumberLayout.brief : NumberLayout := ⟨6, false⟩

def padLeft (width : Nat) (c : Char) (s : String) : String :=
  String.ofList (List.replicate (width - s.length) c) ++ s

def exponentText (e : Int) : String :=
  (if e < 0 then "-" else "+") ++ padLeft 2 '0' (toString e.natAbs)

def NumberLayout.text (layout : NumberLayout) (d : Decimal) : String :=
  let digits := toString d.digits
  let point : Int := digits.length + d.exponent
  if d.digits == 0 then (if layout.keepsPoint then "0.0" else "0")
  else if -4 < point && point ≤ layout.positionalLimit then
    if point ≤ 0 then "0." ++ String.ofList (List.replicate (-point).toNat '0') ++ digits
    else if digits.length ≤ point.toNat then
      digits ++ String.ofList (List.replicate (point.toNat - digits.length) '0')
        ++ (if layout.keepsPoint then ".0" else "")
    else
      let cs := digits.toList
      String.ofList (cs.take point.toNat) ++ "." ++ String.ofList (cs.drop point.toNat)
  else
    let cs := digits.toList
    let mantissa := String.ofList (cs.take 1)
      ++ (if cs.length == 1 then "" else "." ++ String.ofList (cs.drop 1))
    mantissa ++ "e" ++ exponentText (point - 1)

def signText (negative : Bool) : String := if negative then "-" else ""

/-- The text of a double: the shortest digits that read back. -/
def floatText (x : Float) : String :=
  match DoubleClass.ofFloat x with
  | .nan => "nan"
  | .infinite negative => signText negative ++ "inf"
  | .finite negative size => signText negative ++ NumberLayout.plain.text size.shortest

def briefFloatText (x : Float) : String :=
  match DoubleClass.ofFloat x with
  | .nan => "nan"
  | .infinite negative => signText negative ++ "inf"
  | .finite negative size => signText negative ++ NumberLayout.brief.text (size.significant 6)

def fixedFloatText (places : Nat) (x : Float) : String :=
  match DoubleClass.ofFloat x with
  | .nan => "nan"
  | .infinite negative => signText negative ++ "inf"
  | .finite negative size =>
    let cs := (padLeft (places + 1) '0' (toString (size.fixed places))).toList
    let whole := String.ofList (cs.take (cs.length - places))
    signText negative
      ++ (if places == 0 then whole else whole ++ "." ++ String.ofList (cs.drop (cs.length - places)))

def isWholeFloat (x : Float) : Bool :=
  match DoubleClass.ofFloat x with
  | .finite _ size => size.ratio.num % size.ratio.den == 0
  | _ => false

def truncateFloat? (x : Float) : Option Int :=
  match DoubleClass.ofFloat x with
  | .finite negative size =>
    let whole : Int := size.ratio.num / size.ratio.den
    some (if negative then -whole else whole)
  | _ => none

end KeywordSuite
