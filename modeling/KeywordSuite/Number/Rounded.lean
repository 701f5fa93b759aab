import KeywordSuite.Number.Layout

/-! # Rounded numbers

Doubles with a given number of digits: after the point, after the first digit with an exponent, or
in all. A number of digits in all is written without an exponent where its point is near, and
without zeros at its end.
-/

namespace KeywordSuite

inductive RoundedForm
  | fixed
  | exponent
  | general
  deriving DecidableEq, Repr

namespace Dyadic

/-- The digits with `places` of them after the first, and the power of ten of the first. -/
def scientific (d : Dyadic) (places : Nat) : Nat × Int :=
  if d.mantissa == 0 then (0, 0)
  else
    let first := d.ratio.decimalPoint - 1
    let digits := (d.ratio.scale10 (places - first)).round
    if Nat.pow 10 (places + 1) ≤ digits then (digits / 10, first + 1) else (digits, first)

/-- Digits with `places` of them after the point. -/
def pointed (digits places : Nat) (keepsPoint : Bool) : String :=
  let cs := (padLeft (places + 1) '0' (toString digits)).toList
  let fraction := cs.drop (cs.length - places)
  String.ofList (cs.take (cs.length - places) ++ (if places = 0 && !keepsPoint then [] else ['.'])
    ++ fraction)

def withoutZeros (s : String) : String :=
  if s.toList.contains '.' then
    let cs := s.toList.reverse.dropWhile (· == '0')
    String.ofList (match cs with
      | '.' :: rest => rest.reverse
      | _ => cs.reverse)
  else s

/-- The text of a size; `keepsPoint` keeps the point and the zeros that end it. -/
def roundedText (d : Dyadic) (form : RoundedForm) (precision : Nat) (keepsPoint : Bool) : String :=
  match form with
  | .fixed => pointed (d.fixed precision) precision keepsPoint
  | .exponent =>
    let (digits, first) := d.scientific precision
    pointed digits precision keepsPoint ++ "e" ++ exponentText first
  | .general =>
    let count := max precision 1
    let (digits, first) := d.scientific (count - 1)
    let trim (s : String) : String := if keepsPoint then s else withoutZeros s
    if -4 ≤ first && first < count then
      let places := (count - 1 - first).toNat
      trim (pointed (d.fixed places) places keepsPoint)
    else trim (pointed digits (count - 1) keepsPoint) ++ "e" ++ exponentText first

end Dyadic

end KeywordSuite
