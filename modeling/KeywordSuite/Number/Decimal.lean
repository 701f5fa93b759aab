/-! # Decimal digits of a double

A finite double is a natural number times a power of two. Its shortest decimal has the fewest
digits that read back as the same double, and of those the nearest; its rounded decimal has a
given number of digits, where a tie goes to the even neighbour. Both work in exact arithmetic.
-/

namespace KeywordSuite

/-- The number `mantissa * 2 ^ exponent`. -/
structure Dyadic where
  mantissa : Nat
  exponent : Int
  deriving DecidableEq, Repr

inductive DoubleClass
  | nan
  | infinite (negative : Bool)
  | finite (negative : Bool) (size : Dyadic)
  deriving DecidableEq, Repr

def DoubleClass.ofFloat (x : Float) : DoubleClass :=
  let bits := x.toBits.toNat
  let negative := bits / Nat.pow 2 63 == 1
  let biased : Nat := bits / Nat.pow 2 52 % Nat.pow 2 11
  let fraction := bits % Nat.pow 2 52
  if biased == 2047 then
    if fraction == 0 then .infinite negative else .nan
  else if biased == 0 then .finite negative ⟨fraction, -1074⟩
  else .finite negative ⟨Nat.pow 2 52 + fraction, Int.ofNat biased - 1075⟩

structure Ratio where
  num : Nat
  den : Nat

def Ratio.scale2 (r : Ratio) (e : Int) : Ratio :=
  ⟨r.num * Nat.pow 2 e.toNat, r.den * Nat.pow 2 (-e).toNat⟩

def Ratio.scale10 (r : Ratio) (e : Int) : Ratio :=
  ⟨r.num * Nat.pow 10 e.toNat, r.den * Nat.pow 10 (-e).toNat⟩

def Ratio.le (a b : Ratio) : Bool := a.num * b.den ≤ b.num * a.den

def Ratio.lt (a b : Ratio) : Bool := a.num * b.den < b.num * a.den

def Dyadic.ratio (d : Dyadic) : Ratio := Ratio.scale2 ⟨d.mantissa, 1⟩ d.exponent

/-- The nearest natural number to a fraction, where a tie goes to the even neighbour. -/
def Ratio.round (r : Ratio) : Nat :=
  let q := r.num / r.den
  let twice := 2 * (r.num % r.den)
  if twice < r.den then q
  else if r.den < twice then q + 1
  else if q % 2 == 0 then q else q + 1

/-- The power `p` with `10 ^ (p - 1) ≤ r < 10 ^ p`, for a positive fraction `r`. -/
def Ratio.decimalPoint (r : Ratio) : Int :=
  if r.den ≤ r.num then (toString (r.num / r.den)).length
  else
    let k := (toString (r.den / r.num)).length
    if r.num * Nat.pow 10 (k - 1) == r.den then 2 - (k : Int) else 1 - (k : Int)

/-- The number `digits * 10 ^ exponent`. -/
structure Decimal where
  digits : Nat
  exponent : Int
  deriving DecidableEq, Repr

def Decimal.zero : Decimal := ⟨0, 0⟩

/-- The same number without zeros at the end of its digits. -/
def Decimal.trim (d : Decimal) : Decimal :=
  let cs := (toString d.digits).toList.reverse
  let zeros := (cs.takeWhile (· == '0')).length
  if d.digits == 0 then .zero else ⟨d.digits / Nat.pow 10 zeros, d.exponent + zeros⟩

/-- The interval of numbers that round to a double: its ends in quarters of the last place. -/
def Dyadic.neighbourhood (d : Dyadic) : Ratio × Ratio :=
  let below := if d.mantissa == Nat.pow 2 52 && d.exponent != -1074 then 1 else 2
  (Ratio.scale2 ⟨4 * d.mantissa - below, 4⟩ d.exponent, Ratio.scale2 ⟨4 * d.mantissa + 2, 4⟩ d.exponent)

/-- Whether a number rounds to the double; the ends of the interval do for an even mantissa. -/
def Dyadic.reads (d : Dyadic) (r : Ratio) : Bool :=
  let (low, high) := d.neighbourhood
  if d.mantissa % 2 == 0 then low.le r && r.le high else low.lt r && r.lt high

/-- The points of the grid `10 ^ place` on both sides of the double that read back as it. -/
def Dyadic.gridPoint? (d : Dyadic) (place : Int) : Option Decimal :=
  let scaled := d.ratio.scale10 (-place)
  let low := scaled.num / scaled.den
  let reads n := d.reads (Ratio.scale10 ⟨n, 1⟩ place)
  match reads low && low != 0, reads (low + 1) with
  | true, true => some ⟨scaled.round, place⟩
  | true, false => some ⟨low, place⟩
  | false, true => some ⟨low + 1, place⟩
  | false, false => none

/-- The fewest digits that read back as the double, and of those the nearest. -/
def Dyadic.shortest (d : Dyadic) : Decimal :=
  if d.mantissa == 0 then .zero
  else
    let point := d.ratio.decimalPoint
    match (List.range 17).findSome? fun n => d.gridPoint? (point - (n + 1 : Nat)) with
    | some found => found.trim
    | none => ⟨(d.ratio.scale10 (17 - point)).round, point - 17⟩

/-- The nearest number with `count` significant digits. -/
def Dyadic.significant (d : Dyadic) (count : Nat) : Decimal :=
  if d.mantissa == 0 then .zero
  else
    let place := d.ratio.decimalPoint - count
    Decimal.trim ⟨(d.ratio.scale10 (-place)).round, place⟩

/-- The nearest number with `places` digits after the point, as a number of its last place. -/
def Dyadic.fixed (d : Dyadic) (places : Nat) : Nat := (d.ratio.scale10 places).round

end KeywordSuite
