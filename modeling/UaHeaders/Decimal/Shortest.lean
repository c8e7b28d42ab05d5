import UaHeaders.Decimal.Double

/-!
# The shortest decimal of a double

A double is written with the fewest digits that are read as the same double; of several such texts the
nearest is taken.

## Main definitions

* `UaHeaders.Double.shortest` — the digits and where the point stands.
* `UaHeaders.Double.text` — the text.
* `UaHeaders.Double.plainText` — the text without powers of ten.
-/

set_option autoImplicit false

namespace UaHeaders.Double

/-- **The numbers that are read as one double**, all over a common denominator: the double itself and
the ends of its interval, which belong to it if its significand is even. -/
structure Interval where
  low : Nat
  value : Nat
  high : Nat
  den : Nat
  closed : Bool

/-- The interval of `m * 2 ^ e`. Below a power of two the neighbour is nearer than above. -/
def interval (m : Nat) (e : Int) : Interval :=
  let scale := powerUp e
  let below := if m = Nat.pow 2 52 ∧ e > minExponent then 1 else 2
  { low := (4 * m - below) * scale, value := 4 * m * scale, high := (4 * m + 2) * scale
    den := 4 * powerDown e, closed := m % 2 == 0 }

/-- Whether `d * num / den` lies in an interval. -/
def Interval.contains (i : Interval) (d num den : Nat) : Bool :=
  let x := d * num * i.den
  if i.closed then i.low * den ≤ x && x ≤ i.high * den else i.low * den < x && x < i.high * den

/-- The neighbour of the value on the grid of `num / den` that lies in the interval, the nearer one if
both do. -/
def Interval.onGrid? (i : Interval) (num den : Nat) : Option Nat :=
  let d := i.value * den / (i.den * num)
  match i.contains d num den, i.contains (d + 1) num den with
  | true, true =>
    if i.value * den - d * num * i.den ≤ (d + 1) * num * i.den - i.value * den then some d
    else some (d + 1)
  | true, false => some d
  | false, true => some (d + 1)
  | false, false => none

/-- The exponent of the least power of ten above a value. -/
def tenAbove (i : Interval) : Int :=
  let digits (n : Nat) : Int := (Nat.toDigits 10 n).length
  let k := digits i.value - digits i.den
  if i.value * Nat.pow 10 (-k).toNat < i.den * Nat.pow 10 k.toNat then k else k + 1

/-- Tries grids of more and more digits. -/
def searchGrids (i : Interval) (k : Int) : Nat → Nat → Nat × Int
  | 0, n => (i.value / i.den, k - n)
  | fuel + 1, n =>
    let e := k - n
    match i.onGrid? (Nat.pow 10 e.toNat) (Nat.pow 10 (-e).toNat) with
    | some d => (d, e)
    | none => searchGrids i k fuel (n + 1)

/-- Seventeen digits tell every double from every other. -/
def maxDigits : Nat := 17

/-- **The digits of a positive double**, without zeros at the end, and the exponent `k` with which the
value is `0.digits * 10 ^ k`. -/
def shortest (m : Nat) (e : Int) : List Char × Int :=
  let i := interval m e
  let (d, exponent) := searchGrids i (tenAbove i) maxDigits 1
  let digits := Nat.toDigits 10 d
  ((digits.reverse.dropWhile (· == '0')).reverse, digits.length + exponent)

/-- The digits around a point, with zeros where there are none. -/
def positional (digits : List Char) (k : Int) : List Char :=
  if k ≤ 0 then ['0', '.'] ++ List.replicate (-k).toNat '0' ++ digits
  else
    let n := k.toNat
    let whole := digits.take n ++ List.replicate (n - digits.length) '0'
    match digits.drop n with
    | [] => whole ++ ['.', '0']
    | fraction => whole ++ ['.'] ++ fraction

/-- The digits with a power of ten. -/
def scientific (digits : List Char) (k : Int) : List Char :=
  let mantissa :=
    match digits with
    | [] => ['0']
    | [d] => [d]
    | d :: ds => d :: '.' :: ds
  mantissa ++ ['e'] ++ (toString (k - 1)).toList

/-- **The text of a double.** From `0.0001` up to below `10 ^ 16` it is positional and has a digit on
either side of the point. -/
def text : Double → String
  | nan => "NaN"
  | infinite negative => if negative then "-inf" else "inf"
  | finite negative m e =>
    let sign := if negative then "-" else ""
    if m = 0 then sign ++ "0.0"
    else
      let (digits, k) := shortest m e
      sign ++ String.ofList (if -3 ≤ k ∧ k ≤ 16 then positional digits k else scientific digits k)

/-- The digits around a point, which is left out if no digit follows it. -/
def plainDigits (digits : List Char) (k : Int) : List Char :=
  match digits.drop k.toNat with
  | [] => digits ++ List.replicate (k.toNat - digits.length) '0'
  | _ => positional digits k

/-- **The text of a double without powers of ten**, and without a point if it is a whole number. -/
def plainText : Double → String
  | nan => "NaN"
  | infinite negative => if negative then "-inf" else "inf"
  | finite negative m e =>
    let sign := if negative then "-" else ""
    if m = 0 then sign ++ "0"
    else
      let (digits, k) := shortest m e
      sign ++ String.ofList (plainDigits digits k)

end UaHeaders.Double
