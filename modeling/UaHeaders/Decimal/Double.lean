import UaHeaders.Text.Casing

/-!
# Doubles

The numbers of 64 bits that a decimal text is rounded to, as exact values: a finite double is a
significand below `2 ^ 53` times a power of two.

## Main definitions

* `UaHeaders.Double` — the numbers.
* `UaHeaders.Double.ofRatio` — the double nearest to a quotient, ties going to the even significand.
* `UaHeaders.Double.ofText?` — the double nearest to a decimal text.
* `UaHeaders.Double.scaledRound` — a double times a whole number, rounded.
-/

set_option autoImplicit false

namespace UaHeaders

/-- **A number of 64 bits.** A finite one is `significand * 2 ^ exponent`. -/
inductive Double where
  | nan
  | infinite (negative : Bool)
  | finite (negative : Bool) (significand : Nat) (exponent : Int)
  deriving DecidableEq, Inhabited

namespace Double

/-- The quotient rounded to the nearest whole number, a half going to the even one. -/
def roundDiv (num den : Nat) : Nat :=
  let q := num / den
  let r := num % den
  if 2 * r < den then q
  else if den < 2 * r then q + 1
  else if q % 2 = 0 then q else q + 1

/-- The power of two in a numerator. -/
def powerUp (e : Int) : Nat := Nat.pow 2 e.toNat

/-- The power of two in a denominator. -/
def powerDown (e : Int) : Nat := Nat.pow 2 (-e).toNat

/-- The least exponent. -/
def minExponent : Int := -1074

/-- The greatest exponent. -/
def maxExponent : Int := 971

/-- The exponent of the greatest power of two that is not above a quotient. -/
def floorLog2 (num den : Nat) : Int :=
  let k : Int := num.log2 - den.log2
  if num * powerDown k < den * powerUp k then k - 1 else k

/-- **The double nearest to a quotient.** -/
def ofRatio (negative : Bool) (num den : Nat) : Double :=
  if num = 0 then finite negative 0 minExponent
  else
    let e := max (floorLog2 num den - 52) minExponent
    let m := roundDiv (num * powerDown e) (den * powerUp e)
    -- rounding up may carry into one more bit
    let (m, e) := if m = Nat.pow 2 53 then (Nat.pow 2 52, e + 1) else (m, e)
    if e > maxExponent then infinite negative else finite negative m e

/-! ## Reading -/

/-- The decimal digits at the front. -/
def leadingDigits (cs : List Char) : List Char := cs.takeWhile fun c => '0' ≤ c && c ≤ '9'

/-- The number in a list of decimal digits. -/
def decimalNumber (digits : List Char) : Nat :=
  digits.foldl (fun n c => 10 * n + (c.toNat - '0'.toNat)) 0

/-- A sign, if there is one. -/
def splitSign : List Char → Bool × List Char
  | '-' :: cs => (true, cs)
  | '+' :: cs => (false, cs)
  | cs => (false, cs)

/-- The exponent at the end of a decimal text; without one it is zero. -/
def exponent? (cs : List Char) : Option Int :=
  match cs with
  | [] => some 0
  | c :: cs =>
    if c == 'e' || c == 'E' then
      let (negative, digits) := splitSign cs
      if digits.isEmpty || (leadingDigits digits).length < digits.length then none
      else
        let n : Int := decimalNumber digits
        some (if negative then -n else n)
    else none

/-- The double nearest to `digits * 10 ^ exponent`. What is far out of range is not computed. -/
def ofDecimal (negative : Bool) (digits : Nat) (exponent : Int) : Double :=
  let size : Int := (Nat.toDigits 10 digits).length + exponent
  if digits = 0 ∨ size < -400 then finite negative 0 minExponent
  else if size > 400 then infinite negative
  else ofRatio negative (digits * Nat.pow 10 exponent.toNat) (Nat.pow 10 (-exponent).toNat)

/-- **The double nearest to a decimal text.** The text may have a sign, a point and an exponent, and
needs one digit beside the point; infinities and "not a number" are given by their names. -/
def ofText? (text : String) : Option Double :=
  let (negative, cs) := splitSign text.toList
  let word := Text.lowerAscii (String.ofList cs)
  if word == "inf" || word == "infinity" then some (infinite negative)
  else if word == "nan" then some nan
  else
    let whole := leadingDigits cs
    let behind := cs.drop whole.length
    let (fraction, behind) :=
      match behind with
      | '.' :: rest => (leadingDigits rest, rest.drop (leadingDigits rest).length)
      | rest => ([], rest)
    if whole.isEmpty && fraction.isEmpty then none
    else
      (exponent? behind).map fun e =>
        ofDecimal negative (decimalNumber (whole ++ fraction)) (e - fraction.length)

/-! ## Whole multiples -/

/-- **A double times a whole number**, rounded to the nearest whole number with ties to even. There is
none for what is below zero or without end. -/
def scaledRound (x : Double) (scale : Nat) : Option Nat :=
  match x with
  | finite negative m e =>
    if negative && m != 0 then none else some (roundDiv (m * scale * powerUp e) (powerDown e))
  | _ => none

end Double

end UaHeaders
