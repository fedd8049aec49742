/-!
# Double precision numbers

The values of the binary format with 53 significant bits, as exact data: a finite value is a sign, a
whole number and a power of two. Two values are equal here when they are the same datum, so that the
two zeros differ.

* `Double.ofRatio`: the value nearest to a fraction, a tie going to the even neighbour;
* `Double.ofDecimal`: the value nearest to a decimal numeral.
-/

namespace QuickLaunch

/-- A double precision value. Finite values are `± mantissa * 2 ^ exponent`; the mantissa has 53
bits unless the exponent is the least one, `-1074`. -/
inductive Double where
  | nan
  | infinite (negative : Bool)
  | finite (negative : Bool) (mantissa : Nat) (exponent : Int)
  deriving DecidableEq, Repr, Inhabited

namespace Double

/-- The least exponent. -/
def minExponent : Int := -1074

/-- The greatest exponent. -/
def maxExponent : Int := 971

/-- The power of a base; one where the exponent is below zero. -/
def power (base : Nat) (e : Int) : Nat :=
  Nat.pow base e.toNat

/-- The least mantissa of 53 bits. -/
def leastFull : Nat := 0x10000000000000

/-- Zero, with its sign. -/
def zero (negative : Bool) : Double :=
  .finite negative 0 minExponent

/-- The whole number nearest to a fraction, a tie going to the even neighbour. -/
def roundToEven (num den : Nat) : Nat :=
  let q := num / den
  let r := num % den
  if 2 * r < den then q
  else if den < 2 * r then q + 1
  else if q % 2 = 0 then q else q + 1

/-- The fraction `num / den` times `2 ^ (-e)`, as a fraction. -/
def scaled (num den : Nat) (e : Int) : Nat × Nat :=
  (num * power 2 (-e), den * power 2 e)

/-- The exponent of the greatest power of two that is at most the fraction. -/
def floorLog2 (num den : Nat) : Int :=
  let k : Int := (num.log2 : Int) - (den.log2 : Int)
  let (a, b) := scaled num den k
  if a < b then k - 1 else k

/-- The value nearest to `± num / den`. -/
def ofRatio (negative : Bool) (num den : Nat) : Double :=
  if num = 0 then zero negative
  else
    let e := max (floorLog2 num den - 52) minExponent
    let (a, b) := scaled num den e
    let m := roundToEven a b
    let (m, e) := if m = 2 * leastFull then (leastFull, e + 1) else (m, e)
    if maxExponent < e then .infinite negative else .finite negative m e

/-- The number of decimal digits of a number. -/
def decimalLength (n : Nat) : Nat :=
  (Nat.toDigits 10 n).length

/-- The value nearest to `± digits * 10 ^ exponent`. Numerals far outside the range of the format
are told from their length. -/
def ofDecimal (negative : Bool) (digits : Nat) (exponent : Int) : Double :=
  if digits = 0 then zero negative
  else
    let size := (decimalLength digits : Int) + exponent
    if 330 < size then .infinite negative
    else if size < -330 then zero negative
    else ofRatio negative (digits * power 10 exponent) (power 10 (-exponent))

/-- The value is a zero of either sign. -/
def isZero : Double → Bool
  | .finite _ 0 _ => true
  | _ => false

/-- Zero less the value. -/
def zeroMinus : Double → Double
  | .nan => .nan
  | .infinite negative => .infinite (!negative)
  | .finite negative m e => if m = 0 then zero false else .finite (!negative) m e

end Double

end QuickLaunch
