import QuickLaunch.Number.Double
import QuickLaunch.Text.Search

/-!
# Shortest decimal text of a double

The fewest digits that still name the value, and of those the nearest to it. A decimal names the
value when it lies in the interval of numbers that round to it, the ends belonging to it when the
mantissa is even. Up to the sixteenth place before the point and the fourth behind it the notation
is positional, with at least one digit behind the point; beyond that an exponent of at least two
digits follows.
-/

namespace QuickLaunch.Double

/-- The numbers that round to a value, as multiples of one fraction `1 / den`. -/
structure Neighbourhood where
  /-- The lower end. -/
  low : Nat
  /-- The value. -/
  mid : Nat
  /-- The upper end. -/
  high : Nat
  /-- The unit. -/
  den : Nat
  /-- The ends round to the value too. -/
  closed : Bool

/-- The neighbourhood of `mantissa * 2 ^ exponent`. Below a power of two the next value is only half
as far away. -/
def neighbourhood (mantissa : Nat) (exponent : Int) : Neighbourhood :=
  let low :=
    if mantissa = leastFull ∧ minExponent < exponent then 4 * mantissa - 1 else 4 * mantissa - 2
  let unit := exponent - 2
  let up := power 2 unit
  ⟨low * up, 4 * mantissa * up, (4 * mantissa + 2) * up, power 2 (-unit), mantissa % 2 == 0⟩

/-- The decimal `n * 10 ^ place` lies in the neighbourhood. -/
def Neighbourhood.holds (h : Neighbourhood) (n : Nat) (place : Int) : Bool :=
  let x := n * power 10 place * h.den
  let scale := power 10 (-place)
  if h.closed then decide (h.low * scale ≤ x) && decide (x ≤ h.high * scale)
  else decide (h.low * scale < x) && decide (x < h.high * scale)

/-- The distance of the decimal `n * 10 ^ place` from the value, in a unit that depends on `place`
only. -/
def Neighbourhood.distance (h : Neighbourhood) (n : Nat) (place : Int) : Nat :=
  let x := n * power 10 place * h.den
  let y := h.mid * power 10 (-place)
  (x - y) + (y - x)

/-- The decimals of the grid `10 ^ place` next to the value that lie in its neighbourhood, the
nearest first; of two at one distance the even one. -/
def Neighbourhood.onGrid (h : Neighbourhood) (place : Int) : Option Nat :=
  let below := h.mid * power 10 (-place) / (h.den * power 10 place)
  let above := below + 1
  let low := h.distance below place
  let high := h.distance above place
  match h.holds below place, h.holds above place with
  | true, true =>
    some (if low < high then below else if high < low then above
      else if below % 2 = 0 then below else above)
  | true, false => some below
  | false, true => some above
  | false, false => none

/-- The number of zeros between the point and the first digit of a fraction below one, at most
`fuel` more than `zeros`. -/
def leadingZeros (num den : Nat) : Nat → Nat → Nat
  | 0, zeros => zeros
  | fuel + 1, zeros =>
    if den ≤ num * Nat.pow 10 (zeros + 1) then zeros else leadingZeros num den fuel (zeros + 1)

/-- The place of the decimal point: the value lies in `[10 ^ (p - 1), 10 ^ p)`. -/
def Neighbourhood.pointPlace (h : Neighbourhood) : Int :=
  let whole := h.mid / h.den
  if whole = 0 then Int.negOfNat (leadingZeros h.mid h.den 400 0) else decimalLength whole

/-- The decimal for the value on the first grid that has one, with the grid's power of ten; grids
get finer from `digits` digits on. -/
def Neighbourhood.firstGrid (h : Neighbourhood) : Nat → Nat → Nat × Int
  | 0, _ => (0, 0)
  | fuel + 1, digits =>
    let place := h.pointPlace - digits
    match h.onGrid place with
    | some n => (n, place)
    | none => h.firstGrid fuel (digits + 1)

/-- The shortest decimal for the value. Seventeen digits always name it. -/
def Neighbourhood.shortest (h : Neighbourhood) : Nat × Int :=
  h.firstGrid 17 1

/-- The digits of a number without the zeros at its end. -/
def significant (n : Nat) : List Char :=
  let ds := Nat.toDigits 10 n
  let kept := (ds.reverse.dropWhile (· == '0')).reverse
  if kept.isEmpty then ['0'] else kept

/-- The exponent as it stands behind the mark: a sign and at least two digits. -/
def exponentChars (e : Int) : List Char :=
  let ds := Nat.toDigits 10 e.natAbs
  (if e < 0 then '-' else '+') :: (if ds.length < 2 then '0' :: ds else ds)

/-- Digits with the decimal point at `place`, counted from before the first digit. -/
def layout (ds : List Char) (place : Int) : List Char :=
  if place ≤ -4 ∨ 16 < place then
    match ds with
    | [] => []
    | [d] => d :: 'e' :: exponentChars (place - 1)
    | d :: rest => d :: '.' :: rest ++ 'e' :: exponentChars (place - 1)
  else if place ≤ 0 then
    '0' :: '.' :: List.replicate (-place).toNat '0' ++ ds
  else
    let k := place.toNat
    let behind := ds.drop k
    ds.take k ++ List.replicate (k - ds.length) '0' ++
      '.' :: (if behind.isEmpty then ['0'] else behind)

/-- The shortest text of a value. -/
def chars : Double → List Char
  | .nan => "nan".toList
  | .infinite negative => (if negative then ['-'] else []) ++ "inf".toList
  | .finite negative m e =>
    (if negative then ['-'] else []) ++
      if m = 0 then "0.0".toList
      else
        let (n, place) := (neighbourhood m e).shortest
        layout (significant n) (decimalLength n + place)

end QuickLaunch.Double
