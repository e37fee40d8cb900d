import ToyLang.Binary64.Basic

/-!
# Numbers as text

The decimal of a number lies on the coarsest grid of powers of ten that has a point in
the *rounding interval* of the number, the interval of values that are read back as it.
Of the two grid points around the number the nearer one is taken, the upper one on a tie.
All comparisons are made between whole numbers, in units of `2 ^ -1076` (a quarter of the
least positive number, so that half a gap and the midpoint of a narrow gap are whole).

A number is written with that decimal, always with a fraction or an exponent: positionally
from `10 ^ -4` up to `10 ^ 16`, in scientific form outside.

## Main definitions

* `shortest` — the shortest decimal of a number.
* `Decimal.text` — the text of a positive decimal.
* `Binary64.text` — the text of any number.
-/

namespace ToyLang.Binary64

/-! ### The shortest decimal -/

/-- A positive decimal: `coefficient * 10 ^ exponent`. -/
structure Decimal where
  coefficient : Nat
  exponent : Int
  deriving DecidableEq, Repr

/-- The rounding interval of a magnitude, in units of `2 ^ -1076`, with the value itself.
The ends belong to it exactly when the significand is even. -/
structure Interval where
  low : Nat
  value : Nat
  high : Nat
  closed : Bool

/-- The gap below a power of two is half as wide as the gap above it, unless the number
below is subnormal. -/
def narrowBelow (magnitude : Nat) : Bool :=
  magnitude % twoTo 52 = 0 && twoTo 53 ≤ magnitude

/-- The values that are read back as a given finite magnitude. -/
def roundingInterval (magnitude : Nat) : Interval :=
  let value := 4 * units magnitude
  let gap := twoTo (scale magnitude)
  { low := value - (if narrowBelow magnitude then gap else 2 * gap)
    value := value
    high := value + 2 * gap
    closed := magnitude % 2 = 0 }

/-- A grid of decimals, the multiples of a power of ten, in units of `2 ^ -1076`: its
points are the multiples of `step / stretch`. -/
structure Grid where
  exponent : Int
  step : Nat
  stretch : Nat

/-- The multiples of `10 ^ exponent`. -/
def Grid.ofExponent (exponent : Int) : Grid :=
  { exponent := exponent
    step := tenTo exponent.toNat * twoTo 1076
    stretch := tenTo (-exponent).toNat }

/-- Whether the `c`-th point of a grid lies in an interval. -/
def Grid.hits (g : Grid) (v : Interval) (c : Nat) : Bool :=
  let point := c * g.step
  let low := v.low * g.stretch
  let high := v.high * g.stretch
  if v.closed then low ≤ point && point ≤ high else low < point && point < high

/-- The point of a grid that is nearest to the value of an interval among those that lie
in it, if any does: one of the two points around the value. -/
def Grid.nearest? (g : Grid) (v : Interval) : Option Nat :=
  let value := v.value * g.stretch
  let c := value / g.step
  let upper := g.step ≤ 2 * (value % g.step)
  match g.hits v c, g.hits v (c + 1) with
  | true, true => some (if upper then c + 1 else c)
  | true, false => some c
  | false, true => some (c + 1)
  | false, false => none

/-- The largest power of ten below every infinite value. -/
def topExponent : Int := 308

/-- The power of ten on whose grid every finite number lies. -/
def bottomExponent : Int := -1074

/-- Search the grids downward from `10 ^ exponent`, `fuel` of them, and take the grid of
the bottom exponent last; every finite number is a point of that one. -/
def shortestFrom (v : Interval) : (fuel : Nat) → (exponent : Int) → Decimal
  | 0, _ => ⟨v.value / 4 * Nat.pow 5 1074, bottomExponent⟩
  | fuel + 1, exponent =>
      match (Grid.ofExponent exponent).nearest? v with
      | some c => ⟨c, exponent⟩
      | none => shortestFrom v fuel (exponent - 1)

/-- The shortest decimal that is read back as a given finite magnitude other than
zero. -/
def shortest (magnitude : Nat) : Decimal :=
  shortestFrom (roundingInterval magnitude) (topExponent - bottomExponent).toNat topExponent

/-! ### Written forms -/

/-- The least power of ten of a leading digit that is written positionally. -/
def positionalFrom : Int := -4

/-- The power of ten of a leading digit from which scientific form is used. -/
def positionalBelow : Int := 16

namespace Decimal

/-- The digits of the coefficient. -/
def digits (d : Decimal) : List Char := Nat.toDigits 10 d.coefficient

/-- The power of ten of the leading digit. -/
def leading (d : Decimal) : Int := d.exponent + (d.digits.length : Int) - 1

/-- Positional form: the point where it belongs, with zeros up to it, and at least one
digit on both of its sides. -/
def positional (d : Decimal) : List Char :=
  let places := (-d.exponent).toNat
  if places = 0 then d.digits ++ List.replicate d.exponent.toNat '0' ++ ['.', '0']
  else if places < d.digits.length then
    d.digits.take (d.digits.length - places) ++ '.' :: d.digits.drop (d.digits.length - places)
  else '0' :: '.' :: (List.replicate (places - d.digits.length) '0' ++ d.digits)

/-- Scientific form: one digit, the others after a point if there are any, and the power
of ten of the first digit. -/
def scientific (d : Decimal) : List Char :=
  let mantissa := match d.digits with
    | [] => []
    | [c] => [c]
    | c :: cs => c :: '.' :: cs
  mantissa ++ 'e' :: (toString d.leading).toList

/-- The text of a positive decimal. -/
def text (d : Decimal) : List Char :=
  if positionalFrom ≤ d.leading ∧ d.leading < positionalBelow then d.positional
  else d.scientific

end Decimal

/-- The text of a magnitude that is not undefined. -/
def magnitudeText (magnitude : Nat) : List Char :=
  if magnitude = 0 then ['0', '.', '0']
  else if magnitude < infiniteMagnitude then (shortest magnitude).text
  else ['i', 'n', 'f']

/-- The text of a number.  The sign of zero is kept; an undefined value has none. -/
def text (x : Binary64) : String :=
  if x.isUndefined then "NaN"
  else String.ofList
    (if x.isNegative then '-' :: magnitudeText x.magnitude else magnitudeText x.magnitude)

end ToyLang.Binary64
