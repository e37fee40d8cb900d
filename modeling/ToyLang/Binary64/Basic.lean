import ToyLang.Numeral

/-!
# Binary floating-point numbers of 64 bits

A number is its bit pattern.  Every finite one is a whole multiple of the least positive
one, `2 ^ -1074`; that multiple (`units`) carries all exact arithmetic, so no rational
numbers are needed.

## Main definitions

* `Binary64` — a bit pattern.
* `Binary64.magnitude` — the pattern without its sign bit; it grows with the number.
* `Binary64.units` — the absolute value of a finite number as a multiple of `2 ^ -1074`.
* `Binary64.ofDecimal` — the number nearest to a decimal literal.
-/

namespace ToyLang

/-- A binary floating-point number of 64 bits, as its bit pattern. -/
structure Binary64 where
  bits : UInt64
  deriving DecidableEq, Repr

namespace Binary64

/-- The magnitude of infinity: every exponent bit set and no fraction. -/
def infiniteMagnitude : Nat := 2047 * twoTo 52

/-- The bit pattern without the sign bit. -/
def magnitude (x : Binary64) : Nat := x.bits.toNat % twoTo 63

/-- Whether the sign bit is set. -/
def isNegative (x : Binary64) : Bool := twoTo 63 ≤ x.bits.toNat

/-- Whether the number is neither infinite nor undefined. -/
def isFinite (x : Binary64) : Bool := x.magnitude < infiniteMagnitude

/-- Whether the pattern stands for no number, whatever its sign and payload. -/
def isUndefined (x : Binary64) : Bool := infiniteMagnitude < x.magnitude

/-- The number with a given sign and magnitude. -/
def ofMagnitude (negative : Bool) (magnitude : Nat) : Binary64 :=
  ⟨UInt64.ofNat (if negative then twoTo 63 + magnitude else magnitude)⟩

/-- The significand of a magnitude, with its hidden bit. -/
def significand (magnitude : Nat) : Nat :=
  if magnitude < twoTo 52 then magnitude else twoTo 52 + magnitude % twoTo 52

/-- The power of two that scales the significand, counted from the least one.  Subnormal
numbers share it with the smallest normal ones. -/
def scale (magnitude : Nat) : Nat := magnitude / twoTo 52 - 1

/-- The absolute value of a finite number as a multiple of `2 ^ -1074`. -/
def units (magnitude : Nat) : Nat := significand magnitude * twoTo (scale magnitude)

/-! ### Reading decimals: the nearest number

A decimal literal is read as the binary number nearest to it, a tie going to the even
significand; what lies beyond the largest finite number becomes infinite.

Both quotients here are exact: `2 ^ 1074` times the value is a quotient of whole numbers,
and rounding it to 53 significant bits is one division with remainder. -/

/-- The whole number nearest to `n / d`, a tie going to the even one. -/
def roundQuotient (n d : Nat) : Nat :=
  let q := n / d
  let twice := 2 * (n % d)
  if twice < d then q
  else if d < twice then q + 1
  else q + q % 2

/-- How far the significand of `n / d`, a count of units, is scaled: just enough to leave
53 bits, and not at all for numbers that are shorter. -/
def scaleOf (n d : Nat) : Nat := Nat.log2 (n / d) - 52

/-- The magnitude nearest to `n / d` units of `2 ^ -1074`.  A significand that rounds up
to `2 ^ 53` carries into the exponent by itself, and a carry out of the largest exponent
gives infinity. -/
def nearestUnits (n d : Nat) : Nat :=
  let s := scaleOf n d
  min (s * twoTo 52 + roundQuotient n (d * twoTo s)) infiniteMagnitude

/-- The magnitude nearest to the non-negative fraction `n / d`. -/
def nearestMagnitude (n d : Nat) : Nat := nearestUnits (n * twoTo 1074) d

/-- The number nearest to a decimal literal: an optional minus sign, the digits before
the point and those after it. -/
def ofDecimal (negative : Bool) (whole fraction : List Char) : Binary64 :=
  ofMagnitude negative
    (nearestMagnitude (digitsValue (whole ++ fraction)) (tenTo fraction.length))

end Binary64

end ToyLang
