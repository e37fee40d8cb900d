import ToyLang.Binary64.Basic

/-!
# Quantities

A number that is read or shown is a fraction of whole numbers, infinite, or undefined.  A program
calculates with the numbers of a format of floating-point numbers, which are fractions too.

## Main definitions

* `Quantity` — a number.
* `FloatFormat` — a format of floating-point numbers.
* `FloatFormat.nearest` — the number of a format that is nearest to a quantity.
-/

namespace ToyLang.Format

/-- A number that is read or shown; the fraction has a denominator other than zero. -/
inductive Quantity where
  | finite (negative : Bool) (n d : Nat)
  | infinite (negative : Bool)
  | undefined (negative : Bool)
  deriving DecidableEq, Repr

namespace Quantity

/-- The whole number as a quantity. -/
def ofInt (n : Int) : Quantity := .finite (n < 0) n.natAbs 1

/-- Whether the sign is negative. -/
def isNegative : Quantity → Bool
  | .finite negative _ _ | .infinite negative | .undefined negative => negative

/-- The quantity with the other sign. -/
def negate : Quantity → Quantity
  | .finite negative n d => .finite (!negative) n d
  | .infinite negative => .infinite (!negative)
  | .undefined negative => .undefined (!negative)

/-- A signed fraction; a sum that vanishes is positive. -/
def ofFraction (n : Int) (d : Nat) : Quantity := .finite (n < 0) n.natAbs d

/-- The numerator with its sign. -/
def signedNumerator (negative : Bool) (n : Nat) : Int := if negative then -(n : Int) else n

/-- The exact sum. -/
def add : Quantity → Quantity → Quantity
  | .finite s n d, .finite s' n' d' =>
      ofFraction (signedNumerator s n * d' + signedNumerator s' n' * d) (d * d')
  | .undefined s, _ => .undefined s
  | _, .undefined s => .undefined s
  | .infinite s, .infinite s' => if s = s' then .infinite s else .undefined true
  | .infinite s, _ => .infinite s
  | _, .infinite s => .infinite s

/-- The exact product. -/
def mul : Quantity → Quantity → Quantity
  | .finite s n d, .finite s' n' d' => .finite (s != s') (n * n') (d * d')
  | .undefined s, _ => .undefined s
  | _, .undefined s => .undefined s
  | .infinite s, .finite s' n _ => if n = 0 then .undefined true else .infinite (s != s')
  | .finite s n _, .infinite s' => if n = 0 then .undefined true else .infinite (s != s')
  | .infinite s, .infinite s' => .infinite (s != s')

/-- How one quantity compares with another; what is undefined does not compare. -/
def compare? : Quantity → Quantity → Option Ordering
  | .finite s n d, .finite s' n' d' =>
      some (Ord.compare (signedNumerator s n * d') (signedNumerator s' n' * d))
  | .undefined _, _ | _, .undefined _ => none
  | .infinite s, .infinite s' =>
      some (if s = s' then .eq else if s then .lt else .gt)
  | .infinite s, .finite _ _ _ => some (if s then .lt else .gt)
  | .finite _ _ _, .infinite s => some (if s then .gt else .lt)

/-- Whether one quantity is less than another. -/
def isLess (x y : Quantity) : Bool := x.compare? y = some .lt

end Quantity

/-- A format of floating-point numbers: whole numbers of `bits` bits, times powers of two from
`lowest` on, below the power of two `top`. -/
structure FloatFormat where
  bits : Nat
  lowest : Int
  top : Nat
  /-- How many bits stand in the first hexadecimal digit. -/
  leading : Nat

namespace FloatFormat

/-- The numbers of 64 bits. -/
def double : FloatFormat := ⟨53, -1074, 1024, 1⟩

/-- The numbers of 80 bits. -/
def extended : FloatFormat := ⟨64, -16445, 16384, 4⟩

/-- A fraction in units of a power of two: numerator and denominator. -/
def inUnits (n d : Nat) (power : Int) : Nat × Nat :=
  if 0 ≤ power then (n, d * twoTo power.toNat) else (n * twoTo power.natAbs, d)

/-- The power of two of the last bit of a fraction that is not zero. -/
def unit (f : FloatFormat) (n d : Nat) : Int :=
  let guess : Int := (Nat.log2 n : Int) - Nat.log2 d - f.bits
  -- The guess is right or one too low.
  let (a, b) := inUnits n d guess
  max f.lowest (if a / b < twoTo f.bits then guess else guess + 1)

/-- The significand and the power of two of the number nearest to a fraction; ties go to the even
one. -/
def significand (f : FloatFormat) (n d : Nat) : Nat × Int :=
  if n = 0 then (0, 0)
  else
    let e := f.unit n d
    let (a, b) := inUnits n d e
    (Binary64.roundQuotient a b, e)

/-- The fraction for a significand and a power of two. -/
def fraction (m : Nat) (e : Int) : Nat × Nat :=
  if 0 ≤ e then (m * twoTo e.toNat, 1) else (m, twoTo e.natAbs)

/-- The number that is nearest to a quantity, and whether the format has numbers so great or so
small. -/
def round (f : FloatFormat) : Quantity → Quantity × Bool
  | .finite negative n d =>
      let (m, e) := f.significand n d
      if twoTo f.top ≤ m * twoTo e.toNat then (.infinite negative, false)
      else
        let (n', d') := fraction m e
        (.finite negative n' d', m ≠ 0 || n = 0)
  | x => (x, true)

/-- The number that is nearest to a quantity. -/
def nearest (f : FloatFormat) (x : Quantity) : Quantity := (f.round x).1

end FloatFormat

/-- The number of 64 bits nearest to a quantity. -/
def Quantity.toBinary64 : Quantity → Binary64
  | .finite negative n d => Binary64.ofMagnitude negative (Binary64.nearestMagnitude n d)
  | .infinite negative => Binary64.ofMagnitude negative Binary64.infiniteMagnitude
  | .undefined negative =>
      Binary64.ofMagnitude negative (Binary64.infiniteMagnitude + twoTo 51)

/-- A number of 64 bits as a quantity. -/
def Quantity.ofBinary64 (x : Binary64) : Quantity :=
  if x.isUndefined then .undefined x.isNegative
  else if !x.isFinite then .infinite x.isNegative
  else
    let e := Binary64.scale x.magnitude
    let (n, d) := FloatFormat.fraction (Binary64.significand x.magnitude) ((e : Int) - 1074)
    .finite x.isNegative n d

end ToyLang.Format
