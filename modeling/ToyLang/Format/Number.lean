import ToyLang.Format.Quantity
import ToyLang.Shell.Words

/-!
# Numbers in formatted output

Whole and fractional numbers with signs, digits and widths, as a conversion asks for them.

## Main definitions

* `Conversion` — a conversion with its flags, width and precision.
* `Conversion.integer`, `Conversion.quantity` — numbers under a conversion.
* `readInteger`, `readQuantity` — numbers at the start of a text.
-/

namespace ToyLang.Format

open Shell (numberOf isHex)

/-- A conversion of a format. -/
structure Conversion where
  flags : List Char := []
  width : Nat := 0
  precision : Option Nat := none
  letter : Char
  deriving Repr

namespace Conversion

/-- Whether a flag is given. -/
def has (c : Conversion) (flag : Char) : Bool := c.flags.contains flag

/-- Fill a text up to the width with blanks. -/
def pad (c : Conversion) (text : List Char) : List Char :=
  let blanks := List.replicate (c.width - text.length) ' '
  if c.has '-' then text ++ blanks else blanks ++ text

/-- Fill a number up to the width, with zeros behind its sign if they are asked for. -/
def padNumber (c : Conversion) (sign digits : List Char) (zeros : Bool) : List Char :=
  if zeros && c.has '0' && !c.has '-' then
    sign ++ List.replicate (c.width - sign.length - digits.length) '0' ++ digits
  else c.pad (sign ++ digits)

/-- A text, cut off at the precision. -/
def text (c : Conversion) (cs : List Char) : List Char :=
  c.pad (match c.precision with
    | some n => cs.take n
    | none => cs)

/-- The sign in front of a number. -/
def sign (c : Conversion) (negative : Bool) : List Char :=
  if negative then ['-'] else if c.has '+' then ['+'] else if c.has ' ' then [' '] else []

/-- A whole number.  Negative ones wrap around in the conversions without a sign. -/
def integer (c : Conversion) (n : Int) : List Char :=
  let atLeast (digits : List Char) : List Char :=
    let digits := if c.precision = some 0 ∧ n = 0 then [] else digits
    List.replicate (c.precision.getD 1 - digits.length) '0' ++ digits
  let unsigned := (n % (twoTo 64 : Int)).toNat
  let zeros := c.precision.isNone
  if c.letter = 'o' then
    let digits := atLeast (Nat.toDigits 8 unsigned)
    let digits := if c.has '#' ∧ digits.head? ≠ some '0' then '0' :: digits else digits
    c.padNumber [] digits zeros
  else if c.letter = 'x' ∨ c.letter = 'X' then
    let digits := atLeast (Nat.toDigits 16 unsigned)
    let digits := if c.letter = 'X' then digits.map Char.toUpper else digits
    c.padNumber (if c.has '#' ∧ unsigned ≠ 0 then ['0', c.letter] else []) digits zeros
  else if c.letter = 'u' then c.padNumber [] (atLeast (Nat.toDigits 10 unsigned)) zeros
  else c.padNumber (c.sign (decide (n < 0))) (atLeast (Nat.toDigits 10 n.natAbs)) zeros

/-! ### Fractions -/

/-- Digits with a point, `places` of them behind it. -/
def withPoint (c : Conversion) (n places : Nat) : List Char :=
  let digits := Nat.toDigits 10 n
  let digits := List.replicate (places + 1 - digits.length) '0' ++ digits
  let whole := digits.take (digits.length - places)
  if places = 0 ∧ c.has '#' = false then whole
  else whole ++ '.' :: digits.drop (digits.length - places)

/-- The digits of a fraction in positional form. -/
def positional (c : Conversion) (n d places : Nat) : List Char :=
  c.withPoint (Binary64.roundQuotient (n * tenTo places) d) places

/-- The decimal exponent of a fraction: the place of its first digit. -/
def exponentOf (n d : Nat) : Int :=
  if n = 0 then 0
  else
    let guess := ((Nat.toDigits 10 n).length : Int) - (Nat.toDigits 10 d).length
    -- The guess is right or one too high.
    let below : Bool :=
      if 0 ≤ guess then n < d * tenTo guess.toNat else n * tenTo guess.natAbs < d
    if below then guess - 1 else guess

/-- A fraction times a power of ten, rounded. -/
def scaled (n d : Nat) (power : Int) : Nat :=
  if 0 ≤ power then Binary64.roundQuotient (n * tenTo power.toNat) d
  else Binary64.roundQuotient n (d * tenTo power.natAbs)

/-- The significand, a whole number with `places` digits behind the first, and the exponent. -/
def scientificParts (n d places : Nat) : Nat × Int :=
  let e := exponentOf n d
  let m := scaled n d ((places : Int) - e)
  if m = tenTo (places + 1) then (tenTo places, e + 1) else (m, e)

/-- An exponent, with two digits at least. -/
def exponentText (mark : Char) (e : Int) : List Char :=
  let digits := Nat.toDigits 10 e.natAbs
  mark :: (if e < 0 then '-' else '+') :: (List.replicate (2 - digits.length) '0' ++ digits)

/-- Drop the zeros behind the point, and a point with nothing behind it. -/
def trimZeros (digits : List Char) : List Char :=
  if digits.contains '.' then
    let cs := digits.reverse.dropWhile (· = '0')
    (match cs with
      | '.' :: cs => cs
      | cs => cs).reverse
  else digits

/-- A finite number, as a fraction of whole numbers. -/
def fraction (c : Conversion) (negative : Bool) (n d : Nat) : List Char :=
  let lower := c.letter.toLower
  let mark := if c.letter.isUpper then 'E' else 'e'
  let sign := c.sign negative
  let places := c.precision.getD 6
  if lower = 'f' then c.padNumber sign (c.positional n d places) true
  else if lower = 'e' then
    let (m, e) := scientificParts n d places
    c.padNumber sign (c.withPoint m places ++ exponentText mark e) true
  else
    let places := max places 1
    let (m, e) := scientificParts n d (places - 1)
    let trim (cs : List Char) : List Char := if c.has '#' then cs else trimZeros cs
    if -4 ≤ e ∧ e < places then
      c.padNumber sign (trim (c.positional n d ((places : Int) - 1 - e).toNat)) true
    else c.padNumber sign (trim (c.withPoint m (places - 1)) ++ exponentText mark e) true

/-- A number that is not finite. -/
def special (c : Conversion) (negative : Bool) (name : String) : List Char :=
  let name := if c.letter.isUpper then name.toUpper else name
  c.pad (c.sign negative ++ name.toList)

/-- The significand of a fraction in hexadecimal digits, a number of which stand behind the first
one, and the power of two for it.  A significand that rounds up to one more digit loses the last
one. -/
def hexParts (f : FloatFormat) (n d : Nat) (places : Nat) : Nat × Int :=
  let (m, e) := f.significand n d
  let full := (f.bits - f.leading) / 4
  if full ≤ places then (m * twoTo (4 * (places - full)), e + 4 * (full : Int))
  else
    let m := Binary64.roundQuotient m (twoTo (4 * (full - places)))
    if f.leading = 4 ∧ m = twoTo (4 * (places + 1)) then
      (m / 16, e + 4 * (full : Int) + 4)
    else (m, e + 4 * (full : Int))

/-- A fraction in hexadecimal digits. -/
def hexFraction (c : Conversion) (f : FloatFormat) (negative : Bool) (n d : Nat) : List Char :=
  let full := (f.bits - f.leading) / 4
  let places := c.precision.getD full
  let (m, e) := if n = 0 then (0, 0) else hexParts f n d places
  let digits := Nat.toDigits 16 m
  let digits := List.replicate (places + 1 - digits.length) '0' ++ digits
  let whole := digits.take (digits.length - places)
  let part := digits.drop (digits.length - places)
  let part :=
    if c.precision.isNone then (part.reverse.dropWhile (· = '0')).reverse else part
  let body := whole ++ (if part.isEmpty && !c.has '#' then [] else '.' :: part)
    ++ 'p' :: (if e < 0 then '-' else '+') :: Nat.toDigits 10 e.natAbs
  let (mark, body) := if c.letter = 'A' then (['0', 'X'], body.map Char.toUpper)
    else (['0', 'x'], body)
  c.padNumber (c.sign negative ++ mark) body true

/-- A number of a format of floating-point numbers. -/
def quantity (c : Conversion) (f : FloatFormat) : Quantity → List Char
  | .undefined negative => c.special negative "nan"
  | .infinite negative => c.special negative "inf"
  | .finite negative n d =>
      if c.letter.toLower = 'a' then c.hexFraction f negative n d else c.fraction negative n d

/-- A number of 64 bits. -/
def float (c : Conversion) (x : Binary64) : List Char :=
  c.quantity .double (Quantity.ofBinary64 x)

end Conversion

/-! ### Reading -/

/-- What was read of a number: its value, what is left, whether there was one at all, and
whether it was out of range. -/
structure Read (α : Type) where
  value : α
  rest : List Char
  found : Bool
  inRange : Bool := true

/-- Take a sign. -/
def takeSign : List Char → Bool × List Char
  | '-' :: cs => (true, cs)
  | '+' :: cs => (false, cs)
  | cs => (false, cs)

/-- Whether a character is a blank in front of a number. -/
def isBlank (c : Char) : Bool := c = ' ' || ('\t' ≤ c && c ≤ '\r')

/-- Read a whole number, hexadecimal behind 0x and octal behind 0.  What is out of range becomes
the nearest number that is not. -/
def readInteger (text : String) (signed : Bool) : Read Int :=
  let all := text.toList
  let (negative, cs) := takeSign (all.dropWhile isBlank)
  let (base, digits, rest) := match cs with
    | '0' :: x :: more =>
        let hex := more.takeWhile isHex
        if (x = 'x' ∨ x = 'X') ∧ !hex.isEmpty then (16, hex, more.drop hex.length)
        else
          let octal := cs.takeWhile fun c => '0' ≤ c && c ≤ '7'
          (8, octal, cs.drop octal.length)
    | cs =>
        let digits := cs.takeWhile Char.isDigit
        (10, digits, cs.drop digits.length)
  if digits.isEmpty then ⟨0, all, false, true⟩
  else
    let n : Int := numberOf base digits
    let n := if negative then -n else n
    if signed then
      let low : Int := -(twoTo 63 : Int)
      let high : Int := (twoTo 63 : Int) - 1
      ⟨max low (min high n), rest, true, decide (low ≤ n ∧ n ≤ high)⟩
    else
      let limit : Int := (twoTo 64 : Int) - 1
      if n.natAbs ≤ limit.toNat then ⟨n, rest, true, true⟩ else ⟨limit, rest, true, false⟩

/-- Take digits, and more of them behind a point. -/
def takePlaces (isDigit : Char → Bool) (cs : List Char) : List Char × List Char × List Char :=
  let whole := cs.takeWhile isDigit
  match cs.drop whole.length with
  | '.' :: more =>
      let places := more.takeWhile isDigit
      if whole.isEmpty && places.isEmpty then ([], [], cs)
      else (whole, places, more.drop places.length)
  | rest => (whole, [], rest)

/-- Take an exponent behind its letter; no number is so great that a greater one matters. -/
def takeExponent (letter : Char) (cs : List Char) : Int × List Char :=
  match cs with
  | e :: more =>
      let (minus, digits) := takeSign more
      let found := digits.takeWhile Char.isDigit
      if e.toLower ≠ letter || found.isEmpty then (0, cs)
      else
        let n := min (numberOf 10 found) 20000
        (if minus then -(n : Int) else n, digits.drop found.length)
  | [] => (0, [])

/-- What may stand behind the name of what is no number. -/
def dropPayload (cs : List Char) : List Char :=
  match cs with
  | '(' :: more =>
      match more.dropWhile fun c => c.isAlphanum || c = '_' with
      | ')' :: rest => rest
      | _ => cs
  | _ => cs

/-- Read a number that need not be whole. -/
def readQuantity (text : String) : Read Quantity :=
  let all := text.toList
  let (negative, cs) := takeSign (all.dropWhile isBlank)
  let lower := cs.map Char.toLower
  if "infinity".toList.isPrefixOf lower then ⟨.infinite negative, cs.drop 8, true, true⟩
  else if "inf".toList.isPrefixOf lower then ⟨.infinite negative, cs.drop 3, true, true⟩
  else if "nan".toList.isPrefixOf lower then
    ⟨.undefined negative, dropPayload (cs.drop 3), true, true⟩
  else
    let (whole, places, rest) := takePlaces isHex (cs.drop 2)
    if "0x".toList.isPrefixOf lower && !(whole.isEmpty && places.isEmpty) then
      let (exponent, rest) := takeExponent 'p' rest
      let (n, d) := FloatFormat.fraction (numberOf 16 (whole ++ places))
        (exponent - 4 * (places.length : Int))
      ⟨.finite negative n d, rest, true, true⟩
    else
      let (whole, places, rest) := takePlaces Char.isDigit cs
      if whole.isEmpty && places.isEmpty then ⟨.finite false 0 1, all, false, true⟩
      else
        let (exponent, rest) := takeExponent 'e' rest
        let n := digitsValue (whole ++ places)
        let power := exponent - places.length
        let value : Quantity :=
          if 0 ≤ power then .finite negative (n * tenTo power.toNat) 1
          else .finite negative n (tenTo power.natAbs)
        ⟨value, rest, true, true⟩

/-- Read a number of a format of floating-point numbers. -/
def readNearest (f : FloatFormat) (text : String) : Read Quantity :=
  let r := readQuantity text
  let (value, inRange) := f.round r.value
  ⟨value, r.rest, r.found, inRange⟩

/-- Read a number of 64 bits. -/
def readFraction (text : String) : Read Binary64 :=
  let r := readQuantity text
  ⟨r.value.toBinary64, r.rest, r.found, r.inRange⟩

end ToyLang.Format
