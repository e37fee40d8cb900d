/-!
# Numerals

The powers that number formats are made of, decimal digits, and whole numbers in the range of a
signed 64-bit word.

## Main definitions

* `twoTo`, `tenTo` — the powers of two and of ten.
* `digitsValue` — the number that decimal digits denote.
* `int64Of?` — a whole number as a 64-bit word, if it is in range.
* `readInt64?`, `readHex64?` — words written as text.
-/

namespace ToyLang

/-- The power of two with a given exponent. -/
abbrev twoTo (exponent : Nat) : Nat := Nat.pow 2 exponent

/-- The power of ten with a given exponent. -/
abbrev tenTo (exponent : Nat) : Nat := Nat.pow 10 exponent

/-- The number that decimal digits denote, the most significant digit first. -/
def digitsValue (digits : List Char) : Nat := Nat.ofDigitChars 10 digits 0

/-- The signed 64-bit word of a whole number, if the number is in range. -/
def int64Of? (n : Int) : Option Int64 :=
  if Int64.minValue.toInt ≤ n ∧ n ≤ Int64.maxValue.toInt then some (Int64.ofInt n) else none

/-- The whole number denoted by decimal digits under an optional minus sign. -/
def signedValue (negative : Bool) (digits : List Char) : Int :=
  if negative then -(digitsValue digits : Int) else (digitsValue digits : Int)

/-- Digits that are present and decimal, as a number. -/
def readDigits? (digits : List Char) : Option Nat :=
  if digits ≠ [] ∧ digits.all Char.isDigit then some (digitsValue digits) else none

/-- A signed 64-bit word from text: an optional sign, then one or more decimal digits. -/
def readInt64? (text : String) : Option Int64 :=
  match text.toList with
  | '-' :: digits => (readDigits? digits).bind fun n => int64Of? (-(n : Int))
  | '+' :: digits => (readDigits? digits).bind fun n => int64Of? n
  | digits => (readDigits? digits).bind fun n => int64Of? n

/-- The value of a hexadecimal digit. -/
def hexDigit? (c : Char) : Option Nat :=
  if '0' ≤ c ∧ c ≤ '9' then some (c.toNat - '0'.toNat)
  else if 'a' ≤ c ∧ c ≤ 'f' then some (c.toNat - 'a'.toNat + 10)
  else if 'A' ≤ c ∧ c ≤ 'F' then some (c.toNat - 'A'.toNat + 10)
  else none

/-- The number that hexadecimal digits denote, if there is at least one and all are
digits. -/
def readHexDigits? (digits : List Char) : Option Nat :=
  if digits = [] then none
  else digits.foldlM (fun n c => (hexDigit? c).map fun d => 16 * n + d) 0

/-- An unsigned 64-bit word from hexadecimal text, which may begin with a plus sign. -/
def readHex64? (text : String) : Option UInt64 :=
  let digits := match text.toList with
    | '+' :: digits => digits
    | digits => digits
  (readHexDigits? digits).bind fun n =>
    if n < twoTo 64 then some (UInt64.ofNat n) else none

end ToyLang
