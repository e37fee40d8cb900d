import ToyLang.Format.Number
import ToyLang.Tools.Basic

/-!
# Programs on numbers

Of the prime factors of a number, small ones are found by trying; of what is left, a test tells the
primes, and a walk through the residues finds a divisor of any other number.

A row of numbers goes from one number to another by a step.  Each of its numbers is the first one
and a multiple of the step, in floating-point arithmetic.

## Main definitions

* `isProbablePrime` — whether a number passes the test.
* `primeFactors` — the primes of a number, in order.
* `factor` — the primes of numbers that are given.
* `Bound` — a number with the form in which it is given.
* `RowFormat` — how the numbers are shown.
* `seq` — numbers in a row.
-/

namespace ToyLang.Tools

open Format Run

/-! ### Prime factors -/

/-- A power modulo `m`. -/
def powerModulo (m : Nat) (b : Nat) : (e : Nat) → Nat
  | 0 => 1 % m
  | e + 1 =>
      let half := powerModulo m (b * b % m) ((e + 1) / 2)
      if (e + 1) % 2 = 1 then half * b % m else half
termination_by e => e
decreasing_by omega

/-- Whether repeated squaring reaches the residue before one. -/
def reachesLast (n : Nat) : (squarings x : Nat) → Bool
  | 0, _ => false
  | k + 1, x => x = n - 1 || reachesLast n k (x * x % n)

/-- Take the factors two out of a number: how many there are, and the odd rest. -/
def oddPart : (steps n : Nat) → Nat × Nat
  | 0, n => (0, n)
  | steps + 1, n =>
      if n % 2 = 0 then
        let (k, odd) := oddPart steps (n / 2)
        (k + 1, odd)
      else (0, n)

/-- The bases of the test; they settle it for all numbers below `3 * 10 ^ 24`. -/
def testBases : List Nat := [2, 3, 5, 7, 11, 13, 17, 19, 23, 29, 31, 37, 41]

/-- Whether an odd number above the bases passes the test for primes. -/
def isProbablePrime (n : Nat) : Bool :=
  let (k, odd) := oddPart (Nat.log2 n + 1) (n - 1)
  testBases.all fun b =>
    let x := powerModulo n b odd
    x = 1 || reachesLast n k x

/-- Walk through the residues of `x * x + c` at two speeds until they meet modulo a divisor. -/
def walkForDivisor (n c : Nat) : (steps x y : Nat) → Option Nat
  | 0, _, _ => none
  | steps + 1, x, y =>
      let next (x : Nat) : Nat := (x * x + c) % n
      let x := next x
      let y := next (next y)
      let d := Nat.gcd (if x < y then y - x else x - y) n
      if d = n then none
      else if d = 1 then walkForDivisor n c steps x y
      else some d

/-- A divisor of a number that is not prime, by one of several walks. -/
def divisor? (n : Nat) : Option Nat :=
  [1, 2, 3, 5, 7, 11].findSome? fun c => walkForDivisor n c rounds 2 2

/-- The greatest divisor that is tried. -/
def lastTried : Nat := 10000

/-- Take out the divisors from `d` on that are tried: those that were found, and the rest. -/
def tryDivisors : (steps : Nat) → (n d : Nat) → List Nat × Nat
  | 0, n, _ => ([], n)
  | steps + 1, n, d =>
      if n < d * d || lastTried < d then ([], n)
      else if n % d = 0 then
        let (found, rest) := tryDivisors steps (n / d) d
        (d :: found, rest)
      else tryDivisors steps n (if d = 2 then 3 else d + 2)

/-- The primes of a number without small divisors; `depth` bounds how often it is divided. -/
def primesOf : (depth : Nat) → Nat → List Nat
  | 0, n => [n]
  | depth + 1, n =>
      if n ≤ 1 then []
      else if n < lastTried * lastTried || isProbablePrime n then [n]
      else match divisor? n with
        | some d => primesOf depth d ++ primesOf depth (n / d)
        | none => [n]

/-- The primes of a number, in order. -/
def primeFactors (n : Nat) : List Nat :=
  let (found, rest) := tryDivisors (lastTried + Nat.log2 n) n 2
  found ++ (primesOf (Nat.log2 rest + 1) rest).mergeSort

/-- Show the primes of numbers. -/
def factor : Tool := fun name arguments =>
  withOptions name {} arguments fun g => do
    let words ← if g.operands.isEmpty then do
        match ← readAll 0 with
        | .ok text =>
            let blank (c : Char) : Char := if c = '\n' || c = '\t' then ' ' else c
            pure (((String.ofList (text.toList.map blank)).splitOn " ").filter (· ≠ ""))
        | .error _ => pure []
      else pure g.operands
    let mut status := 0
    for w in words do
      let cs := w.toList.dropWhile (· = ' ')
      let cs := if cs.head? = some '+' then cs.drop 1 else cs
      if cs.isEmpty || !cs.all Char.isDigit then
        blame name (mentioned w ++ " is not a valid positive integer")
        status := 1
      else
        let n := Nat.ofDigitChars 10 cs 0
        put (toString n ++ ":" ++ String.join
          ((if n = 0 then [] else primeFactors n).map fun p => " " ++ toString p) ++ "\n")
    return status

/-! ### The numbers that are given -/

/-- A number, how wide it is, and its digits behind the point, if it has a decimal form. -/
structure Bound where
  value : Quantity
  width : Int := 0
  places : Option Nat := none

namespace Bound

/-- The number of a row that is not given. -/
def one : Bound := ⟨Quantity.ofInt 1, 1, some 0⟩

/-- The width of a decimal number without its sign for positive ones, and its digits behind the
point. -/
def measure (cs : List Char) : Int × Nat :=
  let before := cs.takeWhile fun c => c ≠ '.' && c ≠ 'e' && c ≠ 'E'
  let rest := cs.drop before.length
  let hasPoint := rest.head? = some '.'
  let part := if hasPoint then (rest.drop 1).takeWhile fun c => c ≠ 'e' && c ≠ 'E' else []
  let mark := rest.drop (if hasPoint then part.length + 1 else 0)
  let opens := !before.getLast?.any Char.isDigit
  let width : Int := (before.length + (if hasPoint then part.length + 1 else 0) : Nat)
  let width := if !hasPoint then width
    else if part.isEmpty then width - 1
    else if opens then width + 1 else width
  if mark.isEmpty then (width, part.length)
  else
    let (exponent, _) := takeExponent 'e' mark
    if exponent < 0 then
      let width := if !hasPoint || part.isEmpty then width + 1 else width
      (width + exponent.natAbs, part.length + exponent.natAbs)
    else
      let places := part.length - exponent.toNat
      let width := if hasPoint && places = 0 && !part.isEmpty then width - 1 else width
      (width + ((exponent.toNat - part.length : Nat) : Int), places)

/-- Read a number of a row, or say why it is none. -/
def ofText (text : String) : Except String Bound :=
  let r := readNearest .extended text
  if !r.found || !r.rest.isEmpty || (r.value matches .infinite _ && !r.inRange) then
    .error ("invalid floating point argument: " ++ mentioned text)
  else match r.value with
    | .undefined _ =>
        .error ("invalid " ++ mentioned "not-a-number" ++ " argument: " ++ mentioned text)
    | value =>
        let cs := text.toList.dropWhile fun c => Format.isBlank c || c = '+'
        let isFinite := value matches .finite _ _ _
        let places := if cs.contains '.' || cs.contains 'p' then none else some 0
        if cs.any (fun c => c = 'x' || c = 'X') || !isFinite then .ok ⟨value, 0, places⟩
        else
          let (width, places) := measure cs
          .ok ⟨value, width, some places⟩

end Bound

/-! ### How numbers are shown -/

/-- A conversion with texts around it. -/
structure RowFormat where
  before : String := ""
  conversion : Conversion
  after : String := ""

namespace RowFormat

/-- A number as it is shown, without the texts around it. -/
def bare (f : RowFormat) (x : Quantity) : String :=
  String.ofList (f.conversion.quantity .extended x)

/-- A number as it is shown. -/
def text (f : RowFormat) (x : Quantity) : String := f.before ++ f.bare x ++ f.after

/-- Text of a format up to a single percent sign, and what is left. -/
def takePlain : List Char → List Char × List Char
  | '%' :: '%' :: cs =>
      let (found, rest) := takePlain cs
      ('%' :: found, rest)
  | '%' :: cs => ([], '%' :: cs)
  | c :: cs =>
      let (found, rest) := takePlain cs
      (c :: found, rest)
  | [] => ([], [])

/-- Read a format, which has exactly one conversion, or say what is wrong with it. -/
def ofText (text : String) : Except String RowFormat :=
  let refuse (rest : String) : Except String RowFormat :=
    .error ("format " ++ mentioned text ++ " " ++ rest)
  match takePlain text.toList with
  | (before, '%' :: cs) =>
      let flags := cs.takeWhile ['-', '+', '#', '0', ' ', '\''].contains
      let cs := cs.drop flags.length
      let width := cs.takeWhile Char.isDigit
      let cs := cs.drop width.length
      let (precision, cs) : Option (List Char) × List Char := match cs with
        | '.' :: more =>
            let digits := more.takeWhile Char.isDigit
            (some digits, more.drop digits.length)
        | _ => (none, cs)
      let cs := if cs.head? = some 'L' then cs.drop 1 else cs
      match cs with
      | [] => refuse "ends in %"
      | letter :: rest =>
          if !"efgaEFGA".contains letter then
            refuse ("has unknown %" ++ String.singleton letter ++ " directive")
          else match takePlain rest with
            | (after, []) =>
                let number (cs : List Char) : Nat := Nat.ofDigitChars 10 cs 0
                .ok ⟨String.ofList before, ⟨flags, number width, precision.map number, letter⟩,
                  String.ofList after⟩
            | _ => refuse "has too many % directives"
  | _ => refuse "has no % directive"

/-- The format for numbers that are given in some forms. -/
def usual (first step last : Bound) (equalWidth : Bool) : RowFormat :=
  match first.places, step.places, last.places with
  | some a, some b, some c =>
      let places := max a b
      if equalWidth then
        let firstWidth : Int := first.width + ((places - a : Nat) : Int)
          + (if a = 0 ∧ places ≠ 0 then 1 else 0)
        let lastWidth : Int := last.width + ((places : Int) - c)
          + (if c ≠ 0 ∧ places = 0 then -1 else if c = 0 ∧ places ≠ 0 then 1 else 0)
        let width := (max firstWidth lastWidth).toNat
        { conversion := ⟨['0'], width, some places, 'f'⟩ }
      else { conversion := ⟨[], 0, some places, 'f'⟩ }
  | _, _, _ => { conversion := ⟨[], 0, none, 'g'⟩ }

end RowFormat

/-! ### The row -/

/-- Whether a number lies beyond the last one. -/
def isBeyond (step last x : Quantity) : Bool :=
  if step.isLess (Quantity.ofInt 0) then x.isLess last else last.isLess x

/-- The number of a row with a place. -/
def rowNumber (first step : Quantity) (i : Nat) : Quantity :=
  let multiple := FloatFormat.extended.nearest ((Quantity.ofInt i).mul step)
  FloatFormat.extended.nearest (first.add multiple)

/-- Whether a number just beyond the last one is shown like it, and unlike the one before. -/
def isLastShown (f : RowFormat) (last before x : Quantity) : Bool :=
  let shown := f.bare x
  let r := readNearest .extended shown
  r.found && r.rest.isEmpty && r.value.compare? last = some .eq && f.bare before ≠ shown

/-- The texts of a row from a place on; `limit` bounds how many there are. -/
def rowFrom (f : RowFormat) (first step last : Quantity) : (limit i : Nat) → (before : Quantity) →
    List String
  | 0, _, _ => []
  | limit + 1, i, before =>
      let x := rowNumber first step i
      if isBeyond step last x then
        if isLastShown f last before x then [f.text x] else []
      else f.text x :: rowFrom f first step last limit (i + 1) x

/-- The texts of a row. -/
def row (f : RowFormat) (first step last : Quantity) : List String :=
  if isBeyond step last first then []
  else f.text first :: rowFrom f first step last rounds 1 first

/-- Whole numbers from one on. -/
def wholeRow (step : Nat) : (limit : Nat) → Nat → List String
  | 0, _ => []
  | limit + 1, n => toString n :: wholeRow step limit (n + step)

/-- The whole number that a quantity is. -/
def wholeNumber? : Quantity → Option Nat
  | .finite false n d => some (n / d)
  | _ => none

/-- The greatest step of a row of whole numbers that is shown exactly. -/
def exactStep : Nat := 200

/-- The row of whole numbers without any rounding, if the numbers that are given are such. -/
def exactRow? (first step last : Bound) : Option (List String) :=
  match wholeNumber? first.value, wholeNumber? step.value with
  | some a, some s =>
      if first.places ≠ some 0 ∨ step.places ≠ some 0 ∨ last.places ≠ some 0 then none
      else if s = 0 ∨ exactStep < s then none
      else match last.value with
        | .finite false n d =>
            let z := n / d
            some (if z < a then [] else wholeRow s (min rounds ((z - a) / s + 1)) a)
        | .infinite false => some (wholeRow s rounds a)
        | _ => none
  | _, _ => none

/-- A bound that is given by digits alone, which are exact. -/
def digitsBound? (text : String) : Option Bound :=
  if text ≠ "" ∧ text.toList.all Char.isDigit then
    some ⟨Quantity.ofInt (Nat.ofDigitChars 10 text.toList 0), text.length, some 0⟩
  else none

/-- Show numbers in a row. -/
def seq : Tool := fun name arguments =>
  -- A negative number is no option.
  let isNegative (a : String) : Bool := match a.toList with
    | '-' :: c :: _ => c.isDigit || c = '.'
    | _ => false
  let marked := arguments.map fun a => if isNegative a then "\x00" ++ a else a
  withOptions name
    { flags := "w", valued := "fs", inOrder := true
      long := [("equal-width", 'w', .none), ("separator", 's', .required),
        ("format", 'f', .required)] } marked fun g => do
    let unmark (a : String) : String :=
      if a.startsWith "\x00" then String.ofList (a.toList.drop 1) else a
    let operands := g.operands.map unmark
    if operands.isEmpty then return ← missingOperand name []
    if let _ :: _ :: _ :: extra :: _ := operands then return ← extraOperand name extra
    let format? ← match (g.value? 'f').map (fun f => RowFormat.ofText (unmark f)) with
      | some (.error text) => do
          blame name text
          return 1
      | some (.ok f) => pure (some f)
      | none => pure none
    if format?.isSome && g.has 'w' then
      return ← misused name
        "format string may not be specified when printing equal width strings"
    let separator := unmark ((g.value? 's').getD "\n")
    let bare := format?.isNone && !g.has 'w' && separator.utf8ByteSize = 1
    let emit (texts : List String) : Run Nat := do
      if !texts.isEmpty then put (separator.intercalate texts ++ "\n")
      return 0
    let arranged (bounds : List Bound) : Bound × Bound × Bound := match bounds with
      | [last] => (.one, .one, last)
      | [first, last] => (first, .one, last)
      | first :: step :: last :: _ => (first, step, last)
      | [] => (.one, .one, .one)
    if bare then
      let given := operands.filterMap digitsBound?
      if given.length = operands.length then
        let (first, step, last) := arranged given
        if let some texts := exactRow? first step last then return ← emit texts
    match operands.mapM Bound.ofText with
    | .error text => misused name text
    | .ok bounds =>
        let (first, step, last) := arranged bounds
        if step.value.compare? (Quantity.ofInt 0) = some .eq then
          return ← misused name
            ("invalid Zero increment value: " ++ mentioned (operands.getD 1 ""))
        if bare then
          if let some texts := exactRow? first step last then return ← emit texts
        let f := format?.getD (.usual first step last (g.has 'w'))
        emit (row f first.value step.value last.value)

end ToyLang.Tools
