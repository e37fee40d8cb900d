import ToyLang.Format.Number
import ToyLang.Tools.Cut

/-!
# Scaled numbers

Numbers with a letter for a power of 1000 or 1024, read and shown.

## Main definitions

* `Scale` — which letters there are, and what they stand for.
* `ScaledFormat` — how numbers are shown.
* `numfmt` — numbers in another scale.
-/

namespace ToyLang.Tools

open Run Format

/-- Which letters there are behind numbers, and what they stand for. -/
inductive Scale where
  | plain
  /-- Powers of 1000, or of 1024 if a second letter says so. -/
  | auto
  | thousands
  | binary
  /-- Powers of 1024, always with a second letter. -/
  | binaryMarked
  deriving DecidableEq

/-- The number whose powers the letters stand for. -/
def Scale.base : Scale → Nat
  | .binary | .binaryMarked => 1024
  | _ => 1000

/-- The letters in order of the powers that they stand for. -/
def powerLetters : List Char := ['K', 'M', 'G', 'T', 'P', 'E', 'Z', 'Y']

/-- Which way numbers are rounded. -/
inductive Rounding where
  | up
  | down
  | fromZero
  | towardsZero
  | nearest
  deriving DecidableEq

/-- The nearest number of the floating-point format that all values have. -/
def held (x : Quantity) : Quantity := FloatFormat.extended.nearest x

/-- A product as a floating-point number. -/
def heldProduct (x : Quantity) (n : Nat) : Quantity := held (x.mul (Quantity.ofInt n))

/-- A quotient as a floating-point number. -/
def heldQuotient (x : Quantity) (n : Nat) : Quantity := held (x.mul (.finite false 1 n))

/-- A whole number near a quantity. -/
def Rounding.apply (r : Rounding) : Quantity → Quantity
  | .finite negative n d =>
      let away (half : Bool) : Nat := if half then (2 * n + d) / (2 * d) else (n + d - 1) / d
      let m := match r with
        | .up => if negative then n / d else away false
        | .down => if negative then away false else n / d
        | .fromZero => away false
        | .towardsZero => n / d
        | .nearest => away true
      .finite (negative && m ≠ 0) m 1
  | x => x

/-! ### Reading -/

/-- The most digits of a number that is read. -/
def digitLimit : Nat := 27

/-- The most digits of a number that is shown without a letter. -/
def plainDigitLimit : Nat := 18

/-- Read digits one by one. -/
def heldDigits (cs : List Char) : Quantity :=
  cs.foldl (fun x c => held ((heldProduct x 10).add (Quantity.ofInt (c.toNat - '0'.toNat))))
    (Quantity.ofInt 0)

/-- How many digits count. -/
def countedDigits (cs : List Char) : Nat := (cs.dropWhile (· = '0')).length

/-- Read a number with a point: its value, its digits behind the point, and what is left. -/
def readDecimal (text : String) : Except String (Quantity × Nat × List Char) :=
  let invalid : Except String (Quantity × Nat × List Char) :=
    .error ("invalid number: " ++ mentioned text)
  let (negative, cs) := match text.toList with
    | '-' :: cs => (true, cs)
    | cs => (false, cs)
  let whole := cs.takeWhile Char.isDigit
  let rest := cs.drop whole.length
  let sign (x : Quantity) : Quantity := if negative then x.negate else x
  if digitLimit < countedDigits whole then
    .error ("value too large to be converted: " ++ mentioned text)
  else match rest with
    | '.' :: more =>
        let part := more.takeWhile Char.isDigit
        if part.isEmpty && !(more.head? = some '.') then invalid
        else if digitLimit < countedDigits part then
          .error ("value too large to be converted: " ++ mentioned text)
        else
          let value := held ((heldDigits whole).add
            (heldQuotient (heldDigits part) (tenTo part.length)))
          .ok (sign value, part.length, more.drop part.length)
    | rest => if whole.isEmpty then invalid else .ok (sign (heldDigits whole), 0, rest)

/-- Read a number with its letters: its value, and its digits behind the point. -/
def Scale.read (s : Scale) (text : String) : Except String (Quantity × Nat) := do
  let (value, places, rest) ← readDecimal text
  let invalid : Except String (Nat × Nat × Nat × List Char) :=
    .error ("invalid suffix in input: " ++ mentioned text)
  let (power, base, places, rest) ← match rest with
    | [] => pure (0, s.base, places, [])
    | rest =>
        match rest.dropWhile fun c => c = ' ' || c = '\t' with
        | letter :: rest =>
            match powerLetters.findIdx? (· = letter) with
            | none => invalid
            | some i =>
                if s = .plain then
                  .error ("rejecting suffix in input: " ++ mentioned text
                    ++ " (consider using --from)")
                else match s, rest with
                  | .auto, 'i' :: rest => pure (i + 1, 1024, 0, rest)
                  | _, _ => pure (i + 1, s.base, 0, rest)
        | [] => invalid
  let rest ← match s, rest with
    | .binaryMarked, 'i' :: rest => pure rest
    | .binaryMarked, _ =>
        .error ("missing 'i' suffix in input: " ++ mentioned text ++ " (e.g Ki/Mi/Gi)")
    | _, rest => pure rest
  if !rest.isEmpty then
    throw ("invalid suffix in input " ++ mentioned text ++ ": "
      ++ mentioned (String.ofList rest))
  return (heldProduct value (Nat.pow base power), places)

/-! ### Showing -/

/-- How numbers are shown. -/
structure ScaledFormat where
  scale : Scale := .plain
  rounding : Rounding := .fromZero
  before : String := ""
  after : String := ""
  /-- What stands behind every number. -/
  ending : String := ""
  /-- The width, and whether it is filled behind the number. -/
  width : Nat := 0
  toLeft : Bool := false
  /-- The width that is filled with zeros. -/
  zeros : Nat := 0
  places : Option Nat := none

/-- Divide by the base until the number is less than it: what is left, and how often. -/
def normalized (base : Nat) : (steps : Nat) → Quantity → Quantity × Nat
  | 0, x => (x, 0)
  | steps + 1, x =>
      match x with
      | .finite _ n d =>
          if n < base * d then (x, 0)
          else
            let (x, power) := normalized base steps (heldQuotient x base)
            (x, power + 1)
      | x => (x, 0)

/-- Whether an absolute value is less than a whole number. -/
def isWithin (x : Quantity) (limit : Nat) : Bool := match x with
  | .finite _ n d => n < limit * d
  | _ => false

namespace ScaledFormat

/-- A number rounded to some digits behind the point. -/
def rounded (f : ScaledFormat) (x : Quantity) (places : Nat) : Quantity :=
  heldQuotient (f.rounding.apply (heldProduct x (tenTo places))) (tenTo places)

/-- The digits of a number with so many behind the point. -/
def digits (f : ScaledFormat) (x : Quantity) (places : Nat) : String :=
  let c : Conversion := ⟨if f.zeros = 0 then [] else ['0'], f.zeros, some places, 'f'⟩
  String.ofList (c.quantity .extended x)

/-- A number with its letters. -/
def bare (f : ScaledFormat) (x : Quantity) (places : Nat) : String :=
  if f.scale = .plain then
    let places := f.places.getD places
    f.digits (f.rounded x places) places
  else
    let (x, power) := normalized f.scale.base 20 x
    let kept := match f.places with
      | some n => min (3 * power) n
      | none => if isWithin x 10 then 1 else 0
    let x := f.rounded x kept
    let (x, power) :=
      if isWithin x f.scale.base then (x, power) else (heldQuotient x f.scale.base, power + 1)
    let isZero := x.compare? (Quantity.ofInt 0) = some .eq
    let usual := if !isZero && isWithin x 10 && power ≠ 0 then 1 else 0
    f.digits x (f.places.getD usual)
      ++ (if power = 0 then "" else String.ofList ((powerLetters[power - 1]?).toList))
      ++ (if f.scale = .binaryMarked ∧ power ≠ 0 then "i" else "")

/-- A number with all that is around it, or why it cannot be shown. -/
def text (f : ScaledFormat) (x : Quantity) (places : Nat) : Except String String :=
  let (_, power) := normalized 10 5000 x
  let used := f.places.getD places
  let short : String := String.ofList ((Conversion.mk [] 0 none 'g').quantity .extended x)
  if f.scale = .plain ∧ plainDigitLimit < power + used then
    if used = 0 then
      .error ("value too large to be printed: '" ++ short ++ "' (consider using --to)")
    else
      .error ("value/precision too large to be printed: '" ++ short ++ "/" ++ toString used
        ++ "' (consider using --to)")
  else if digitLimit - 1 < power then
    .error ("value too large to be printed: '" ++ short ++ "' (cannot handle values > 999Y)")
  else
    let shown := f.bare x places ++ f.ending
    let shown := if f.toLeft then padRight f.width shown else padLeft f.width shown
    .ok (f.before ++ shown ++ f.after)

/-- Flags of a conversion with blanks between them; whether zeros fill it, and what is left. -/
def takeFlags : List Char → Bool × List Char
  | '0' :: cs => (true, (takeFlags cs).2)
  | ' ' :: cs | '\'' :: cs => takeFlags cs
  | cs => (false, cs)

/-- The text in front of a percent sign that stands alone, and what is behind it. -/
def splitConversion? : List Char → Option (List Char × List Char)
  | [] => none
  | '%' :: '%' :: cs => (splitConversion? cs).map fun (found, rest) => ('%' :: found, rest)
  | '%' :: cs => some ([], cs)
  | c :: cs => (splitConversion? cs).map fun (found, rest) => (c :: found, rest)

/-- Read a format, or say what is wrong with it. -/
def withText (f : ScaledFormat) (text : String) : Except String ScaledFormat :=
  match splitConversion? text.toList with
  | none => .error ("format " ++ mentioned text ++ " has no % directive")
  | some (before, cs) =>
      let (zeros, cs) := takeFlags cs
      let (negative, cs) := takeSign cs
      let width := cs.takeWhile Char.isDigit
      let n := Nat.ofDigitChars 10 width 0
      let f := { f with before := String.ofList before }
      let f := if n = 0 then f
        else if negative then { f with width := n, toLeft := true }
        else if zeros then { f with zeros := n }
        else { f with width := n }
      let cs := cs.drop width.length
      let finish (f : ScaledFormat) (cs : List Char) : Except String ScaledFormat :=
        match cs with
        | [] => .error ("format " ++ mentioned text ++ " ends in %")
        | 'f' :: rest =>
            if (splitConversion? rest).isSome then
              .error ("format " ++ mentioned text ++ " has too many % directives")
            else .ok { f with after := String.ofList rest }
        | _ => .error ("invalid format " ++ mentioned text
            ++ ", directive must be %[0]['][-][N][.][N]f")
      match cs with
      | '.' :: more =>
          let digits := more.takeWhile Char.isDigit
          if (more.head?).any fun c => c = '-' || c = '+' || c = ' ' || c = '\t' then
            .error ("invalid precision in format " ++ mentioned text)
          else
            finish { f with places := some (Nat.ofDigitChars 10 digits 0) }
              (more.drop digits.length)
      | cs => finish f cs

end ScaledFormat

/-! ### The program -/

/-- What becomes of numbers that cannot be read. -/
inductive OnInvalid where
  | abort
  | fail
  | warn
  | ignore
  deriving DecidableEq

/-- What is done with the fields of lines. -/
structure Rescaling where
  source : Scale := .plain
  target : ScaledFormat := {}
  sourceUnit : Nat := 1
  targetUnit : Nat := 1
  /-- Whether fields keep their widths. -/
  keepsWidth : Bool := true
  separator : Option Char := none
  fields : List Span := [(1, some 1)]
  onInvalid : OnInvalid := .abort

/-- The fields of a line; blanks in front of one belong to it. -/
def blankFields (steps : Nat) (cs : List Char) : List (List Char) :=
  match steps with
  | 0 => [cs]
  | steps + 1 =>
      let blank (c : Char) : Bool := c = ' ' || c = '\t' || c = '\n'
      let lead := cs.takeWhile blank
      let body := (cs.drop lead.length).takeWhile fun c => !blank c
      let field := lead ++ body
      match cs.drop field.length with
      | [] => [field]
      | _ :: rest => field :: blankFields steps rest

namespace Rescaling

/-- A field in the other scale. -/
def field (r : Rescaling) (number : Nat) (text : String) : Except String String := do
  let ending := r.target.ending
  let text := if ending ≠ "" ∧ text.endsWith ending ∧ text ≠ ending then
    String.ofList (text.toList.take (text.length - ending.length)) else text
  let bare := String.ofList (text.toList.dropWhile fun c => c = ' ' || c = '\t')
  let width :=
    if !r.keepsWidth then r.target.width
    else if bare.length < text.length || 1 < number then text.length
    else 0
  let (value, places) ← r.source.read bare
  let value := if r.sourceUnit = 1 ∧ r.targetUnit = 1 then value
    else heldQuotient (heldProduct value r.sourceUnit) r.targetUnit
  { r.target with width := width }.text value places

/-- A line in the other scale: the text up to the first complaint, or all of it, and whether
everything could be read.  Complaints are made on the way. -/
def line (r : Rescaling) (name text : String) : Run (Bool × Bool) := do
  let (fields, separator) : List String × String := match r.separator with
    | some c => (text.splitOn (String.singleton c), String.singleton c)
    | none => ((blankFields text.length text.toList).map String.ofList, " ")
  let mut number := 0
  let mut valid := true
  for part in fields do
    number := number + 1
    if 1 < number then put separator
    if isInSpans r.fields number then
      match r.field number part with
      | .ok shown => put shown
      | .error complaint =>
          valid := false
          if r.onInvalid ≠ .ignore then blame name complaint
          if r.onInvalid = .abort then return (false, true)
          put part
    else put part
  return (valid, false)

end Rescaling

/-- The words for scales. -/
def scaleWords : List (List String × Scale) :=
  [(["none"], .plain), (["auto"], .auto), (["si"], .thousands), (["iec"], .binary),
    (["iec-i"], .binaryMarked)]

/-- The words for scales that numbers are shown in. -/
def targetWords : List (List String × Scale) := scaleWords.filter fun w => w.2 ≠ .auto

/-- The words for ways of rounding. -/
def roundingWords : List (List String × Rounding) :=
  [(["up"], .up), (["down"], .down), (["from-zero"], .fromZero),
    (["towards-zero"], .towardsZero), (["nearest"], .nearest)]

/-- The words for what becomes of numbers that cannot be read. -/
def invalidWords : List (List String × OnInvalid) :=
  [(["abort"], .abort), (["fail"], .fail), (["warn"], .warn), (["ignore"], .ignore)]

/-- A whole number other than zero, perhaps with a letter. -/
def unit? (text : String) : Option Nat :=
  match readDecimal text with
  | .ok (.finite false n d, 0, rest) =>
      let size : Option Nat := match rest with
        | [] => some 1
        | [letter] => (powerLetters.findIdx? (· = letter)).map fun i => Nat.pow 1000 (i + 1)
        | [letter, 'i'] => (powerLetters.findIdx? (· = letter)).map fun i => Nat.pow 1024 (i + 1)
        | _ => none
      (size.map (· * (n / d))).filter (· ≠ 0)
  | _ => none

/-- Show numbers in another scale. -/
def numfmt : Tool := fun name arguments =>
  withOptions name
    { flags := "z", valued := "d"
      long := [("from", 'F', .required), ("from-unit", 'U', .required), ("to", 'T', .required),
        ("to-unit", 'V', .required), ("round", 'r', .required), ("padding", 'p', .required),
        ("suffix", 's', .required), ("grouping", 'g', .none), ("delimiter", 'd', .required),
        ("field", 'f', .required), ("zero-terminated", 'z', .none), ("debug", 'D', .none),
        ("header", 'h', .optional), ("format", 'o', .required), ("invalid", 'i', .required)] }
    arguments fun g =>
      withChoice name "--from" ((g.value? 'F').getD "none") scaleWords fun source =>
      withChoice name "--to" ((g.value? 'T').getD "none") targetWords fun target =>
      withChoice name "--round" ((g.value? 'r').getD "from-zero") roundingWords fun rounding =>
      withChoice name "--invalid" ((g.value? 'i').getD "abort") invalidWords fun onInvalid => do
    let padding : Option Int := (g.value? 'p').map fun text => (text.toInt?).getD 0
    if padding = some 0 then
      blame name ("invalid padding value " ++ mentioned ((g.value? 'p').getD ""))
      return 1
    let units := [g.value? 'U', g.value? 'V'].filterMap id
    if let some bad := units.find? fun u => (unit? u).isNone then
      blame name ("invalid unit size: " ++ mentioned bad)
      return 1
    let separator := g.value? 'd'
    if (separator.map String.length).any (1 < ·) then
      blame name "the delimiter must be a single character"
      return 1
    let header := (g.value? 'h').map fun text => if text = "" then 1 else (text.toNat?).getD 0
    if header = some 0 then
      blame name ("invalid header value " ++ mentioned ((g.value? 'h').getD ""))
      return 1
    let fields ← match (g.value? 'f').map spansOfFields with
      | some (.error text) => do
          return ← misused name text
      | some (.ok spans) => pure spans
      | none => pure [(1, some 1)]
    let shown : ScaledFormat :=
      { scale := target, rounding := rounding, ending := (g.value? 's').getD ""
        width := (padding.map Int.natAbs).getD 0, toLeft := padding.any (· < 0) }
    if (g.value? 'o').isSome && g.has 'g' then
      blame name "--grouping cannot be combined with --format"
      return 1
    if g.has 'g' && target ≠ .plain then
      blame name "grouping cannot be combined with --to"
      return 1
    let shown ← match (g.value? 'o').map shown.withText with
      | some (.error text) => do
          blame name text
          return 1
      | some (.ok f) => pure f
      | none => pure shown
    let r : Rescaling :=
      { source := source, target := shown
        sourceUnit := ((g.value? 'U').bind unit?).getD 1
        targetUnit := ((g.value? 'V').bind unit?).getD 1
        keepsWidth := shown.width = 0 && separator.isNone
        separator := separator.map fun s => (s.toList.head?).getD '\x00'
        fields := fields, onInvalid := onInvalid }
    let stop := if g.has 'z' then "\x00" else "\n"
    let lines ← if g.operands.isEmpty then do
        match ← readAll 0 with
        | .ok text => pure (piecesOf stop text)
        | .error _ => pure []
      else pure g.operands
    let kept := if g.operands.isEmpty then header.getD 0 else 0
    for text in lines.take kept do
      put (text ++ stop)
    let mut status := 0
    for text in lines.drop kept do
      let (valid, stopped) ← r.line name text
      if stopped then return 2
      put stop
      if !valid && (onInvalid = .fail || onInvalid = .abort) then status := 2
    return status

end ToyLang.Tools
