import ToyLang.Format.Number
import ToyLang.Tools.Basic

/-!
# Bytes in numbers

Bytes are shown in rows, each row in one or several styles.

## Main definitions

* `ByteStyle` — how bytes are shown.
* `dumpRow` — a row of bytes.
* `od` — the bytes of inputs.
-/

namespace ToyLang.Tools

open Run

/-! ### Styles -/

/-- What bytes are taken for. -/
inductive ByteKind where
  | octal
  | hex
  | unsigned
  | signed
  | float
  | char
  | name
  deriving DecidableEq

/-- How bytes are shown: for what they are taken, how many at once, and whether the printable ones
follow. -/
structure ByteStyle where
  kind : ByteKind
  size : Nat := 1
  trailer : Bool := false
  deriving DecidableEq

namespace ByteStyle

/-- The widths of floating-point numbers. -/
def floatWidth (size : Nat) : Nat := if size = 4 then 15 else if size = 8 then 24 else 29

/-- The width of a field. -/
def width (s : ByteStyle) : Nat :=
  match s.kind with
  | .octal => (8 * s.size + 2) / 3
  | .hex => 2 * s.size
  | .unsigned => (Nat.toDigits 10 (twoTo (8 * s.size) - 1)).length
  | .signed => (Nat.toDigits 10 (twoTo (8 * s.size) / 2)).length + 1
  | .float => floatWidth s.size
  | .char | .name => 3

end ByteStyle

/-- The sizes of whole numbers. -/
def integerSizes : List Nat := [1, 2, 4, 8]

/-- The sizes of floating-point numbers. -/
def floatSizes : List Nat := [4, 8, 16]

/-- Take the size of a number: digits, or a letter. -/
def takeSize (letters : List (Char × Nat)) (usual : Nat) (cs : List Char) : Nat × List Char :=
  let digits := cs.takeWhile Char.isDigit
  if !digits.isEmpty then (Nat.ofDigitChars 10 digits 0, cs.drop digits.length)
  else match cs with
    | c :: rest =>
        match letters.lookup c with
        | some size => (size, rest)
        | none => (usual, cs)
    | [] => (usual, [])

/-- The styles that a text spells, or what is wrong with it; each step takes a letter. -/
def readStyles (all : String) : (steps : Nat) → List Char → Except String (List ByteStyle)
  | _, [] => .ok []
  | 0, _ => .ok []
  | steps + 1, c :: cs => do
      let style (kind : ByteKind) (size : Nat) (rest : List Char) :
          Except String (List ByteStyle) := do
        let (trailer, rest) := match rest with
          | 'z' :: rest => (true, rest)
          | rest => (false, rest)
        let more ← readStyles all steps rest
        return ⟨kind, size, trailer⟩ :: more
      let integer (kind : ByteKind) : Except String (List ByteStyle) := do
        let (size, rest) := takeSize [('C', 1), ('S', 2), ('I', 4), ('L', 8)] 4 cs
        if !integerSizes.contains size then
          throw ("invalid type string " ++ mentioned all ++ ";\nthis system doesn't provide a "
            ++ toString size ++ "-byte integral type")
        style kind size rest
      match c with
      | 'o' => integer .octal
      | 'x' => integer .hex
      | 'u' => integer .unsigned
      | 'd' => integer .signed
      | 'f' =>
          let (size, rest) := takeSize [('F', 4), ('D', 8), ('L', 16)] 8 cs
          if !floatSizes.contains size then
            throw ("invalid type string " ++ mentioned all ++ ";\nthis system doesn't provide a "
              ++ toString size ++ "-byte floating point type")
          style .float size rest
      | 'a' => style .name 1 cs
      | 'c' => style .char 1 cs
      | c =>
          throw ("invalid character '" ++ String.singleton c ++ "' in type string "
            ++ mentioned all)

/-! ### Fields -/

/-- The names of the first bytes. -/
def byteNames : List String :=
  ["nul", "soh", "stx", "etx", "eot", "enq", "ack", "bel", "bs", "ht", "nl", "vt", "ff", "cr", "so",
    "si", "dle", "dc1", "dc2", "dc3", "dc4", "nak", "syn", "etb", "can", "em", "sub", "esc", "fs",
    "gs", "rs", "us", "sp"]

/-- Digits with zeros in front of them. -/
def zeroPadded (base width n : Nat) : String :=
  let digits := Nat.toDigits base n
  String.ofList (List.replicate (width - digits.length) '0' ++ digits)

/-- A byte as a character. -/
def charText (n : Nat) : String :=
  match n with
  | 0 => "\\0"
  | 7 => "\\a"
  | 8 => "\\b"
  | 9 => "\\t"
  | 10 => "\\n"
  | 11 => "\\v"
  | 12 => "\\f"
  | 13 => "\\r"
  | n => if 0x20 ≤ n ∧ n < 0x7f then String.singleton (Char.ofNat n) else zeroPadded 8 3 n

/-- The floating-point number that bits stand for, with its format and the digits that it has in any
case; one that is too small to have all its bits has fewer. -/
def floatOfBits (size bits : Nat) : Format.Quantity × Format.FloatFormat × Nat :=
  let make (f : Format.FloatFormat) (fractionBits exponentBits digits : Nat) (hidden : Bool) :
      Format.Quantity × Format.FloatFormat × Nat :=
    let fraction := bits % twoTo fractionBits
    let exponent := bits / twoTo fractionBits % twoTo exponentBits
    let negative := bits / twoTo (fractionBits + exponentBits) % 2 = 1
    let top := twoTo exponentBits - 1
    let significand := if hidden ∧ exponent ≠ 0 then fraction + twoTo fractionBits else fraction
    let nothing := if hidden then fraction = 0 else fraction % twoTo (fractionBits - 1) = 0
    let value : Format.Quantity :=
      if exponent = top then (if nothing then .infinite negative else .undefined negative)
      else
        let (n, d) := Format.FloatFormat.fraction significand
          (f.lowest + ((exponent - 1 : Nat) : Int))
        .finite negative n d
    (value, f, if exponent = 0 then 1 else digits)
  if size = 4 then make ⟨24, -149, 128, 1⟩ 23 8 6 true
  else if size = 8 then make .double 52 11 15 true
  else make .extended 64 15 18 false

/-- The shortest of the usual texts of a number from which it can be read back; each step allows one
more digit. -/
def shortestText (f : Format.FloatFormat) (x : Format.Quantity) : (steps digits : Nat) → String
  | 0, digits => String.ofList ((Format.Conversion.mk [] 0 (some digits) 'g').quantity f x)
  | steps + 1, digits =>
      let text := String.ofList ((Format.Conversion.mk [] 0 (some digits) 'g').quantity f x)
      if (Format.readNearest f text).value.compare? x = some .eq then text
      else shortestText f x steps (digits + 1)

/-- A floating-point number as it is shown. -/
def floatText (size bits : Nat) : String :=
  let (x, f, digits) := floatOfBits size bits
  match x with
  | .finite _ _ _ => shortestText f x 20 digits
  | x => String.ofList ((Format.Conversion.mk [] 0 none 'g').quantity f x)

/-- The text of a field; the first byte of a number counts least. -/
def ByteStyle.text (s : ByteStyle) (bytes : List Nat) : String :=
  let n := bytes.reverse.foldl (fun n b => 256 * n + b) 0
  match s.kind with
  | .octal => zeroPadded 8 s.width n
  | .hex => zeroPadded 16 s.width n
  | .unsigned => toString n
  | .signed =>
      if twoTo (8 * s.size) ≤ 2 * n then "-" ++ toString (twoTo (8 * s.size) - n) else toString n
  | .float => floatText s.size n
  | .char => charText n
  | .name =>
      let n := n % 128
      if n = 127 then "del" else byteNames.getD n (String.singleton (Char.ofNat n))

/-! ### Rows -/

/-- How rows are shown. -/
structure Dump where
  styles : List ByteStyle
  perRow : Nat
  /-- The first byte of a number counts most. -/
  bigEnd : Bool := false

namespace Dump

/-- The width of a row in the style that needs most. -/
def rowWidth (d : Dump) : Nat :=
  d.styles.foldl (fun n s => max n ((s.width + 1) * (d.perRow / s.size))) 0

/-- The groups of bytes of a row that make a field; a last one is filled with zeros. -/
def groups (size : Nat) (bytes : List Nat) : List (List Nat) :=
  (List.range ((bytes.length + size - 1) / size)).map fun i =>
    let group := (bytes.drop (i * size)).take size
    group ++ List.replicate (size - group.length) 0

/-- A row of bytes in a style; the blanks between fields are shared out among them. -/
def row (d : Dump) (s : ByteStyle) (bytes : List Nat) : String :=
  let fields := d.perRow / s.size
  let pad := d.rowWidth - s.width * fields
  let shown := (groups s.size bytes).zipIdx.map fun (group, i) =>
    let before := pad * (fields - i) / fields
    let after := pad * (fields - i - 1) / fields
    padLeft (before - after + s.width) (s.text (if d.bigEnd then group.reverse else group))
  let text := String.join shown
  if !s.trailer then text
  else
    let missing := (d.perRow - bytes.length) / s.size
    let visible (n : Nat) : Char := if 0x20 ≤ n ∧ n < 0x7f then Char.ofNat n else '.'
    text ++ padLeft (missing * (s.width + 1)) "" ++ "  >"
      ++ String.ofList (bytes.map visible) ++ "<"

/-- The rows of bytes, each with the place that it starts at. -/
def rows (d : Dump) (bytes : Array Nat) : List (Nat × List Nat) :=
  (List.range ((bytes.size + d.perRow - 1) / d.perRow)).map fun i =>
    (i * d.perRow, (bytes.extract (i * d.perRow) ((i + 1) * d.perRow)).toList)

end Dump

/-! ### The program -/

/-- The texts in bytes that end with a zero and have a length at least, each with its place. -/
def nullStrings (least : Nat) (bytes : List Nat) : List (Nat × List Nat) :=
  let step (s : Nat × List Nat × List (Nat × List Nat)) (b : Nat) :
      Nat × List Nat × List (Nat × List Nat) :=
    let (place, run, found) := s
    if b = 0 then
      (place + 1, [],
        if least ≤ run.length then (place - run.length, run.reverse) :: found else found)
    else if 0x20 ≤ b ∧ b < 0x7f then (place + 1, b :: run, found)
    else (place + 1, [], found)
  (bytes.foldl step (0, [], [])).2.2.reverse

/-- A number of bytes in any base, with letters for a multiple of it. -/
def byteCount (option text : String) : Except String Nat :=
  let lower := text.toList.map Char.toLower
  let (base, digits, rest) : Nat × List Char × List Char := match lower with
    | '0' :: 'x' :: cs =>
        let digits := cs.takeWhile Shell.isHex
        (16, digits, text.toList.drop (2 + digits.length))
    | '0' :: _ =>
        let digits := text.toList.takeWhile fun c => '0' ≤ c && c ≤ '7'
        (8, digits, text.toList.drop digits.length)
    | _ =>
        let digits := text.toList.takeWhile Char.isDigit
        (10, digits, text.toList.drop digits.length)
  if digits.isEmpty then .error ("invalid " ++ option ++ " argument '" ++ text ++ "'")
  else match multipleOf? rest with
    | some n => .ok (Shell.numberOf base digits * n)
    | none => .error ("invalid suffix in " ++ option ++ " argument '" ++ text ++ "'")

/-- An offset as an operand: octal, or decimal with a point behind it, perhaps in blocks. -/
def offsetOperand? (text : String) : Option Nat :=
  let cs := text.toList
  let cs := if cs.head? = some '+' then cs.drop 1 else cs
  let (cs, blocks) := if cs.getLast? = some 'b' then (cs.dropLast, 512) else (cs, 1)
  let (cs, base) := if ['0', 'x'].isPrefixOf cs then (cs.drop 2, 16) else (cs, 8)
  let isDigit (c : Char) : Bool := Shell.isHex c && Shell.hexValue c < base
  if cs.isEmpty || !cs.all isDigit then none else some (Shell.numberOf base cs * blocks)

/-- The styles that letters stand for alone. -/
def letterStyles : List (Char × ByteStyle) :=
  [('a', ⟨.name, 1, false⟩), ('b', ⟨.octal, 1, false⟩), ('c', ⟨.char, 1, false⟩),
    ('d', ⟨.unsigned, 2, false⟩), ('D', ⟨.unsigned, 4, false⟩), ('F', ⟨.float, 8, false⟩),
    ('e', ⟨.float, 8, false⟩), ('f', ⟨.float, 4, false⟩), ('H', ⟨.hex, 4, false⟩),
    ('X', ⟨.hex, 4, false⟩), ('i', ⟨.signed, 4, false⟩), ('I', ⟨.signed, 8, false⟩),
    ('L', ⟨.signed, 8, false⟩), ('l', ⟨.signed, 8, false⟩), ('O', ⟨.octal, 4, false⟩),
    ('B', ⟨.octal, 2, false⟩), ('o', ⟨.octal, 2, false⟩), ('s', ⟨.signed, 2, false⟩),
    ('h', ⟨.hex, 2, false⟩), ('x', ⟨.hex, 2, false⟩)]

/-- The styles that options ask for. -/
def chosenStyles : List (Char × String) → Except String (List ByteStyle)
  | [] => .ok []
  | (c, text) :: rest => do
      let found ← if c = 't' then readStyles text (text.length + 1) text.toList
        else .ok (letterStyles.lookup c).toList
      let more ← chosenStyles rest
      return found ++ more

/-- Show the bytes of inputs. -/
def od : Tool := fun name arguments =>
  withOptions name
    { flags := "aBbcDdeFfHhIiLlOosvXx", valued := "AjNSt", optional := "w"
      long := [("skip-bytes", 'j', .required), ("address-radix", 'A', .required),
        ("read-bytes", 'N', .required), ("format", 't', .required),
        ("output-duplicates", 'v', .none), ("strings", 'S', .optional),
        ("traditional", 'T', .none), ("width", 'w', .optional), ("endian", 'E', .required)] }
    arguments fun g => do
    let radix := (g.value? 'A').getD "o"
    if !(["d", "o", "x", "n"].contains (String.ofList (radix.toList.take 1))) then
      blame name ("invalid output address radix '" ++ String.ofList (radix.toList.take 1)
        ++ "'; it must be one character from [doxn]")
      return 1
    let numbers := g.options.filter fun o => ['j', 'N', 'S', 'w'].contains o.1 && o.2 ≠ ""
    for (c, text) in numbers do
      if let .error fault := byteCount (String.ofList ['-', c]) text then
        blame name fault
        return 1
    let number (c : Char) : Option Nat :=
      (g.value? c).bind fun text => (byteCount "" text).toOption
    withChoice name "--endian" ((g.value? 'E').getD "little") [(["little"], false), (["big"], true)]
      fun bigEnd => do
    match chosenStyles g.options with
    | .error fault =>
        blame name fault
        return 1
    | .ok styles =>
        let styles := if styles.isEmpty then [⟨.octal, 2, false⟩] else styles
        let modern := ['A', 'j', 'N', 'S', 't', 'v', 'w', 'E'].any g.has
        let (operands, offset) : List String × Nat :=
          match (if modern then none else g.operands.getLast?) with
          | none => (g.operands, 0)
          | some last =>
              let first := last.toList.headD ' '
              if first = '+' || g.operands.length = 2 && first.isDigit then
                match decide (g.operands.length ≤ 2), offsetOperand? last with
                | true, some n => (g.operands.dropLast, n)
                | _, _ => (g.operands, 0)
              else (g.operands, 0)
        let mut text := ""
        let mut status := 0
        let mut opened := false
        for file in inputsOf operands do
          match ← readInput file with
          | .ok found =>
              text := text ++ found
              opened := true
          | .error e =>
              blame name (quotedIfNeeded file ++ ": " ++ e.reason)
              if e = .isDirectory then opened := true
              status := 1
        if !opened then return status
        let skip := (number 'j').getD offset
        let all := text.toList.map Char.toNat
        if all.length < skip then
          blame name "cannot skip past end of combined input"
          return 1
        let bytes := all.drop skip
        let bytes := match number 'N' with
          | some n => bytes.take n
          | none => bytes
        let address (n : Nat) : String := match radix.toList.headD 'o' with
          | 'n' => ""
          | 'd' => zeroPadded 10 7 n
          | 'x' => zeroPadded 16 6 n
          | _ => zeroPadded 8 7 n
        if g.has 'S' then
          for (place, run) in nullStrings ((number 'S').getD 3) bytes do
            put (address (skip + place) ++ (if radix = "n" then "" else " ")
              ++ String.ofList (run.map Char.ofNat) ++ "\n")
          return status
        let unit := styles.foldl (fun n s => Nat.lcm n s.size) 1
        let perRow ← match g.value? 'w' with
          | none => pure (unit * max 1 (16 / unit))
          | some _ => do
              let width := (number 'w').getD 32
              if width ≠ 0 ∧ width % unit = 0 then pure width
              else
                blame name ("warning: invalid width " ++ toString width ++ "; using "
                  ++ toString unit ++ " instead")
                pure unit
        let d : Dump := ⟨styles, perRow, bigEnd⟩
        let blank := padRight (address 0).length ""
        let mut last : Option (List Nat) := none
        let mut starred := false
        let mut out := ""
        for (start, row) in d.rows bytes.toArray do
          if last = some row ∧ row.length = perRow ∧ !g.has 'v' then
            if !starred then out := out ++ "*\n"
            starred := true
          else
            starred := false
            out := out ++ String.join (styles.zipIdx.map fun (s, i) =>
              (if i = 0 then address (skip + start) else blank) ++ d.row s row ++ "\n")
          last := some row
        put out
        if radix ≠ "n" then put (address (skip + bytes.length) ++ "\n")
        return status

end ToyLang.Tools
