import ToyLang.Format.Date
import ToyLang.Format.Escape
import ToyLang.Format.Number

/-!
# Formatted output

The text that a format and its arguments stand for.  A format is used again until all arguments
are used up, and a missing argument counts as empty or zero.

## Main definitions

* `PrintStyle` — the ways of the commands that print.
* `Printed` — what comes out.
* `print` — the output for a format and arguments.
-/

namespace ToyLang.Format

/-- The ways of a command that prints. -/
structure PrintStyle where
  formats : EscapeStyle
  arguments : EscapeStyle
  /-- Complaints about an argument that is no number, or only begins with one. -/
  notNumeric : String → String
  halfNumeric : String → String
  outOfRange : String → String
  /-- The complaint about what stands behind a quoted character, if there is one. -/
  beyondQuoted : Option (String → String)
  /-- Complaints about a format: an unknown conversion, and one that breaks off. -/
  badDirective : String → String
  cutDirective : String → String
  /-- The flags of conversions. -/
  flags : List Char
  /-- The letters for the size of a number, which are passed over. -/
  sizes : List Char
  /-- The form in which the conversions for quoted text show an argument. -/
  quote : Option (Conversion → String → String)
  /-- Whether an argument that is missing is quoted like an empty one. -/
  quotesMissing : Bool
  /-- Whether there is a conversion for points in time. -/
  dates : Bool
  /-- The floating-point numbers. -/
  floats : FloatFormat
  /-- Whether a quoted character stands for its first byte. -/
  bytes : Bool
  /-- Whether a quote with nothing behind it is zero. -/
  loneQuotes : Bool
  /-- Whether a conversion is known with its flags, width and precision. -/
  allows : Conversion → Bool

/-- What comes out. -/
structure Printed where
  text : List Char := []
  /-- The complaints, each with how much of the text comes before it. -/
  complaints : List (Nat × String) := []
  /-- Whether a complaint is more than a warning. -/
  failed : Bool := false
  /-- Why the output breaks off, if it does because of the format. -/
  failure : Option String := none
  /-- Whether the output has been ended. -/
  stopped : Bool := false
  arguments : List String
  /-- Whether an argument has been asked for. -/
  asked : Bool := false

namespace Printed

/-- Add characters. -/
def add (p : Printed) (cs : List Char) : Printed := { p with text := p.text ++ cs }

/-- Take an argument. -/
def take (p : Printed) : Option String × Printed :=
  match p.arguments with
  | [] => (none, { p with asked := true })
  | a :: rest => (some a, { p with arguments := rest, asked := true })

/-- Add a warning. -/
def warn (p : Printed) (text : String) : Printed :=
  { p with complaints := p.complaints ++ [(p.text.length, text)] }

/-- Add a complaint. -/
def complain (p : Printed) (text : String) : Printed := { p.warn text with failed := true }

end Printed

/-- Complain about an argument that was read as a number. -/
def checked {α : Type} (style : PrintStyle) (argument : String) (r : Read α) (p : Printed) :
    Printed :=
  if !r.found && argument = "" then p
  else if !r.found then p.complain (style.notNumeric argument)
  else if !r.rest.isEmpty then p.complain (style.halfNumeric argument)
  else if !r.inRange then p.complain (style.outOfRange argument)
  else p

/-- The code of a character behind a quote. -/
def quotedCode (style : PrintStyle) (cs : List Char) (p : Printed) : Int × Printed :=
  let wide := if style.bytes then cs else (Text.widen (String.ofList cs)).toList
  match wide with
  | [] => (0, p)
  | c :: rest =>
      match style.beyondQuoted, rest.isEmpty with
      | some complaint, false =>
          (c.toNat, p.warn (complaint (String.ofList (rest.flatMap Text.narrowChar))))
      | _, _ => (c.toNat, p)

/-- An argument as a whole number; a quote stands for the character behind it. -/
def integerArgument (style : PrintStyle) (signed : Bool) (p : Printed) : Int × Printed :=
  match p.take with
  | (none, p) => (0, p)
  | (some a, p) =>
      match a.toList with
      | '"' :: cs | '\'' :: cs =>
          if cs.isEmpty && !style.loneQuotes then (0, p.complain (style.notNumeric a))
          else quotedCode style cs p
      | _ =>
          let r := readInteger a signed
          (r.value, checked style a r p)

/-- An argument as a floating-point number. -/
def floatArgument (style : PrintStyle) (p : Printed) : Quantity × Printed :=
  match p.take with
  | (none, p) => (Quantity.ofInt 0, p)
  | (some a, p) =>
      match a.toList with
      | '"' :: cs | '\'' :: cs =>
          if cs.isEmpty && !style.loneQuotes then
            (Quantity.ofInt 0, p.complain (style.notNumeric a))
          else
            let (code, p) := quotedCode style cs p
            (Quantity.ofInt code, p)
      | _ =>
          let r := readNearest style.floats a
          (r.value, checked style a r p)

/-- The output of a conversion; `source` is how it is written. -/
def convert (style : PrintStyle) (c : Conversion) (source : String) (p : Printed) : Printed :=
  let letter := c.letter
  if !style.allows c then { p with failure := some (style.badDirective source), stopped := true }
  else if letter = 's' then
    let (a, p) := p.take
    p.add (c.text (a.getD "").toList)
  else if letter = 'c' then
    let (a, p) := p.take
    p.add (c.pad [(a.getD "").toList.headD '\x00'])
  else if letter = 'b' then
    let (a, p) := p.take
    let u := unescape style.arguments (a.getD "")
    let p := if style.arguments.strict then { p with failure := u.complaints.head? }
      else u.complaints.foldl Printed.warn p
    { p.add (c.text u.text) with stopped := u.stopped }
  else if letter = 'q' ∨ letter = 'Q' then
    match style.quote, p.take with
    | some quote, (some a, p) => p.add (c.pad (quote c a).toList)
    | some quote, (none, p) => if style.quotesMissing then p.add (c.pad (quote c "").toList) else p
    | none, _ => { p with failure := some (style.badDirective source), stopped := true }
  else if letter = 'd' ∨ letter = 'i' then
    let (n, p) := integerArgument style true p
    p.add (c.integer n)
  else if ['o', 'u', 'x', 'X'].contains letter then
    let (n, p) := integerArgument style false p
    p.add (c.integer n)
  else if ['a', 'A', 'e', 'E', 'f', 'F', 'g', 'G'].contains letter then
    let (x, p) := floatArgument style p
    p.add (c.quantity style.floats x)
  else { p with failure := some (style.badDirective source), stopped := true }

/-- Take a number or a star, which stands for the next argument. -/
def takeCount (style : PrintStyle) (cs : List Char) (p : Printed) :
    Option Int × List Char × Printed :=
  match cs with
  | '*' :: rest =>
      let (n, p) := integerArgument style true p
      (some n, rest, p)
  | cs =>
      let digits := cs.takeWhile Char.isDigit
      (if digits.isEmpty then none else some (Shell.numberOf 10 digits : Int),
        cs.drop digits.length, p)

/-- Take the format of a point in time, which stands between parentheses. -/
def takeDate (style : PrintStyle) (cs : List Char) : Option String × List Char :=
  match style.dates, cs with
  | true, '(' :: more =>
      let format := more.takeWhile (· ≠ ')')
      match more.drop format.length with
      | ')' :: 'T' :: rest =>
          (some (if format.isEmpty then "%H:%M:%S" else String.ofList format), 'T' :: rest)
      | _ => (none, cs)
  | _, cs => (none, cs)

/-- The output of one pass over a format.  Each step takes at least one character. -/
def printOnce (style : PrintStyle) : (steps : Nat) → List Char → Printed → Printed
  | 0, _, p => p
  | _, [], p => p
  | steps + 1, '\\' :: cs, p =>
      match escape style.formats cs with
      | (.stop, _) => { p with stopped := true }
      | (.chars found, rest) => printOnce style steps rest (p.add found)
      | (.flawed found complaint, rest) =>
          if style.formats.strict then { p with failure := some complaint, stopped := true }
          else printOnce style steps rest ((p.warn complaint).add found)
  | steps + 1, '%' :: '%' :: cs, p => printOnce style steps cs (p.add ['%'])
  | steps + 1, '%' :: cs, p =>
      let flags := cs.takeWhile style.flags.contains
      let (width, cs', p) := takeCount style (cs.drop flags.length) p
      let (precision, rest, p) : Option Nat × List Char × Printed := match cs' with
        | '.' :: more =>
            let (n, rest, p) := takeCount style more p
            (match n with
              | none => some 0
              | some n => if n < 0 then none else some n.toNat, rest, p)
        | rest => (none, rest, p)
      let rest := rest.dropWhile style.sizes.contains
      let source (n : Nat) : String := String.ofList ('%' :: cs.take (cs.length - rest.length + n))
      let width := width.getD 0
      let flags := if width < 0 then '-' :: flags else flags
      let (date?, rest) := takeDate style rest
      match date?, rest with
      | _, [] => { p with failure := some (style.cutDirective (source 0)), stopped := true }
      | some format, _ :: rest =>
          let (seconds, p) := integerArgument style true p
          let c : Conversion := ⟨flags, width.natAbs, precision, 's'⟩
          printOnce style steps rest
            (p.add (c.text ((Moment.ofSeconds (max seconds 0)).text format).toList))
      | none, letter :: rest =>
          let p := convert style ⟨flags, width.natAbs, precision, letter⟩ (source 1) p
          if p.stopped then p else printOnce style steps rest p
  | steps + 1, c :: cs, p => printOnce style steps cs (p.add [c])

/-- Passes over a format, until no arguments are left. -/
def printPasses (style : PrintStyle) (format : List Char) : (limit : Nat) → Printed → Printed
  | 0, p => p
  | limit + 1, p =>
      let before := p.arguments.length
      let p := printOnce style (format.length + 1) format p
      if p.stopped || p.arguments.isEmpty || p.arguments.length = before then p
      else printPasses style format limit p

/-- The output for a format and arguments. -/
def print (style : PrintStyle) (format : String) (arguments : List String) : Printed :=
  printPasses style format.toList (arguments.length + 1) { arguments := arguments }

end ToyLang.Format
