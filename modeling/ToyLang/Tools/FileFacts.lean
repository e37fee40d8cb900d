import ToyLang.Files.Access
import ToyLang.Format.Date
import ToyLang.Tools.Basic

/-!
# What is known about files, and how it is shown

In the format of a program that shows what is known about files, a letter stands for a fact; flags,
a width and a precision in front of it say how the fact is put into its place.

A size is shown as a number of units, or with the letter of the power that fits it best.

## Main definitions

* `SizeStyle` — how sizes are shown.
* `SizeStyle.text` — a size in a style.
* `SizeStyle.read?` — the style that a text asks for.
* `kindLetter`, `kindWords`, `modeColumn` — the kind of a file, and what may be done with it.
* `sizeOf`, `storedUnits` — how much a file holds, and how much it takes.
* `FileTime` — the points in time that are known of a file.
* `ShownFlags`, `ShownFlags.read` — what stands in front of the letter.
* `ShownFlags.text`, `ShownFlags.digits` — texts and numbers in their places.
-/

namespace ToyLang.Tools

open Text

/-! ### Sizes -/

/-- How sizes are shown: in units, with a mark behind each number, or with the letters of the powers
of a base. -/
structure SizeStyle where
  unit : Nat := 1
  base? : Option Nat := none
  mark : String := ""
  deriving DecidableEq

namespace SizeStyle

/-- Letters for powers of 1024. -/
def binary : SizeStyle := { base? := some 1024 }

/-- Letters for powers of 1000. -/
def decimal : SizeStyle := { base? := some 1000 }

/-- The letter for a power of a base. -/
def powerLetter (base power : Nat) : String :=
  let letters := ["", "K", "M", "G", "T", "P", "E", "Z", "Y"]
  if power = 1 ∧ base = 1000 then "k" else letters.getD power ""

/-- The largest power of a base that is no more than a size, with its exponent. -/
def powerBelow (base size : Nat) : (steps : Nat) → (power exponent : Nat) → Nat × Nat
  | 0, power, exponent => (power, exponent)
  | steps + 1, power, exponent =>
      if power * base ≤ size then powerBelow base size steps (power * base) (exponent + 1)
      else (power, exponent)

/-- A size with the letter of the power that fits it, rounded up.  Where that leaves one digit, it
has another one behind a point. -/
def lettered (base size : Nat) : String :=
  let (power, exponent) := powerBelow base size 8 1 0
  let whole := (size + power - 1) / power
  let tenths := (10 * size + power - 1) / power
  if exponent = 0 then toString size
  else if tenths < 100 then
    toString (tenths / 10) ++ "." ++ toString (tenths % 10) ++ powerLetter base exponent
  else if whole = base then "1.0" ++ powerLetter base (exponent + 1)
  else toString whole ++ powerLetter base exponent

/-- A size in a style, rounded up. -/
def text (s : SizeStyle) (size : Nat) : String :=
  match s.base? with
  | some base => lettered base size
  | none => toString ((size + s.unit - 1) / s.unit) ++ s.mark

/-- The style that a word asks for: a size of its units, or a word for letters. -/
def read? (word : String) : Option SizeStyle :=
  if word = "human-readable" then some binary
  else if word = "si" then some decimal
  else
    let hasDigits := (word.toList.head?.map Char.isDigit).getD false
    match sizeOf? word with
    | some 0 | none => none
    | some unit =>
        let mark := match word.toList with
          | 'k' :: 'B' :: _ | 'K' :: 'B' :: _ => "kB"
          | 'k' :: rest => String.ofList ('K' :: rest)
          | cs => String.ofList cs
        some { unit := unit, mark := if hasDigits then "" else mark }

end SizeStyle

/-- What is wrong with a text that asks for no style, by the option in front of it. -/
def sizeStyleFault (option text : String) : String :=
  let digits := text.toList.takeWhile Char.isDigit
  if digits.isEmpty || Nat.ofDigitChars 10 digits 0 = 0 then
    "invalid " ++ option ++ " argument " ++ quoted text
  else "invalid suffix in " ++ option ++ " argument " ++ quoted text

end ToyLang.Tools

namespace ToyLang.Tools

open Run

/-! ### Facts -/

/-- The letter for the kind of a node. -/
def kindLetter : Content → Char
  | .file _ => '-'
  | .folder _ _ => 'd'
  | .link _ => 'l'
  | .device (.stream _) | .device (.pipe _) => 'p'
  | .device (.numbered true _ _) => 'b'
  | .device _ => 'c'

/-- The kind of a node in words. -/
def kindWords : Content → String
  | .file bytes => if bytes.isEmpty then "regular empty file" else "regular file"
  | .folder _ _ => "directory"
  | .link _ => "symbolic link"
  | .device (.stream _) | .device (.pipe _) => "fifo"
  | .device (.numbered true _ _) => "block special file"
  | .device _ => "character special file"

/-- The size that a folder is shown with. -/
def folderSize : Nat := 4096

/-- The size of a node. -/
def sizeOf : Content → Nat
  | .file bytes => bytes.size
  | .folder _ _ => folderSize
  | .link target => target.length
  | .device _ => 0

/-- The units of 1024 bytes that a node takes. -/
def storedUnits : Content → Nat
  | .file bytes => (bytes.size + 4095) / 4096 * 4
  | .folder _ _ => folderSize / 1024
  | _ => 0

/-- The number of names of a node; a folder has one in itself and in each folder below it. -/
def linkCount (t : FileTree) (number : Nat) : Nat :=
  match t.content number with
  | .folder _ entries => 2 + (entries.filter fun entry => t.isFolder entry.2).length
  | _ => max 1 (t.nameCount number)

/-- The kind and the mode of a node in letters. -/
def modeColumn (n : Node) : String := String.singleton (kindLetter n.content) ++ Mode.letters n.mode

/-- The points in time that are known of a file. -/
inductive FileTime where
  | used
  | altered
  | changed
  deriving DecidableEq

/-- A point in time of a node. -/
def FileTime.of : FileTime → Node → Int
  | .used, n => n.used
  | .altered, n => n.altered
  | .changed, n => n.time

/-- The seconds after which a time is shown with its year: half a year. -/
def recent : Nat := 31556952 / 2

/-- How the time of a file is shown: with the time of the day if it is recent, else with the
year. -/
def shownTime (t : FileTree) (n : Node) : String :=
  let age := t.now - n.time
  let isRecent := decide (0 ≤ age ∧ age < Format.nanosecondsPerSecond * recent)
  (Format.Moment.ofNanoseconds n.time).text (if isRecent then "%b %e %H:%M" else "%b %e  %Y")

/-! ### Fields of a format -/

/-- How what a part of a format stands for is put into its place. -/
structure ShownFlags where
  letters : List Char := []
  width : Nat := 0
  precision : Option Nat := none

/-- Read what stands in front of a letter: some marks, a width and a precision; the rest follows. -/
def ShownFlags.read (marks cs : List Char) : ShownFlags × List Char :=
  let letters := cs.takeWhile marks.contains
  let rest := cs.drop letters.length
  let width := rest.takeWhile Char.isDigit
  let rest := rest.drop width.length
  let (precision, rest) := match rest with
    | '.' :: more =>
        let digits := more.takeWhile Char.isDigit
        (some (Nat.ofDigitChars 10 digits 0), more.drop digits.length)
    | rest => (none, rest)
  ({ letters := letters ++ width.take 1
     width := Nat.ofDigitChars 10 width 0
     precision := precision }, rest)

/-- Put a text into its place. -/
def ShownFlags.place (f : ShownFlags) (text : String) : String :=
  if '-' ∈ f.letters then padRight f.width text else padLeft f.width text

/-- Put a text into its place, cut off behind what the precision allows. -/
def ShownFlags.text (f : ShownFlags) (text : String) : String :=
  f.place (match f.precision with
    | some n => String.ofList (text.toList.take n)
    | none => text)

/-- Put digits into their place, behind what stands in front of a number. -/
def ShownFlags.digits (f : ShownFlags) (front digits : String) : String :=
  let least := f.precision.getD 1
  let wide :=
    if '0' ∈ f.letters && !('-' ∈ f.letters) && f.precision.isNone then f.width - front.length
    else least
  f.place (front ++ String.ofList (Format.filledUp '0' wide digits.toList))

end ToyLang.Tools
