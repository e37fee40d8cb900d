import ToyLang.Source.Grammar
import ToyLang.Text.Width

/-!
# Reports

A fault as a person reads it: a numeral out of range with its line, underlined, and a
syntax error as one line without a place.

The offset of a numeral counts bytes while lines and columns count characters, so the
place shown moves to the right behind characters of more than one byte, and even into the
lines below.

## Main definitions

* `Text.splitLines` — the lines of a text, each with its terminator.
* `Text.Place`, `Text.placeOf` — the line and column at a character index.
* `Fault.message`, `Fault.place` — the short form.
* `Fault.report` — the long form.
-/

namespace ToyLang.Text

/-! ### Lines and places -/

/-- The characters that end a line on their own.  A carriage return does so too, unless
a line feed follows. -/
def lineEnds : List Char := ['\n', '\x0b', '\x0c', '\u0085', '\u2028', '\u2029']

/-- Whether a line ends right after the character `c`, which `rest` follows. -/
def endsLine (c : Char) (rest : List Char) : Bool :=
  lineEnds.contains c || (c = '\r' && rest.head? != some '\n')

/-- The lines of a text in order, each with its terminator; a terminator at the end of
the text opens no further line. -/
def splitLines : List Char → List (List Char)
  | [] => []
  | c :: cs =>
      if endsLine c cs then [c] :: splitLines cs
      else match splitLines cs with
        | [] => [[c]]
        | line :: lines => (c :: line) :: lines

/-- Nothing is lost by cutting a text into lines. -/
theorem flatten_splitLines (text : List Char) : (splitLines text).flatten = text := by
  induction text with
  | nil => rfl
  | cons c cs ih =>
    rw [splitLines]
    split
    · simp [ih]
    · split <;> simp_all

/-- A position in a text: line and column, both counted from one. -/
structure Place where
  line : Nat
  column : Nat
  deriving DecidableEq, Repr

/-- The place of a character index among some lines, the first of which has the number
`line`.  The index just behind the text belongs to the last line; an index beyond that
has no place. -/
def placeAmong (line : Nat) : List (List Char) → Nat → Option Place
  | [], _ => none
  | [last], i => if i ≤ last.length then some ⟨line, i + 1⟩ else none
  | first :: second :: lines, i =>
      if i < first.length then some ⟨line, i + 1⟩
      else placeAmong (line + 1) (second :: lines) (i - first.length)

/-- The place of a character index in a text. -/
def placeOf (text : List Char) (i : Nat) : Option Place := placeAmong 1 (splitLines text) i

/-- A place as it is written: line, colon, column. -/
def Place.text (p : Place) : String := toString p.line ++ ":" ++ toString p.column

end ToyLang.Text

namespace ToyLang.Source

open Text

/-- The wording of a fault. -/
def Fault.message : Fault → String
  | intOutOfRange _ _ => "integer literal out of range"
  | syntaxError => "syntax error"

/-- The place that is reported for a fault in a text. -/
def Fault.place (text : List Char) : Fault → Option Place
  | intOutOfRange offset _ => placeOf text offset
  | syntaxError => none

/-! ### Lines on a screen -/

/-- The characters between the stops to which a tab advances. -/
def tabWidth : Nat := 4

/-- The columns that a character takes as the one with a given index in its line.  The stops of
tabs are counted in characters, so a tab moves the stops behind it. -/
def columnsOf (index : Nat) (c : Char) : Nat :=
  if c = '\t' then tabWidth - index % tabWidth else if isBlank c then 1 else width c

/-- Drop the blanks at the end of a line, and with them its terminator. -/
def trimEnd (line : List Char) : List Char := (line.reverse.dropWhile isBlank).reverse

/-- A character many times over. -/
def run (n : Nat) (c : Char) : String := String.ofList (List.replicate n c)

/-- A line as it is shown: a blank as spaces, as many as it has columns. -/
def shown (line : List Char) : String :=
  String.ofList ((trimEnd line).zipIdx.flatMap fun (c, i) =>
    if isBlank c then List.replicate (columnsOf i c) ' ' else [c])

/-- The columns of the first `count` characters of a line; behind its end a character has
one. -/
def columns (line : List Char) (count : Nat) : List Nat :=
  let inside := (trimEnd line).zipIdx.map fun (c, i) => columnsOf i c
  inside.take count ++ List.replicate (count - inside.length) 1

/-- A rule below the first `count` characters of a line.  For each of them `mark` gives what
stands in its first column and what in the others. -/
def rule (line : List Char) (count : Nat) (mark : Nat → Char × Char) : String :=
  String.ofList ((columns line count).zipIdx.flatMap fun (n, i) =>
    if n = 0 then [] else (mark i).1 :: List.replicate (n - 1) (mark i).2)

/-! ### Pictures -/

/-- The characters by which a rule is longer than what it is drawn below. -/
def overhang : Nat := 2

/-- The number and the text of a line, under a margin of `digits` digits.  What `lead` holds
stands between the two. -/
def numbered (digits number : Nat) (lead : String) (line : List Char) : String :=
  let number := toString number
  " " ++ run (digits - number.length) ' ' ++ number ++ " │ " ++ lead ++ shown line ++ "\n"

/-- A row without a line number. -/
def unnumbered (digits : Nat) (text : String) : String :=
  run (digits + 2) ' ' ++ "│ " ++ text ++ "\n"

/-- The picture of `count` characters that stand in one line, from a place on: the line itself,
a rule below the characters with a stem at its middle, and the message at the foot of the
stem. -/
def pictureWithin (digits : Nat) (place : Place) (line : List Char) (count : Nat)
    (message : String) : String :=
  let first := place.column - 1
  let stop := first + count
  let middle := first + count / 2
  let above (i : Nat) : Char × Char :=
    if i = middle then ('┬', '─')
    else if first ≤ i ∧ i < stop then ('─', '─') else (' ', ' ')
  let below (i : Nat) : Char × Char :=
    if i = middle then ('╰', '─') else if middle < i then ('─', '─') else (' ', ' ')
  numbered digits place.line "" line
    ++ unnumbered digits (rule line (stop + overhang) above)
    ++ unnumbered digits (rule line (stop + overhang) below ++ " " ++ message)

/-- The picture of characters that go on into another line: the first and the last of the
lines, a gap for those between them, and a bar that joins them with the message. -/
def pictureAcross (digits : Nat) (first last : Place) (firstLine lastLine : List Char)
    (message : String) : String :=
  let count := lastLine.length + overhang
  let gap := if first.line + 1 < last.line then run (digits + 2) ' ' ++ "┆ ┆   \n" else ""
  numbered digits first.line "╭─▶ " firstLine
    ++ gap
    ++ numbered digits last.line "├─▶ " lastLine
    ++ unnumbered digits ("│   " ++ rule lastLine count fun _ => (' ', ' '))
    ++ unnumbered digits
        ("╰───" ++ (rule lastLine count fun _ => ('─', '─')) ++ " " ++ message)

/-- The picture of `count` characters of a text, the first and the last of which have the given
places, between the name of the text and a line that ends it. -/
def picture (file : String) (text : List Char) (first last : Place) (count : Nat)
    (message : String) : String :=
  let lines := splitLines text
  let line (place : Place) : List Char := lines.getD (place.line - 1) []
  let digits := (toString last.line).length
  run (digits + 2) ' ' ++ "╭─[" ++ file ++ ":" ++ first.text ++ "]\n"
    ++ run (digits + 2) ' ' ++ "│\n"
    ++ (if first.line = last.line then pictureWithin digits first (line first) count message
        else pictureAcross digits first last (line first) (line last) message)
    ++ run (digits + 2) '─' ++ "╯\n"

/-- The report of a fault in a text that is called `file`. -/
def Fault.report (file : String) (text : List Char) (fault : Fault) : String :=
  let head := "Error: " ++ fault.message ++ "\n"
  match fault with
  | syntaxError => head
  | intOutOfRange offset count =>
      match fault.place text, placeOf text (offset + count - 1) with
      | some first, some last => head ++ picture file text first last count fault.message
      | _, _ => head

/-- The reports of some faults, one after the other. -/
def reportAll (file : String) (text : String) (faults : List Fault) : String :=
  String.join (faults.map (Fault.report file text.toList))

end ToyLang.Source
