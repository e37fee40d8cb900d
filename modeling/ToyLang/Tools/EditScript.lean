import ToyLang.Text.Octets
import ToyLang.Text.RegexSyntax
import ToyLang.Shell.Words

/-!
# Scripts for editing streams

A script is a list of commands, each of which applies to the lines that its addresses select.

## Main definitions

* `EditOp`, `EditCommand`, `EditScript` — commands and scripts.
* `EditPlace`, `EditFault` — what is wrong with a script, and where.
* `plainEscapes` — a text with its escapes replaced.
* `ReplacementPart.ofChars` — the parts of a replacement.
-/

namespace ToyLang.Tools

open Text (Regex)

/-! ### Commands -/

/-- A regular expression in a script; an empty one stands for the last one that was used. -/
structure Pattern where
  regex : Option Regex
  fold : Bool := false
  lines : Bool := false
  /-- The number of its groups. -/
  groups : Nat := 0
  /-- Whether it selects lines, so that nothing refers to its groups by itself. -/
  selects : Bool := false

/-- What selects a line. -/
inductive Address where
  | line (number : Nat)
  | step (first step : Nat)
  | last
  | pattern (p : Pattern)
  /-- Before the first line. -/
  | zero
  | always

/-- What ends a range of lines. -/
inductive RangeEnd where
  | address (a : Address)
  /-- A number of lines later. -/
  | plus (count : Nat)
  /-- At the next multiple of a number. -/
  | multiple (n : Nat)

/-- How letters are changed in a replacement. -/
inductive Casing where
  | upper
  | lower
  | plain
  deriving DecidableEq

/-- A part of a replacement: some text, and what a group has matched behind it. -/
structure ReplacementPart where
  text : List Char
  group : Option Nat := none
  casing : Casing
  /-- How the first letter is changed, if that is not like the others. -/
  first : Option Casing := none

/-- A substitution. -/
structure Substitution where
  pattern : Pattern
  replacement : List ReplacementPart
  /-- The number of the match from which on something is replaced, if that is given. -/
  first : Option Nat := none
  everywhere : Bool := false
  /-- Whether the result is a command, in whose place its output comes. -/
  runs : Bool := false
  /-- Whether the result is shown, and whether that is before it runs as a command. -/
  prints : Option Bool := none
  file : Option String := none

/-- What a command does. -/
inductive EditOp where
  /-- Go on behind the block that begins here, unless the line is selected. -/
  | openBlock (stop : Nat)
  | closeBlock
  | label
  | append (text : String)
  | insert (text : String)
  | change (text : String)
  /-- Go on elsewhere: always, after a substitution, or without one. -/
  | branch (when? : Option Bool) (target : String)
  | delete
  | deleteFirst
  /-- Run a command, or the pattern space as one. -/
  | run (command : Option String)
  | next
  | nextAppend
  | print
  | printFirst
  | getHold
  | appendHold
  | toHold
  | toHoldAppend
  | exchange
  | quit (status : Nat) (prints : Bool)
  | substitute (s : Substitution)
  | translate (pairs : List (Char × Char))
  | readFile (file : String)
  | readLine (file : String)
  | writeFile (file : String)
  | writeFirst (file : String)
  | lineNumber
  | list (width : Option Nat)
  | fileName
  | clear

/-- A command with the lines that it applies to. -/
structure EditCommand where
  first : Option Address := none
  stop : Option RangeEnd := none
  negated : Bool := false
  op : EditOp

/-- Where a piece of a script comes from: it is an argument with a number, or in a file. -/
inductive EditSource where
  | expression (number : Nat)
  | file (name : String)

/-- A place in a piece of a script. -/
structure EditPlace where
  source : EditSource
  /-- The number of characters up to the place. -/
  column : Nat
  /-- The number of its line. -/
  line : Nat

/-- What is wrong with a script, and where; some faults have no place of their own. -/
structure EditFault where
  place : Option EditPlace
  text : String

/-- What is said of a fault. -/
def EditFault.message (f : EditFault) : String :=
  match f.place with
  | none => f.text
  | some p =>
      match p.source with
      | .expression n =>
          "-e expression #" ++ toString n ++ ", char " ++ toString p.column ++ ": " ++ f.text
      | .file name => "file " ++ name ++ " line " ++ toString p.line ++ ": " ++ f.text

/-- A script: its commands, and where its labels stand. -/
structure EditScript where
  commands : Array EditCommand := #[]
  labels : List (String × Nat) := []
  /-- Whether the script asks for nothing to be shown by itself. -/
  quiet : Bool := false
  /-- Where the script ends. -/
  stop : EditPlace := ⟨.expression 0, 0, 1⟩

/-! ### Escapes -/

/-- Where a text with escapes stands. -/
inductive EscapeUse where
  | pattern
  | replacement
  | plain
  deriving DecidableEq

/-- The character that digits stand for, at most some of them, and what is left; without digits it
is a letter. -/
def numbered (letter : Char) (base most : Nat) (cs : List Char) : Char × List Char :=
  let isDigit (c : Char) : Bool := Shell.isHex c && Shell.hexValue c < base
  let digits := (cs.take most).takeWhile isDigit
  if digits.isEmpty then (letter, cs)
  else (Char.ofNat (Shell.numberOf base digits % 256), cs.drop digits.length)

/-- What is said of an escape within another one. -/
def nestedEscape : String := "recursive escaping after \\c not allowed"

/-- Replace the escapes for single characters; all others stay.  A character from a number gets a
backslash where it would be a mark of a replacement.  Each step takes a character at least. -/
def plainEscapes (use : EscapeUse) : (steps : Nat) → List Char → Except String (List Char)
  | 0, _ | _, [] => .ok []
  | steps + 1, '\\' :: c :: cs =>
      let one (d : Char) (rest : List Char) : Except String (List Char) :=
        (plainEscapes use steps rest).map (d :: ·)
      let number (base most : Nat) : Except String (List Char) :=
        let (d, rest) := numbered c base most cs
        if (d = '\\' ∧ use ≠ .pattern) ∨ (d = '&' ∧ use = .replacement) then
          (plainEscapes use steps rest).map fun more => '\\' :: d :: more
        else one d rest
      match c with
      | 'a' => one '\x07' cs
      | 'f' => one '\x0c' cs
      | 'n' => one '\n' cs
      | 'r' => one '\x0d' cs
      | 't' => one '\t' cs
      | 'v' => one '\x0b' cs
      | 'd' => number 10 3
      | 'o' => number 8 3
      | 'x' => number 16 2
      | 'c' =>
          let control (d : Char) : Char := Char.ofNat (d.toUpper.toNat ^^^ 0x40)
          match cs with
          | [] => .ok ['\\']
          | '\\' :: '\\' :: rest => one (control '\\') rest
          | '\\' :: _ => .error nestedEscape
          | d :: rest => one (control d) rest
      | c => (plainEscapes use steps cs).map fun more => '\\' :: c :: more
  | steps + 1, c :: cs => (plainEscapes use steps cs).map (c :: ·)

/-- The parts of a replacement; each step takes a character at least.  A mark for the case of one
letter is for the next part only. -/
def ReplacementPart.ofChars (posix : Bool) :
    (steps : Nat) → (text : List Char) → Casing → Option Casing → List Char → List ReplacementPart
  | 0, _, _, _, _ => []
  | _, text, casing, first, [] => if text.isEmpty then [] else [⟨text.reverse, none, casing, first⟩]
  | _, text, casing, first, ['\\'] => [⟨('\\' :: text).reverse, none, casing, first⟩]
  | steps + 1, text, casing, first, '&' :: cs =>
      ⟨text.reverse, some 0, casing, first⟩ :: ofChars posix steps [] casing none cs
  | steps + 1, text, casing, first, '\\' :: c :: cs =>
      let part : ReplacementPart := ⟨text.reverse, none, casing, first⟩
      let marked (casing : Casing) (first : Option Casing) : List ReplacementPart :=
        part :: ofChars posix steps [] casing first cs
      let literal : List ReplacementPart :=
        { part with text := (c :: text).reverse } :: ofChars posix steps [] casing none cs
      if c.isDigit then
        { part with group := some (c.toNat - '0'.toNat) } :: ofChars posix steps [] casing none cs
      else if posix then literal
      else match c with
        | 'U' => marked .upper none
        | 'L' => marked .lower none
        | 'E' => marked .plain none
        | 'u' => marked casing (some .upper)
        | 'l' => marked casing (some .lower)
        | _ => literal
  | steps + 1, text, casing, first, c :: cs => ofChars posix steps (c :: text) casing first cs

/-- The highest number of a group in a replacement. -/
def ReplacementPart.highest (parts : List ReplacementPart) : Nat :=
  parts.foldl (fun n p => max n (p.group.getD 0)) 0

/-- The characters of a list that is exchanged, without its backslashes. -/
def withoutBackslashes : List Char → List Char
  | '\\' :: c :: cs => c :: withoutBackslashes cs
  | c :: cs => c :: withoutBackslashes cs
  | [] => []

end ToyLang.Tools
