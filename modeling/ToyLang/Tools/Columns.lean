import ToyLang.Tools.Basic

/-!
# Columns

The characters of a line stand in columns, and tabs lead to some of them.

## Main definitions

* `fold` — lines of a greatest width.
* `TabStops` — the columns that tabs lead to.
* `expand`, `unexpand` — tabs and blanks.
-/

namespace ToyLang.Tools

open Run

/-- Whether a character is a blank. -/
def isBlank (c : Char) : Bool := c = ' ' || c = '\t'

/-! ### Long lines -/

/-- How lines are folded. -/
structure Folding where
  width : Nat := 80
  atBlanks : Bool := false
  bytes : Bool := false

namespace Folding

/-- The column behind a character. -/
def next (f : Folding) (column : Nat) (c : Char) : Nat :=
  if f.bytes then column + 1
  else if c = '\x08' then column - 1
  else if c = '\x0d' then 0
  else if c = '\t' then column + 8 - column % 8
  else column + 1

/-- The column behind some characters. -/
def columnOf (f : Folding) (cs : List Char) : Nat := cs.foldl f.next 0

/-- Add a character to the last piece of a line, which is given from its end; what is shown before
it is left in front.  A piece that would get too wide ends in front of the character, or behind its
last blank. -/
def add (f : Folding) (c : Char) : (steps : Nat) → (piece : List Char) → List Char × List Char
  | 0, piece => ([], c :: piece)
  | steps + 1, piece =>
      if f.next (f.columnOf piece.reverse) c ≤ f.width then ([], c :: piece)
      else
        let rest := piece.takeWhile fun d => !isBlank d
        if f.atBlanks && rest.length < piece.length then
          let (shown, piece') := f.add c steps rest
          ((piece.drop rest.length).reverse ++ '\n' :: shown, piece')
        else if piece.isEmpty then ([], [c])
        else (piece.reverse ++ ['\n'], [c])

/-- The pieces of a text. -/
def text (f : Folding) (text : String) : String :=
  let (out, piece) := text.foldl (fun ((out, piece) : String × List Char) c =>
    if c = '\n' then (out ++ String.ofList piece.reverse ++ "\n", [])
    else
      let (shown, piece) := f.add c (piece.length + 1) piece
      (out ++ String.ofList shown, piece)) ("", [])
  out ++ String.ofList piece.reverse

end Folding

/-- Put a number that is given alone into its option. -/
def widthArgument (option argument : String) : String :=
  match argument.toList with
  | '-' :: cs =>
      if !cs.isEmpty && cs.all Char.isDigit then option ++ String.ofList cs else argument
  | _ => argument

/-- Cut long lines. -/
def fold : Tool := fun name arguments =>
  withOptions name
    { flags := "bs", valued := "w"
      long := [("width", 'w', .required), ("spaces", 's', .none), ("bytes", 'b', .none)] }
    (arguments.map (widthArgument "-w")) fun g => do
      match wholeNumber "number of columns" 1 ((g.value? 'w').getD "80") with
      | .error text =>
          blame name text
          return 1
      | .ok width =>
          forInputs name g.operands fun _ text =>
            put (Folding.text ⟨width, g.has 's', g.has 'b'⟩ text)

/-! ### Tabs -/

/-- What comes behind the last column that is given for tabs. -/
inductive MoreStops where
  | none
  /-- Multiples of a number. -/
  | multiples (n : Nat)
  /-- Columns at a distance from the last one that is given. -/
  | steps (n : Nat)
  deriving DecidableEq

/-- The columns that tabs lead to. -/
structure TabStops where
  given : List Nat := []
  more : MoreStops := .multiples 8

namespace TabStops

/-- The next column for a tab, if there is one. -/
def next? (t : TabStops) (column : Nat) : Option Nat :=
  match t.given.find? (column < ·), t.more with
  | some stop, _ => some stop
  | none, .none => none
  | none, .multiples n => some (column + (n - column % n))
  | none, .steps n =>
      let last := t.given.getLastD 0
      some (column + (n - (column - last) % n))

/-- Stops as they are read: a number, and the mark in front of it; the numbers for more stops are
zero if none are given. -/
structure Reading where
  given : List Nat := []
  multiples : Nat := 0
  steps : Nat := 0
  mark : Option Char := none
  number : Option Nat := none

/-- Add a number that has been read. -/
def Reading.close (r : Reading) : Except String Reading :=
  let more (c : Char) : Except String Reading :=
    .error ("'" ++ String.singleton c ++ "' specifier only allowed with the last value")
  match r.number, r.mark with
  | none, _ => .ok r
  | some n, none => .ok { r with number := none, given := r.given ++ [n] }
  | some n, some '/' =>
      if r.multiples ≠ 0 then more '/' else .ok { r with number := none, multiples := n }
  | some n, some c =>
      if r.steps ≠ 0 then more c else .ok { r with number := none, steps := n }

/-- Read stops. -/
def read : List Char → Reading → Except String Reading
  | [], r => r.close
  | c :: cs, r =>
      if c = ',' ∨ isBlank c then (r.close).bind (read cs)
      else if c = '/' ∨ c = '+' then
        if r.number.isSome then
          .error ("'" ++ String.singleton c ++ "' specifier not at start of number: "
            ++ mentioned (String.ofList (c :: cs)))
        else read cs { r with mark := some c }
      else if c.isDigit then
        read cs { r with number := some (10 * r.number.getD 0 + (c.toNat - '0'.toNat)) }
      else .error ("tab size contains invalid character(s): " ++ mentioned (String.ofList (c :: cs)))

/-- Whether numbers grow. -/
def isAscending : List Nat → Bool
  | a :: b :: rest => a < b && isAscending (b :: rest)
  | _ => true

/-- The stops that some lists of them stand for. -/
def ofTexts (texts : List String) : Except String TabStops := do
  let r ← read (",".intercalate texts).toList {}
  if r.given.contains 0 then throw "tab size cannot be 0"
  if !isAscending r.given then throw "tab sizes must be ascending"
  if r.multiples ≠ 0 ∧ r.steps ≠ 0 then
    throw "'/' specifier is mutually exclusive with '+'"
  let more : MoreStops := if r.multiples ≠ 0 then .multiples r.multiples
    else if r.steps ≠ 0 then .steps r.steps else .none
  match r.given, more with
  | [], .none => return {}
  | [n], .none => return { more := .multiples n }
  | [], .steps n => return { more := .multiples n }
  | given, more => return { given := given, more := more }

end TabStops

/-- The letter of the option for stops that are given alone. -/
def loneStops : Char := '\x00'

/-- Lists of stops that are given alone, put into their options. -/
def stopsArgument (argument : String) : String :=
  match argument.toList with
  | '-' :: c :: cs =>
      if c.isDigit && cs.all fun d => d.isDigit || d = ',' then
        String.ofList ('-' :: loneStops :: c :: cs)
      else argument
  | _ => argument

/-- The stops that are given. -/
def givenStops (g : Given) : Except String TabStops :=
  TabStops.ofTexts ((g.options.filter fun o => o.1 = 't' || o.1 = loneStops).map Prod.snd)

/-- How far putting blanks in place of tabs has got. -/
structure Expanding where
  column : Nat := 0
  active : Bool := true
  out : List Char := []

/-- Add a character with blanks in place of a tab; all of them, or only those that lines begin
with. -/
def Expanding.add (t : TabStops) (all : Bool) (s : Expanding) (c : Char) : Expanding :=
  if c = '\n' then { out := c :: s.out }
  else if !s.active then { s with out := c :: s.out }
  else
    let active := all || isBlank c
    if c = '\t' then
      let stop := (t.next? s.column).getD (s.column + 1)
      ⟨stop, active, List.replicate (stop - s.column) ' ' ++ s.out⟩
    else if c = '\x08' then ⟨s.column - 1, active, c :: s.out⟩
    else ⟨s.column + 1, active, c :: s.out⟩

/-- Show text with blanks in place of tabs. -/
def expand : Tool := fun name arguments =>
  withOptions name
    { flags := "i", valued := String.ofList ['t', loneStops]
      long := [("initial", 'i', .none), ("tabs", 't', .required)] }
    (arguments.map stopsArgument) fun g => do
      match givenStops g with
      | .error text =>
          blame name text
          return 1
      | .ok t =>
          let all := !g.has 'i'
          forInputs name g.operands fun _ text =>
            put (String.ofList (text.foldl (Expanding.add t all) {}).out.reverse)

/-- How far putting tabs in place of blanks has got.  The blanks that may become a tab wait; `lone`
says that the first of them came just in front of a stop. -/
structure Unexpanding where
  column : Nat := 0
  active : Bool := true
  lone : Bool := false
  afterBlank : Bool := true
  waiting : List Char := []
  out : List Char := []

namespace Unexpanding

/-- Show the blanks that wait. -/
def release (s : Unexpanding) : Unexpanding :=
  let shown := match s.waiting with
    | _ :: c :: cs => if s.lone then '\t' :: c :: cs else s.waiting
    | cs => cs
  if s.waiting.isEmpty then s
  else { s with out := shown.reverse ++ s.out, waiting := [], lone := false }

/-- Show a character behind the blanks that wait. -/
def pass (s : Unexpanding) (all : Bool) (c : Char) : Unexpanding :=
  let s := s.release
  let blank := isBlank c
  { s with
    afterBlank := blank
    active := s.active && (all || blank)
    out := c :: s.out }

/-- Add a character with tabs in place of blanks; everywhere, or only where lines begin. -/
def add (t : TabStops) (all : Bool) (s : Unexpanding) (c : Char) : Unexpanding :=
  if c = '\n' then
    let s := s.release
    { out := c :: s.out }
  else if !s.active then { s with out := c :: s.out }
  else if isBlank c then
    match t.next? s.column with
    | none =>
        let s := { s with active := false }
        s.pass all c
    | some stop =>
        if c = '\t' then
          -- A blank just in front of a stop stays, as a tab.
          let waiting := if s.lone then ['\t'] else []
          { s with column := stop, waiting := waiting }.pass all c
        else
          let s := { s with column := s.column + 1 }
          if s.afterBlank && s.column = stop then
            let waiting := if s.lone then ['\t'] else []
            { s with waiting := waiting }.pass all '\t'
          else
            { s with
              lone := s.lone || s.column = stop
              waiting := s.waiting ++ [c]
              afterBlank := true }
  else if c = '\x08' then { s with column := s.column - 1 }.pass all c
  else { s with column := s.column + 1 }.pass all c

end Unexpanding

/-- Show text with tabs in place of blanks. -/
def unexpand : Tool := fun name arguments =>
  withOptions name
    { flags := "a", valued := String.ofList ['t', loneStops]
      long := [("all", 'a', .none), ("first-only", 'f', .none), ("tabs", 't', .required)] }
    (arguments.map stopsArgument) fun g => do
      match givenStops g with
      | .error text =>
          blame name text
          return 1
      | .ok t =>
          let all := (g.has 'a' || g.has 't') && !g.has 'f'
          forInputs name g.operands fun _ text =>
            put (String.ofList (text.foldl (Unexpanding.add t all) {}).release.out.reverse)

end ToyLang.Tools
