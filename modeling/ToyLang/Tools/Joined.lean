import ToyLang.Tools.Basic

/-!
# Joined lines

Lines of two files with the same key are joined.  Both files are sorted by their keys; lines that
are not are noticed once a line has been met that has no partner.

## Main definitions

* `JoinPlan` — how lines are joined.
* `JoinPlan.run` — what is shown and complained about.
* `join` — the program.
-/

namespace ToyLang.Tools

open Run

/-! ### Plans -/

/-- What separates fields. -/
inductive FieldMark where
  | blanks
  | char (c : Char)
  /-- All of a line is one field. -/
  | none
  deriving DecidableEq

/-- A field of what is shown: the key, or a field of the first or of the second line. -/
inductive OutField where
  | key
  | first (field : Nat)
  | second (field : Nat)

/-- When the order of lines is checked. -/
inductive JoinCheck where
  | whenUnpaired
  | always
  | never
  deriving DecidableEq

/-- How lines are joined.  Fields are counted from zero. -/
structure JoinPlan where
  firstField : Option Nat := .none
  secondField : Option Nat := .none
  mark : Option FieldMark := .none
  ignoresCase : Bool := false
  empty : Option String := .none
  format : List OutField := []
  /-- Whether all lines have as many fields as the first ones. -/
  auto : Bool := false
  firstAlone : Bool := false
  secondAlone : Bool := false
  pairs : Bool := true
  check : JoinCheck := .whenUnpaired
  header : Bool := false
  stop : String := "\n"

namespace JoinPlan

/-- The fields of a line.  Blanks at its end have an empty field behind them. -/
def fields (p : JoinPlan) (line : String) : List String :=
  let isBlank (c : Char) : Bool := c = ' ' || c = '\t' || c = '\n'
  match p.mark.getD .blanks with
  | .none => if line = "" then [] else [line]
  | .char c => if line = "" then [] else line.splitOn (String.singleton c)
  | .blanks =>
      let cs := line.toList.dropWhile isBlank
      let words := ((cs.splitBy fun a b => isBlank a == isBlank b).filter
        fun run => !run.any isBlank).map String.ofList
      if (cs.getLast?).any isBlank then words ++ [""] else words

/-- The text between fields. -/
def gap (p : JoinPlan) : String :=
  match p.mark.getD .blanks with
  | .blanks => " "
  | .char c => String.singleton c
  | .none => "\n"

/-- The number of the key among the fields of a line of a file. -/
def keyField (p : JoinPlan) (isFirst : Bool) : Nat :=
  (if isFirst then p.firstField else p.secondField).getD 0

/-- The order of the keys of two lines. -/
def compareKeys (p : JoinPlan) (a b : List String) (first second : Nat) : Ordering :=
  let key (fields : List String) (n : Nat) : String :=
    let text := fields.getD n ""
    if p.ignoresCase then text.map Char.toLower else text
  Ord.compare (key a first) (key b second)

/-- A field as it is shown. -/
def shown (p : JoinPlan) (fields : List String) (n : Nat) : String :=
  match fields[n]? with
  | some "" | .none => p.empty.getD ""
  | some text => text

/-- The fields of a line besides its key, given how many it should have. -/
def others (p : JoinPlan) (fields : List String) (key count : Nat) : List String :=
  let count := if p.auto then count else fields.length
  ((List.range count).filter (· ≠ key)).map (p.shown fields)

/-- A joined line; one of both may be missing.  The counts say how many fields lines should
have. -/
def joined (p : JoinPlan) (counts : Nat × Nat) (a b : Option (List String)) : String :=
  let key := match a, b with
    | some fields, _ => p.shown fields (p.keyField true)
    | .none, b => p.shown (b.getD []) (p.keyField false)
  let a := a.getD []
  let b := b.getD []
  let found :=
    if p.format.isEmpty then
      key :: p.others a (p.keyField true) counts.1 ++ p.others b (p.keyField false) counts.2
    else p.format.map fun
      | .key => key
      | .first n => p.shown a n
      | .second n => p.shown b n
  p.gap.intercalate found ++ p.stop

end JoinPlan

/-! ### Joining -/

/-- A file that is read line by line. -/
structure JoinInput where
  name : String
  lines : Array String
  /-- The place of the line that is looked at. -/
  place : Nat := 0
  /-- Whether its lines were found to be out of order. -/
  isDisordered : Bool := false

/-- What is shown or complained about. -/
inductive JoinNote where
  | line (text : String)
  | fault (text : String)

/-- The state of joining. -/
structure Joining where
  first : JoinInput
  second : JoinInput
  /-- Whether a line has been met that has no partner. -/
  unpaired : Bool := false
  /-- What is shown, the last first. -/
  notes : List JoinNote := []
  /-- Whether nothing more is done. -/
  isOver : Bool := false

namespace Joining

/-- The file on a side. -/
def input (j : Joining) (isFirst : Bool) : JoinInput := if isFirst then j.first else j.second

/-- The fields of a line of a file. -/
def fieldsAt? (p : JoinPlan) (j : Joining) (isFirst : Bool) (place : Nat) :
    Option (List String) :=
  ((j.input isFirst).lines[place]?).map p.fields

/-- The fields of the line that is looked at. -/
def current? (p : JoinPlan) (j : Joining) (isFirst : Bool) : Option (List String) :=
  j.fieldsAt? p isFirst (j.input isFirst).place

/-- Show a line. -/
def add (j : Joining) (text : String) : Joining := { j with notes := .line text :: j.notes }

/-- Notice a line that is read behind another one, if it is out of order. -/
def reading (p : JoinPlan) (j : Joining) (isFirst : Bool) (place : Nat) : Joining :=
  let input := j.input isFirst
  let matters := p.check = .always || p.check = .whenUnpaired && j.unpaired
  let isFree := p.header && place = 1
  match j.fieldsAt? p isFirst (place - 1), j.fieldsAt? p isFirst place with
  | some a, some b =>
      let key := p.keyField isFirst
      if matters && !input.isDisordered && !isFree && place ≠ 0
          && p.compareKeys a b key key = .gt then
        let input := { input with isDisordered := true }
        let text := input.name ++ ":" ++ toString (place + 1) ++ ": is not sorted: "
          ++ input.lines.getD place ""
        let j := if isFirst then { j with first := input } else { j with second := input }
        { j with notes := .fault text :: j.notes, isOver := p.check = .always }
      else j
  | _, _ => j

/-- Look at another line of a file. -/
def moveTo (j : Joining) (isFirst : Bool) (place : Nat) : Joining :=
  if isFirst then { j with first := { j.first with place := place } }
  else { j with second := { j.second with place := place } }

/-- Go on to the next line of a file. -/
def advance (p : JoinPlan) (j : Joining) (isFirst : Bool) : Joining :=
  let place := (j.input isFirst).place + 1
  (j.reading p isFirst place).moveTo isFirst place

/-- Read the lines of a file from a place on that have a key, and give the place behind them. -/
def readSame (p : JoinPlan) (isFirst : Bool) (isSame : List String → Bool) :
    (steps : Nat) → (place : Nat) → Joining → Nat × Joining
  | 0, place, j => (place, j)
  | steps + 1, place, j =>
      let j := j.reading p isFirst place
      match j.fieldsAt? p isFirst place with
      | some fields =>
          if isSame fields && !j.isOver then readSame p isFirst isSame steps (place + 1) j
          else (place, j)
      | none => (place, j)

/-- Go through both files as long as there are lines in each; every step takes a line. -/
def pairUp (p : JoinPlan) (counts : Nat × Nat) : (steps : Nat) → Joining → Joining
  | 0, j => j
  | steps + 1, j =>
      if j.isOver then j
      else match j.current? p true, j.current? p false with
      | some a, some b =>
          match p.compareKeys a b (p.keyField true) (p.keyField false) with
          | .lt =>
              let j := if p.firstAlone then j.add (p.joined counts (some a) none) else j
              pairUp p counts steps { j.advance p true with unpaired := true }
          | .gt =>
              let j := if p.secondAlone then j.add (p.joined counts none (some b)) else j
              pairUp p counts steps { j.advance p false with unpaired := true }
          | .eq =>
              let i := j.first.place
              let k := j.second.place
              let like (key : Nat) (fields : List String) (other : Nat) (c : List String) : Bool :=
                p.compareKeys fields c key other = .eq
              let (i', j) := readSame p true
                (like (p.keyField false) b (p.keyField true)) j.first.lines.size (i + 1) j
              let (k', j) := readSame p false
                (like (p.keyField true) a (p.keyField false)) j.second.lines.size (k + 1) j
              let found := (List.range (i' - i)).flatMap fun m =>
                (List.range (k' - k)).map fun n =>
                  p.joined counts (j.fieldsAt? p true (i + m)) (j.fieldsAt? p false (k + n))
              let j := if p.pairs && !j.isOver then found.foldl add j else j
              pairUp p counts steps ((j.moveTo true i').moveTo false k')
      | _, _ => j

/-- Go through what is left of a file; every step takes a line. -/
def finish (p : JoinPlan) (counts : Nat × Nat) (isFirst : Bool) : (steps : Nat) → Joining → Joining
  | 0, j => j
  | steps + 1, j =>
      let shows := if isFirst then p.firstAlone else p.secondAlone
      if j.isOver || (j.input isFirst).isDisordered && !shows then j
      else match j.current? p isFirst with
      | none => j
      | some fields =>
          let text := if isFirst then p.joined counts (some fields) none
            else p.joined counts none (some fields)
          let j := if shows then j.add text else j
          finish p counts isFirst steps (j.advance p isFirst)

end Joining

/-- Join the lines of two files. -/
def JoinPlan.run (p : JoinPlan) (a b : JoinInput) : Joining :=
  let j : Joining := { first := a, second := b }
  let count (isFirst : Bool) : Nat := ((j.current? p isFirst).getD []).length
  let counts := (count true, count false)
  let steps := a.lines.size + b.lines.size + 1
  let isEmpty := a.lines.isEmpty && b.lines.isEmpty
  let j := if p.header && !isEmpty then
      let j := j.add (p.joined counts (j.current? p true) (j.current? p false))
      let j := if a.lines.isEmpty then j else j.advance p true
      if b.lines.isEmpty then j else j.advance p false
    else j
  let j := j.pairUp p counts steps
  let left (j : Joining) (isFirst : Bool) : Bool := (j.current? p isFirst).isSome
  let j := if left j true && left j false then j
    else if left j true then Joining.finish p counts true steps j
    else if left j false then Joining.finish p counts false steps j
    else j
  if (j.first.isDisordered || j.second.isDisordered) && !j.isOver then
    { j with notes := .fault "input is not in sorted order" :: j.notes, isOver := true }
  else j

/-! ### Options -/

/-- The place of a field, counted from zero. -/
def joinField (text : String) : Except String Nat :=
  let cs := text.toList.dropWhile fun c => c = ' ' || c = '+'
  let n := Nat.ofDigitChars 10 cs 0
  if cs.isEmpty || !cs.all Char.isDigit || n = 0 then
    .error ("invalid field number: " ++ mentioned text)
  else .ok (n - 1)

/-- A field of what is shown, as it is written. -/
def OutField.ofText (text : String) : Except String OutField :=
  let invalid : Except String OutField := .error ("invalid field specifier: " ++ mentioned text)
  match text.toList with
  | ['0'] => .ok .key
  | '0' :: _ => invalid
  | '1' :: '.' :: cs => (joinField (String.ofList cs)).map .first
  | '2' :: '.' :: cs => (joinField (String.ofList cs)).map .second
  | '1' :: _ | '2' :: _ => invalid
  | _ => .error ("invalid file number in field spec: " ++ mentioned text)

/-- The fields of what is shown, as a list of them is written. -/
def outFields (text : String) : Except String (List OutField) :=
  ((text.map fun c => if c = ' ' || c = '\t' then ',' else c).splitOn ",").mapM OutField.ofText

/-- Settle a field that may have been settled before. -/
def sameField (old : Option Nat) (new : Nat) : Except String (Option Nat) :=
  match old with
  | some n =>
      if n = new then .ok old
      else .error ("incompatible join fields " ++ toString n ++ ", " ++ toString new)
  | none => .ok (some new)

/-- Add what an option asks for. -/
def JoinPlan.add (p : JoinPlan) (option : Char × String) : Except String JoinPlan := do
  let (c, text) := option
  let alone (p : JoinPlan) : Except String JoinPlan :=
    if text = "1" then .ok { p with firstAlone := true }
    else if text = "2" then .ok { p with secondAlone := true }
    else .error ("invalid field number: " ++ mentioned text)
  match c with
  | 'a' => alone p
  | 'v' => alone { p with pairs := false }
  | 'e' =>
      if p.empty.any (· ≠ text) then throw "conflicting empty-field replacement strings"
      return { p with empty := some text }
  | 'i' => return { p with ignoresCase := true }
  | '1' => return { p with firstField := ← sameField p.firstField (← joinField text) }
  | '2' => return { p with secondField := ← sameField p.secondField (← joinField text) }
  | 'j' =>
      let n ← joinField text
      return { p with
        firstField := ← sameField p.firstField n
        secondField := ← sameField p.secondField n }
  | 'o' =>
      if text = "auto" then return { p with auto := true }
      return { p with format := p.format ++ (← outFields text) }
  | 't' =>
      let mark ← match text.toList with
        | [] => pure FieldMark.none
        | ['\\', '0'] => pure (.char '\x00')
        | [c] => pure (.char c)
        | _ => throw ("multi-character tab " ++ mentioned text)
      if p.mark.any (· ≠ mark) then throw "incompatible tabs"
      return { p with mark := some mark }
  | 'z' => return { p with stop := "\x00" }
  | 'C' => return { p with check := .always }
  | 'N' => return { p with check := .never }
  | 'H' => return { p with header := true }
  | _ => return p

/-- Join lines with the same key. -/
def join : Tool := fun name arguments =>
  withOptions name
    { flags := "iz", valued := "12javteo"
      long := [("ignore-case", 'i', .none), ("check-order", 'C', .none),
        ("nocheck-order", 'N', .none), ("zero-terminated", 'z', .none), ("header", 'H', .none)] }
    arguments fun g => do
    let extra := if g.has 'o' then g.operands.length - 2 else 0
    let plan : Except String JoinPlan := do
      let p ← g.options.foldlM JoinPlan.add {}
      let more ← (g.operands.take extra).mapM outFields
      return { p with format := p.format ++ more.flatten }
    match plan, g.operands.drop extra with
    | .error fault, _ =>
        blame name fault
        return 1
    | .ok p, [a, b] =>
        if a = "-" && b = "-" then
          blame name ("both files cannot be standard input: " ++ FileError.noEntry.reason)
          return 1
        match ← readInput a, ← readInput b with
        | .error e, _ =>
            blame name (if e = .isDirectory then "read error: " ++ e.reason else unread a e)
            return 1
        | _, .error e =>
            blame name (if e = .isDirectory then "read error: " ++ e.reason else unread b e)
            return 1
        | .ok first, .ok second =>
            let input (file text : String) : JoinInput :=
              { name := file, lines := (piecesOf p.stop text).toArray }
            let j := p.run (input a first) (input b second)
            for note in j.notes.reverse do
              match note with
              | .line text => put text
              | .fault text => blame name text
            return if j.isOver then 1 else 0
    | _, _ :: _ :: operand :: _ =>
        blame name ("extra operand " ++ quoted operand)
        askForHelp name 1
    | _, operands => missingOperand name operands

end ToyLang.Tools
