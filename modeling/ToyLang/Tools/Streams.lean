import ToyLang.Text.RegexSyntax
import ToyLang.Text.Width
import ToyLang.Tools.Basic

/-!
# Programs on streams

Programs that pass all of their input on, or count what is in it.

## Main definitions

* `cat` — as it is, or with what cannot be seen made visible.
* `tac`, `rev` — from the end.
* `tee` — to several places.
* `Counts`, `wc` — how much is in a text, and in inputs.
-/

namespace ToyLang.Tools

open Run

/-- A character that is not shown as it is, in letters. -/
def visible (c : Char) : String :=
  let n := c.toNat
  let low (n : Nat) : String :=
    if n < 0x20 then "^" ++ String.singleton (Char.ofNat (n + 0x40))
    else if n = 0x7f then "^?"
    else String.singleton (Char.ofNat n)
  if n < 0x80 then low n else "M-" ++ low (n - 0x80)

/-- How lines are shown. -/
structure Display where
  number : Bool := false
  numberFull : Bool := false
  squeeze : Bool := false
  ends : Bool := false
  tabs : Bool := false
  controls : Bool := false

/-- The text of a line as it is shown. -/
def Display.shown (d : Display) (line : String) : String :=
  String.join (line.toList.map fun c =>
    if c = '\t' then (if d.tabs then "^I" else "\t")
    else if d.controls then visible c
    else String.singleton c)

/-- Where showing lines has got to: the number of the last line, the blank lines just passed, and
whether a line has been begun. -/
structure Shown where
  count : Nat := 0
  blanks : Nat := 0
  begun : Bool := false
  text : String := ""

/-- Show a piece of a line, which may have an end. -/
def Shown.add (s : Shown) (d : Display) (line : String) (ended : Bool) : Shown :=
  let blank := line = "" && !s.begun
  if blank && ended && d.squeeze && 0 < s.blanks then { s with blanks := s.blanks + 1 }
  else
    let counted := !s.begun && (d.numberFull && !blank || d.number && !d.numberFull)
    let count := if counted then s.count + 1 else s.count
    let start := if counted then padLeft 6 (toString count) ++ "\t" else ""
    let carriage := ended && d.ends && !d.controls && line.endsWith "\r"
    let line := if carriage then String.ofList line.toList.dropLast else line
    let stop := if !ended then "" else if carriage then "^M$\n" else if d.ends then "$\n" else "\n"
    { count := count
      blanks := if blank && ended then s.blanks + 1 else 0
      begun := !ended
      text := s.text ++ start ++ d.shown line ++ stop }

/-- Show a text. -/
def Shown.addText (s : Shown) (d : Display) (text : String) : Shown :=
  let pieces := text.splitOn "\n"
  let s := pieces.dropLast.foldl (fun s line => s.add d line true) s
  match pieces.getLast? with
  | some "" | none => s
  | some line => s.add d line false

/-- Pass inputs on. -/
def cat : Tool := fun name arguments =>
  withOptions name
    { flags := "nbsEAeTtvu"
      long := [("number-nonblank", 'b', .none), ("number", 'n', .none),
        ("squeeze-blank", 's', .none), ("show-nonprinting", 'v', .none), ("show-ends", 'E', .none),
        ("show-tabs", 'T', .none), ("show-all", 'A', .none)] } arguments fun g => do
    let d : Display :=
      { number := g.has 'n'
        numberFull := g.has 'b'
        squeeze := g.has 's'
        ends := g.has 'E' || g.has 'A' || g.has 'e'
        tabs := g.has 'T' || g.has 'A' || g.has 't'
        controls := g.has 'v' || g.has 'A' || g.has 'e' || g.has 't' }
    let plain := !(d.number || d.numberFull || d.squeeze || d.ends || d.tabs || d.controls)
    let mut shown : Shown := {}
    let mut status := 0
    for file in inputsOf g.operands do
      match ← copiesItself file with
      | true =>
          blame name (quotedIfNeeded file ++ ": input file is output file")
          status := 1
      | false =>
          match ← readInput file with
          | .error e =>
              blame name (quotedIfNeeded file ++ ": " ++ e.reason)
              status := 1
          | .ok text =>
              if plain then put text
              else
                shown := { shown with text := "" }
                shown := shown.addText d text
                put shown.text
    return status
where
  /-- Whether an input is the file that the output goes to, and not at its end. -/
  copiesItself (file : String) : Run Bool := do
    let out := (← openFile? 1).map Prod.snd
    match out with
    | some { target := .node number, append := append, .. } =>
        match (← tree).content number with
        | .file bytes =>
            if bytes.isEmpty && !append then return false
            if file = "-" then
              match (← openFile? 0).map Prod.snd with
              | some f => return f.target = .node number && f.position < bytes.size
              | none => return false
            match (← tree).locate (← process).folder file with
            | .ok n => return n = number && !bytes.isEmpty
            | .error _ => return false
        | _ => return false
    | _ => return false

/-- Cut a text behind each place where something matches, or in front of it; `cut` says how long a
match at the start of a text is. -/
def cutAt (cut : List Char → Nat) (before : Bool) : (steps : Nat) → (piece : List Char) →
    List Char → List (List Char)
  | 0, piece, cs => [piece.reverse ++ cs]
  | _, piece, [] => if piece.isEmpty then [] else [piece.reverse]
  | steps + 1, piece, c :: cs =>
      match cut (c :: cs) with
      | 0 => cutAt cut before steps (c :: piece) cs
      | n =>
          let mark := (c :: cs).take n
          let rest := (c :: cs).drop n
          if before then
            (if piece.isEmpty then [] else [piece.reverse])
              ++ cutAt cut before steps mark.reverse rest
          else (piece.reverse ++ mark) :: cutAt cut before steps [] rest

/-- How long a match of an expression at the start of a text is. -/
def matchLength (r : Text.Regex) (cs : List Char) : Nat :=
  ((r.match? { text := cs.toArray } 0).map Prod.fst).getD 0

/-- Pass the pieces of inputs on, the last one first. -/
def tac : Tool := fun name arguments =>
  withOptions name
    { flags := "br", valued := "s"
      long := [("before", 'b', .none), ("regex", 'r', .none), ("separator", 's', .required)] }
    arguments fun g => do
      let separator := (g.value? 's').getD "\n"
      if g.has 'r' && separator = "" then
        blame name "separator cannot be empty"
        return 1
      let cut : List Char → Nat ← if g.has 'r' then do
          match Text.Regex.ofText? { extended := false } separator with
          | .ok (r, _) => pure (matchLength r)
          | .error text => do
              blame name text
              return 1
        else
          let mark := (if separator = "" then "\x00" else separator).toList
          pure fun cs => if mark.isPrefixOf cs then mark.length else 0
      let mut status := 0
      for file in inputsOf g.operands do
        match ← readInput file with
        | .ok text =>
            let pieces := cutAt cut (g.has 'b') (text.length + 1) [] text.toList
            put (String.join (pieces.reverse.map String.ofList))
        | .error e =>
            if e = .isDirectory then
              blame name (quotedIfNeeded file ++ ": read error: Invalid argument")
            else blame name ("failed to open " ++ quoted file ++ " for reading: " ++ e.reason)
            status := 1
      return status

/-- Pass the lines of inputs on, each from its end. -/
def rev : Tool := fun name arguments =>
  withOptions name {} arguments fun g =>
    let turned (line : String) : String :=
      Text.narrow (String.ofList (Text.widen line).toList.reverse)
    let turn (_ text : String) : Run Unit :=
      put (String.join ((endedLines text).map fun p =>
        if p.endsWith "\n" then turned (String.ofList p.toList.dropLast) ++ "\n" else turned p))
    forInputs name g.operands turn fun file e =>
      if e = .isDirectory then file ++ ": " ++ e.reason
      else "cannot open " ++ file ++ ": " ++ e.reason

/-- Pass standard input on, and keep it in files. -/
def tee : Tool := fun name arguments =>
  withOptions name
    { flags := "aip"
      long := [("append", 'a', .none), ("ignore-interrupts", 'i', .none),
        ("output-error", 'O', .optional)] } arguments fun g => do
      let word := (g.value? 'O').getD ""
      withChoice name "--output-error" (if word = "" then "warn-nopipe" else word)
        [(["warn"], ()), (["warn-nopipe"], ()), (["exit"], ()), (["exit-nopipe"], ())] fun _ => do
      let how : Opening := if g.has 'a' then .appending else .writing
      let mut status := 0
      let mut opened : List Nat := []
      for file in g.operands do
        match ← openPath file how with
        | .ok index => opened := opened ++ [index]
        | .error e =>
            blame name (quotedIfNeeded file ++ ": " ++ e.reason)
            status := 1
      match ← readAll 0 with
      | .error e =>
          blame name ("read error: " ++ e.reason)
          status := 1
      | .ok text =>
          put text
          for index in opened do
            setStream ownStream index
            discard (write ownStream text)
      return status

/-! ### Counting -/

open Text

/-- How much is in a text. -/
structure Counts where
  lines : Nat := 0
  words : Nat := 0
  characters : Nat := 0
  bytes : Nat := 0
  longest : Nat := 0

/-- The blanks of fixed width, which separate words too. -/
def fixedBlanks : List Char := ['\u00a0', '\u2007', '\u202f', '\u2060']

/-- Whether a character separates words. -/
def separatesWords (c : Char) : Bool :=
  isInWideClass "space" c || fixedBlanks.contains c

/-- Counts so far, and where the text has got to. -/
structure Counting where
  counts : Counts := {}
  inWord : Bool := false
  column : Nat := 0

namespace Counting

/-- End a word, if there is one. -/
def endWord (s : Counting) : Counting :=
  if s.inWord then { s with inWord := false, counts.words := s.counts.words + 1 } else s

/-- Count a character.  Only one that can be shown begins a word. -/
def add (s : Counting) (c : Char) : Counting :=
  if isStray c then s
  else
    let s := { s with counts.characters := s.counts.characters + 1 }
    if c = '\n' ∨ c = '\r' ∨ c = '\x0c' then
      let s := { s with counts.longest := max s.counts.longest s.column, column := 0 }
      (if c = '\n' then { s with counts.lines := s.counts.lines + 1 } else s).endWord
    else if c = '\t' then { s with column := s.column + 8 - s.column % 8 }.endWord
    else if c = ' ' then { s with column := s.column + 1 }.endWord
    else if c = '\x0b' then s.endWord
    else if !isPrintable c then s
    else
      let s := { s with column := s.column + width c }
      if separatesWords c then s.endWord else { s with inWord := true }

end Counting

/-- Count what is in a text. -/
def Counts.of (text : String) : Counts :=
  let s := ((widen text).foldl Counting.add {}).endWord
  { s.counts with bytes := text.length, longest := max s.counts.longest s.column }

/-- Counts of two texts together; of the longest lines, the longer one counts. -/
def Counts.add (a b : Counts) : Counts :=
  ⟨a.lines + b.lines, a.words + b.words, a.characters + b.characters, a.bytes + b.bytes,
    max a.longest b.longest⟩

/-- The numbers that are asked for, in their order. -/
def Counts.chosen (c : Counts) (g : Given) : List Nat :=
  let all := !(['l', 'w', 'c', 'm', 'L'].any g.has)
  (if g.has 'l' || all then [c.lines] else []) ++ (if g.has 'w' || all then [c.words] else [])
    ++ (if g.has 'm' then [c.characters] else []) ++ (if g.has 'c' || all then [c.bytes] else [])
    ++ (if g.has 'L' then [c.longest] else [])

/-- The size of the file that an input is, if it is one. -/
def sizeIfFile (file : String) : Run (Option Nat) := do
  let number? ← if file = "-" then
      match (← openFile? 0).map Prod.snd with
      | some { target := .node number, .. } => pure (some number)
      | _ => pure none
    else pure ((← tree).locate (← process).folder file).toOption
  match number? with
  | some number =>
      match (← tree).content number with
      | .file bytes => return some bytes.size
      | _ => return none
  | none => return none

/-- Count lines, words and bytes. -/
def wc : Tool := fun name arguments =>
  withOptions name
    { flags := "lwcmL"
      long := [("bytes", 'c', .none), ("chars", 'm', .none), ("files0-from", 'F', .required),
        ("lines", 'l', .none), ("max-line-length", 'L', .none), ("words", 'w', .none)] }
    arguments fun g => do
    let list? ← match g.value? 'F' with
      | none => pure none
      | some file => do
          if let extra :: _ := g.operands then
            blame name ("extra operand " ++ quoted extra)
            complain "file operands cannot be combined with --files0-from\n"
            return ← askForHelp name 1
          match ← readInput file with
          | .ok text => pure (some (piecesOf "\x00" text))
          | .error e => do
              blame name ("cannot open " ++ quoted file ++ " for reading: " ++ e.reason)
              return 1
    let files := list?.getD (inputsOf g.operands)
    let columns := (({} : Counts).chosen g).length
    let sizes ← files.mapM sizeIfFile
    let missing ← files.mapM fun file => do
      if file = "-" then return false
      return ((← tree).locate (← process).folder file).toOption.isNone
    let width :=
      if files.length = 1 && columns = 1 || g.value? 'F' = some "-" then 1
      else
        let total := (sizes.filterMap id).foldl (· + ·) 0
        let other := (sizes.zip missing).any fun (size, gone) => size.isNone && !gone
        max (if other then 7 else 1) (toString total).length
    let row (numbers : List Nat) (file : Option String) : String :=
      " ".intercalate (numbers.map fun n => padLeft width (toString n))
        ++ (match file with
          | some file => " " ++ if file.contains '\n' then quotedIfNeeded file else file
          | none => "") ++ "\n"
    let mut status := 0
    let mut total : Counts := {}
    for file in files do
      let title := if g.operands.isEmpty && list?.isNone then none else some file
      match ← readInput file with
      | .ok text =>
          let c := Counts.of text
          total := total.add c
          put (row (c.chosen g) title)
      | .error e =>
          blame name (quotedIfNeeded file ++ ": " ++ e.reason)
          if e = .isDirectory then put (row (({} : Counts).chosen g) title)
          status := 1
    if 1 < files.length then put (row (total.chosen g) (some "total"))
    return status

end ToyLang.Tools
