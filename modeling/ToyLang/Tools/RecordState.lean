import ToyLang.Numeral
import ToyLang.Tools.Environment
import ToyLang.Tools.RecordPattern
import ToyLang.Tools.RecordValue

/-!
# The state of a run of a script on records

## Main definitions

* `RandomSteps` — the numbers that the next ones come from.
* `RandomSteps.ofSeed`, `RandomSteps.next` — the start, and a step.
* `RecordState`, `Scan` — the state of a run, and its actions.
* `RecordRun.setRecord`, `RecordRun.setField` — records and their fields.
* `RecordRun.nextRecord` — the next record of the input.
* `RecordRun.emit` — output.
-/

namespace ToyLang

/-! ### Random numbers

Every number is the sum of two earlier ones, three and thirty-one steps back, without its lowest
bit.  The first thirty-one are powers of a factor, by a seed. -/

/-- The last thirty-one numbers, the last one first. -/
structure RandomSteps where
  numbers : List UInt32

namespace RandomSteps

/-- The number of earlier numbers that are kept. -/
def span : Nat := 31

/-- The number of steps that are taken before the first number is given. -/
def warmUp : Nat := 310

/-- The next number, with its lowest bit, and the steps behind it. -/
def step (r : RandomSteps) : UInt32 × RandomSteps :=
  let new := r.numbers.getD 2 0 + r.numbers.getD (span - 1) 0
  (new, ⟨new :: r.numbers.take (span - 1)⟩)

/-- The powers of the factor, within a prime number; each comes behind the last one. -/
def powers : (count : Nat) → (last : Int) → List Int
  | 0, _ => []
  | count + 1, last => last :: powers count (last * 16807 % 2147483647)

/-- The start for a seed; zero counts as one.  The first three powers count as the last ones. -/
def ofSeed (seed : Int) : RandomSteps :=
  let seed := if seed = 0 then 1 else seed
  let first := seed :: powers (span - 1) (seed * 16807 % 2147483647)
  let words := first.map fun n => UInt32.ofNat (n % (twoTo 32 : Int)).toNat
  warmUp.repeat (fun r => r.step.2) ⟨(words.drop 3 ++ words.take 3).reverse⟩

/-- The next number, below the thirty-first power of two. -/
def next (r : RandomSteps) : Nat × RandomSteps :=
  let (n, r) := r.step
  ((n >>> 1).toNat, r)

end RandomSteps

end ToyLang

namespace ToyLang.Tools

open Run Text
open Shell (Perform)

/-! ### The state of a run -/

/-- What a name stands for: a value, an array, or what may still become either. -/
inductive RecordCell where
  | value (v : RecordValue)
  | array (number : Nat)
  | opened (number : Nat)

/-- Where output goes: to an open file, or to a command once all of it is there. -/
inductive RecordOutput where
  | file (index : Nat)
  | command (text : String)

/-- The state of a run. -/
structure RecordState where
  script : RecordScript
  globals : List (String × RecordCell) := []
  locals : List (List (String × RecordCell)) := []
  /-- The arrays by their numbers. -/
  arrays : Array RecordArray := #[]
  record : RecordValue := .unset
  fields : Array RecordValue := #[]
  /-- What is left of the input that is read, if one is open. -/
  input : Option (List Char) := none
  /-- The number of the argument that is read next, and whether an input was read at all. -/
  nextArgument : Nat := 1
  anyInput : Bool := false
  outputs : List (String × RecordOutput) := []
  /-- Output that has not been written yet. -/
  pending : String := ""
  /-- The status of what is read from, if it is a command, and what is left of it. -/
  readers : List (String × Nat × List Char) := []
  /-- The rules whose range is open. -/
  ranges : List Nat := []
  status : Nat := 0
  seed : Float := 0
  random : RandomSteps := .ofSeed 1

/-- Why statements are left before their end. -/
inductive RecordLeave where
  | next
  | nextFile
  | exit
  | failed
  | ret (v : RecordValue)
  | stop
  | again

/-- Actions of a run. -/
abbrev Scan := ExceptT RecordLeave (StateT RecordState Run)

namespace RecordRun

/-- An action of the process. -/
def run {α : Type} (act : Run α) : Scan α := liftM (m := Run) act

/-- What a name stands for. -/
def cell? (name : String) : Scan (Option RecordCell) := do
  let s ← get
  match (s.locals.head?).bind (·.lookup name) with
  | some c => return some c
  | none => return s.globals.lookup name

/-- What a variable of the whole script holds, as a text. -/
def shownGlobal (s : RecordState) (name default : String) : String :=
  match s.globals.lookup name with
  | some (.value v) => v.toText (RecordValue.numberText formatNumber "%.6g")
  | _ => default

/-- Give up. -/
def fail {α : Type} (text : String) : Scan α := do
  let s ← get
  run (complain ("awk: run time error: " ++ text ++ "\n\tFILENAME=\"" ++ shownGlobal s "FILENAME" ""
    ++ "\" FNR=" ++ shownGlobal s "FNR" "0" ++ " NR=" ++ shownGlobal s "NR" "0" ++ "\n"))
  modify fun s => { s with status := 2 }
  throw .failed

/-- Give up, and say why without the place. -/
def failPlainly {α : Type} (text : String) : Scan α := do
  run (complain ("awk: " ++ text ++ "\n"))
  modify fun s => { s with status := 2 }
  throw .failed

/-! ### Variables -/

/-- Let a name stand for something. -/
def setCell (name : String) (c : RecordCell) : Scan Unit :=
  modify fun s =>
    let set (cells : List (String × RecordCell)) : List (String × RecordCell) :=
      (name, c) :: cells.filter fun entry => entry.1 ≠ name
    match s.locals with
    | frame :: frames =>
        if (frame.lookup name).isSome then { s with locals := set frame :: frames }
        else { s with globals := set s.globals }
    | [] => { s with globals := set s.globals }

/-- The text of a variable that holds one. -/
def textOf (name : String) (default : String) : Scan String := do
  match ← cell? name with
  | some (.value v) => return v.toText fun x => formatNumber "%.6g" x
  | _ => return default

/-- How numbers are written in texts. -/
def writer (name : String) : Scan (Float → String) := do
  let format ← textOf name "%.6g"
  return RecordValue.numberText formatNumber format

/-- A value as a text. -/
def asText (v : RecordValue) : Scan String := do
  return v.toText (← writer "CONVFMT")

/-- A new array. -/
def addArray (a : RecordArray) : Scan Nat := do
  let s ← get
  set { s with arrays := s.arrays.push a }
  return s.arrays.size

/-- The array that a name stands for. -/
def arrayOf (name : String) : Scan Nat := do
  match ← cell? name with
  | some (.array n) => return n
  | some (.opened n) =>
      setCell name (.array n)
      return n
  | some (.value .unset) | none =>
      let n ← addArray .empty
      setCell name (.array n)
      return n
  | some (.value _) => fail ("type error in " ++ name)

/-- The array with a number. -/
def arrayAt (n : Nat) : Scan RecordArray := return (← get).arrays.getD n .empty

/-- Change the array with a number. -/
def changeArray (n : Nat) (change : RecordArray → RecordArray) : Scan Unit :=
  modify fun s => { s with arrays := s.arrays.modify n change }

/-! ### Records and fields -/

/-- The regular expression that a text spells. -/
def regexOfText (text : String) : Scan Regex := do
  match recordRegex? text with
  | .ok r => return r
  | .error reason => fail ("regular expression compile failed (" ++ reason ++ ")\n" ++ text)

/-- The pieces of a text between the matches of an expression; each step takes a match. -/
def cutAtMatches (r : Regex) (s : Subject) : (steps start place : Nat) → List String
  | 0, start, _ => [String.ofList (s.text.extract start s.text.size).toList]
  | steps + 1, start, place =>
      match r.find? s place with
      | none => [String.ofList (s.text.extract start s.text.size).toList]
      | some (i, j, _) =>
          if i = j then
            if s.text.size ≤ i then [String.ofList (s.text.extract start s.text.size).toList]
            else cutAtMatches r s steps start (i + 1)
          else String.ofList (s.text.extract start i).toList :: cutAtMatches r s steps j j

/-- The words of a text between blanks. -/
def wordsOf (text : String) : List String :=
  let step (state : List (List Char) × List Char) (c : Char) : List (List Char) × List Char :=
    if c = ' ' ∨ c = '\t' ∨ c = '\n' then
      (if state.2.isEmpty then state.1 else state.2 :: state.1, [])
    else (state.1, c :: state.2)
  let (words, last) := text.toList.foldl step ([], [])
  ((if last.isEmpty then words else last :: words).map fun w => String.ofList w.reverse).reverse

/-- Cut a text at a separator. -/
def splitText (separator text : String) : Scan (List String) := do
  if text = "" then return []
  match separator.toList with
  | [' '] => return wordsOf text
  | [] => return text.toList.map String.singleton
  | [c] => return text.splitOn (String.singleton c)
  | _ =>
      let r ← regexOfText separator
      let s : Subject := { text := text.toList.toArray }
      return cutAtMatches r s (text.length + 1) 0 0

/-- Take a text as the record, and cut it into fields. -/
def setRecord (text : String) : Scan Unit := do
  let pieces ← splitText (← textOf "FS" " ") text
  modify fun s =>
    { s with record := .input text, fields := (pieces.map RecordValue.input).toArray }

/-- Put the record together from its fields. -/
def joinRecord : Scan Unit := do
  let gap ← textOf "OFS" " "
  let texts ← (← get).fields.toList.mapM asText
  modify fun s => { s with record := .input (gap.intercalate texts) }

/-- Let the record have a number of fields. -/
def resize (n : Nat) : Scan Unit := do
  modify fun s =>
    let fields := s.fields.extract 0 n
    { s with fields := fields ++ Array.replicate (n - fields.size) RecordValue.unset }
  joinRecord

/-- Store a field. -/
def setField (n : Nat) (v : RecordValue) : Scan Unit := do
  if n = 0 then setRecord (← asText v)
  else
    if (← get).fields.size < n then resize n
    modify fun s => { s with fields := s.fields.setIfInBounds (n - 1) v }
    joinRecord

/-- Read a variable. -/
def getVar (name : String) : Scan RecordValue := do
  if name = "NF" then return .ofNat (← get).fields.size
  match ← cell? name with
  | some (.value v) => return v
  | some (.opened _) | none => return .unset
  | some (.array _) => fail ("type error in " ++ name)

/-- Assign to a variable. -/
def setVar (name : String) (v : RecordValue) : Scan Unit := do
  if name = "NF" then
    let n := smallPart v.toNumber
    if n < 0 then fail "negative value assigned to NF"
    resize n.toNat
  else setCell name (.value v)

/-- Count a variable up. -/
def countUp (name : String) : Scan Unit := do
  setVar name (.number ((← getVar name).toNumber + 1))

/-! ### Input -/

/-- Take the first record of a text, which is not empty. -/
def takeRecord (separator : String) (cs : List Char) : Scan (Option (String × List Char)) := do
  match separator.toList with
  | [c] =>
      if cs.isEmpty then return none
      let record := cs.takeWhile (· ≠ c)
      return some (String.ofList record, cs.drop (record.length + 1))
  | [] =>
      let cs := cs.dropWhile (· = '\n')
      if cs.isEmpty then return none
      let rec paragraph : List Char → List Char × List Char
        | '\n' :: '\n' :: rest => ([], rest.dropWhile (· = '\n'))
        | ['\n'] | [] => ([], [])
        | c :: rest =>
            let (more, left) := paragraph rest
            (c :: more, left)
      let (record, rest) := paragraph cs
      return some (String.ofList record, rest)
  | _ =>
      if cs.isEmpty then return none
      let r ← regexOfText separator
      match r.find? { text := cs.toArray } 0 with
      | some (i, j, _) => return some (String.ofList (cs.take i), cs.drop (max j 1))
      | none => return some (String.ofList cs, [])

/-- The argument of the script with a number. -/
def argument? (n : Nat) : Scan (Option String) := do
  match (← arrayAt (← arrayOf "ARGV")).get? (.whole n) with
  | some v => return some (← asText v)
  | none => return none

/-- A text with its escapes replaced. -/
def unescaped (text : String) : String :=
  String.ofList (recordUnescaped (text.length + 1) text.toList)

/-- Do what an argument asks for that assigns to a variable; the answer says whether it does. -/
def assignArgument (argument : String) : Scan Bool := do
  match assigned? argument with
  | some (name, value) =>
      if Shell.isVariableName name then
        setVar name (.input (unescaped value))
        return true
      return false
  | none => return false

/-- Open the next input; the answer says whether there was one. -/
def openInput : Scan Bool := do
  let open_ (name : String) : Scan Unit := do
    match ← run (if name = "-" || name = "/dev/stdin" then readAll 0 else readPath name) with
    | .ok text =>
        modify fun s => { s with input := some text.toList, anyInput := true }
        setVar "FILENAME" (.text name)
        setVar "FNR" (.number 0)
    | .error .isDirectory => failPlainly ("read error (" ++ FileError.isDirectory.reason ++ ")")
    | .error e => failPlainly ("cannot open \"" ++ name ++ "\" (" ++ e.reason ++ ")")
  let count := wholePart (← getVar "ARGC").toNumber
  for _ in [0:rounds] do
    let n := (← get).nextArgument
    if count ≤ n then
      if (← get).anyInput then return false
      open_ "-"
      return true
    modify fun s => { s with nextArgument := n + 1 }
    match ← argument? n with
    | none | some "" => pure ()
    | some a =>
        if !(← assignArgument a) then
          open_ a
          return true
  return false

/-- Take the next record of the input. -/
def nextRecord : Scan (Option String) := do
  for _ in [0:rounds] do
    match (← get).input with
    | none => if !(← openInput) then return none
    | some cs =>
        match ← takeRecord (← textOf "RS" "\n") cs with
        | some (record, rest) =>
            modify fun s => { s with input := some rest }
            countUp "NR"
            countUp "FNR"
            return some record
        | none => modify fun s => { s with input := none }
  return none

/-! ### Output and commands -/

/-- Write out what has not been written yet. -/
def flush : Scan Unit := do
  let text := (← get).pending
  if text ≠ "" then
    modify fun s => { s with pending := "" }
    run (put text)

/-- The status that a script sees of a command. -/
def seenStatus : Ending → Nat
  | .exited n => n
  | .signalled n => 256 + n

/-- The status of a command, and its output. -/
def outputOf (perform : Perform) (text : String) : Scan (Nat × String) := do
  flush
  run do
    let pipe ← addPipe ByteArray.empty true
    let ending ← runCommand perform text none (some pipe)
    return (seenStatus ending,
      rawOfBytes (((← get).pipes[pipe]?.map Pipe.bytes).getD ByteArray.empty))

/-- Finish what goes to a file or to a command. -/
def finish (perform : Perform) (name : String) : RecordOutput → Scan Nat
  | .file _ => return 0
  | .command text => run do
      let pipe ← addPipe (bytesOfRaw text) false
      return seenStatus (← runCommand perform name (some pipe) none)

/-- Write a text where a statement says. -/
def emit (sink : RecordSink) (name text : String) : Scan Unit := do
  if sink ≠ .command ∧ (name = "/dev/stdout" ∨ name = "-") then
    modify fun s => { s with pending := s.pending ++ text }
  else if sink ≠ .command ∧ name = "/dev/stderr" then run (complain text)
  else
    let s ← get
    let toFile (index : Nat) : Run Unit := putTo index text
    let keep (out : RecordOutput) : Scan Unit :=
      modify fun s =>
        let isKnown := (s.outputs.lookup name).isSome
        let replaced := s.outputs.map fun o => if o.1 = name then (name, out) else o
        { s with outputs := if isKnown then replaced else s.outputs ++ [(name, out)] }
    match s.outputs.lookup name with
    | some (.file index) => run (toFile index)
    | some (.command before) => keep (.command (before ++ text))
    | none =>
        if sink = .command then
          flush
          keep (.command text)
        else
          match ← run (openPath name (if sink = .file then .writing else .appending)) with
          | .ok index =>
              keep (.file index)
              run (toFile index)
          | .error e =>
              failPlainly ("cannot open \"" ++ name ++ "\" for output (" ++ e.reason ++ ")")

end RecordRun

end ToyLang.Tools
