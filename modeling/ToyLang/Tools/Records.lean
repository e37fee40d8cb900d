import ToyLang.Format.DateText
import ToyLang.Tools.RecordGrammar
import ToyLang.Tools.RecordState

/-!
# Running scripts on records

The input is cut into records, and each record into fields.  The rules of a script are run for
every record in turn.

## Main definitions

* `RecordRun.evaluate`, `RecordRun.execute` — expressions and statements.
* `RecordRun.runScript` — whole scripts.
* `awk` — the program.
-/

namespace ToyLang.Tools

open Run Text
open Shell (Perform)

namespace RecordRun

/-! ### Expressions -/

/-- Running of the parts of expressions and statements. -/
structure Inner where
  evaluate : RecordExpr → Scan RecordValue
  execute : RecordStmt → Scan Unit

/-- The key that some values make together. -/
def keyOf (inner : Inner) (index : List RecordExpr) : Scan RecordKey := do
  let values ← index.mapM inner.evaluate
  match values with
  | [.number x] =>
      if smallPart x == wholePart x && x == x.floor then return .whole (smallPart x)
  | _ => pure ()
  return .text ((← textOf "SUBSEP" "\x1c").intercalate (← values.mapM asText))

/-- The number of the field that an expression names. -/
def fieldNumber (inner : Inner) (e : RecordExpr) : Scan Nat := do
  let n := smallPart (← inner.evaluate e).toNumber
  if n < 0 then fail ("negative field index $" ++ toString n)
  return n.toNat

/-- Assign to the place that an expression names. -/
def store (inner : Inner) (target : RecordExpr) (v : RecordValue) : Scan Unit := do
  match target with
  | .var name => setVar name v
  | .field e => setField (← fieldNumber inner e) v
  | .element name index =>
      let key ← keyOf inner index
      changeArray (← arrayOf name) (·.set key v)
  | _ => pure ()

/-- Whether a comparison holds. -/
def holds (op : RecordOrder) (a b : RecordValue) : Scan Bool := do
  if a.isNumeric && b.isNumeric then
    let x := a.toNumber
    let y := b.toNumber
    return op.holds (x < y) (x > y)
  let x ← asText a
  let y ← asText b
  return op.holds (x < y) (y < x)

/-- The regular expression that an expression stands for. -/
def regexOf (inner : Inner) : RecordExpr → Scan Regex
  | .regex r => return r
  | e => do regexOfText (← asText (← inner.evaluate e))

/-- The text that stands for a match, in which an ampersand is the match itself.  In front of one,
two backslashes stand for one, and a single one takes the meaning away. -/
def standIn (found : List Char) : (steps : Nat) → List Char → List Char
  | 0, cs => cs
  | _, [] => []
  | steps + 1, '&' :: cs => found ++ standIn found steps cs
  | steps + 1, '\\' :: cs =>
      let signs := '\\' :: cs.takeWhile (· = '\\')
      let rest := cs.drop (signs.length - 1)
      match rest with
      | '&' :: rest =>
          let halved := List.replicate (signs.length / 2) '\\'
          halved ++ (if signs.length % 2 = 0 then found else ['&']) ++ standIn found steps rest
      | rest => signs ++ standIn found steps rest
  | steps + 1, c :: cs => c :: standIn found steps cs

/-- Replace matches from a place on, all of them or the first; `last` is where the last one
ended.  The answer comes with the number of replacements. -/
def replaceFrom (r : Regex) (s : Subject) (text : List Char) (everywhere : Bool) :
    (steps i : Nat) → (last : Option Nat) → List Char × Nat
  | 0, i, _ => ((s.text.extract i s.text.size).toList, 0)
  | steps + 1, i, last =>
      match r.find? s i with
      | none => ((s.text.extract i s.text.size).toList, 0)
      | some (start, stop, _) =>
          let before := (s.text.extract i start).toList
          let onward (from_ : Nat) (last : Option Nat) : List Char × Nat :=
            if everywhere then replaceFrom r s text everywhere steps from_ last
            else ((s.text.extract from_ s.text.size).toList, 0)
          if start = stop then
            let next := (s.text.extract start (start + 1)).toList
            if last = some start then
              if next.isEmpty then (before, 0)
              else
                let (more, n) := replaceFrom r s text everywhere steps (start + 1) none
                (before ++ next ++ more, n)
            else if next.isEmpty then (before ++ standIn [] text.length text, 1)
            else
              let (more, n) := onward (start + 1) none
              (before ++ standIn [] text.length text ++ (if everywhere then next else [])
                ++ (if everywhere then more else next ++ more), n + 1)
          else
            let (more, n) := onward stop (some stop)
            (before ++ standIn (s.text.extract start stop).toList text.length text ++ more, n + 1)

/-- A part of a text, from a place with a length.  Places in front of the text make the part longer
and not shorter, so that counting may begin with zero. -/
def partOf (text : String) (start : Float) (length : Option Float) : String :=
  let first := smallPart start - 1
  let most : Int := match length with
    | none => 2147483647
    | some n => smallPart n
  let most := if first < 0 then most - (first + 1) else most
  -- Lengths wrap around.
  let most := if 2147483647 < most then most - 4294967296 else most
  String.ofList ((text.toList.drop first.toNat).take most.toNat)

/-- The place of a text in another one, counted from one. -/
def placeIn (part : List Char) : (place : Nat) → List Char → Nat
  | place, [] => if part.isEmpty then place else 0
  | place, c :: cs =>
      if part.isPrefixOf (c :: cs) then place else placeIn part (place + 1) cs

/-- The seconds since the start of 1970. -/
def seconds : Run Int := return (← tree).now / Format.nanosecondsPerSecond

/-- The moment that a text with a date and a time spells, in seconds, or one before the first. -/
def momentOf (text : String) : Int :=
  match (wordsOf text).map fun word => word.toInt?.getD 0 with
  | year :: month :: day :: hour :: minute :: second :: _ =>
      let days := Format.daysOfDate (year + (month - 1) / 12) (((month - 1) % 12) + 1).toNat 1 + day - 1
      days * Format.daySeconds + hour * 3600 + minute * 60 + second
  | _ => -1

/-- Give up because of a format. -/
def failFormat {α : Type} (fault : FormatFault) (name format : String) : Scan α :=
  let called := name ++ "(\"" ++ format ++ "\")"
  match fault with
  | .tooFew => fail ("not enough arguments passed to " ++ called)
  | .improper n => fail ("improper conversion(number " ++ toString n ++ ") in " ++ called)

/-- Call one of the functions that every script has. -/
def callBuiltin (perform : Perform) (inner : Inner) (name : String) (arguments : List RecordExpr) :
    Scan RecordValue := do
  let value (n : Nat) : Scan RecordValue :=
    match arguments[n]? with
    | some e => inner.evaluate e
    | none => return .unset
  let text (n : Nat) : Scan String := do asText (← value n)
  let number (n : Nat) : Scan Float := return (← value n).toNumber
  match name with
  | "length" =>
      match arguments with
      | [] => return .ofNat (← asText (← get).record).length
      | .var x :: _ =>
          match ← cell? x with
          | some (.array n) | some (.opened n) => return .ofNat (← arrayAt n).size
          | _ => return .ofNat (← text 0).length
      | _ => return .ofNat (← text 0).length
  | "substr" =>
      let s ← text 0
      let start ← number 1
      let length ← if arguments.length < 3 then pure none else do pure (some (← number 2))
      return .text (partOf s start length)
  | "index" =>
      let s ← text 0
      let part ← text 1
      return .ofNat (if part = "" then 1 else placeIn part.toList 1 s.toList)
  | "split" =>
      let s ← text 0
      match arguments with
      | _ :: .var array :: separator =>
          let pieces ← match separator with
            | .regex r :: _ =>
                pure (if s = "" then []
                  else cutAtMatches r { text := s.toList.toArray } (s.length + 1) 0 0)
            | e :: _ => do splitText (← asText (← inner.evaluate e)) s
            | [] => do splitText (← textOf "FS" " ") s
          changeArray (← arrayOf array) fun _ => .ofValues (pieces.map .input)
          return .ofNat pieces.length
      | _ => fail "split needs an array"
  | "sub" | "gsub" =>
      match arguments with
      | pattern :: replacement :: target =>
          let r ← regexOf inner pattern
          let new ← asText (← inner.evaluate replacement)
          let target := target.headD (.field (.number 0))
          let old ← asText (← inner.evaluate target)
          let s : Subject := { text := old.toList.toArray }
          let (result, n) := replaceFrom r s new.toList (name = "gsub") (old.length + 2) 0 none
          if n ≠ 0 then store inner target (.text (String.ofList result))
          return .ofNat n
      | _ => fail (name ++ " needs two arguments")
  | "match" =>
      let s ← text 0
      let r ← match arguments with
        | _ :: e :: _ => regexOf inner e
        | _ => pure .empty
      let (start, length) : Float × Float := match r.find? { text := s.toList.toArray } 0 with
        | some (i, j, _) => (Float.ofNat (i + 1), Float.ofNat (j - i))
        | none => (0, -1)
      setVar "RSTART" (.number start)
      setVar "RLENGTH" (.number length)
      return .number start
  | "sprintf" =>
      let format ← text 0
      let values ← (arguments.drop 1).mapM inner.evaluate
      let (shown, fault) := formatRecord (← writer "CONVFMT") (format.length + 1) 1 format.toList values
      if let some fault := fault then failFormat fault name format
      return .text (String.ofList shown)
  | "sin" => return .ofNumber (← number 0).sin
  | "cos" => return .ofNumber (← number 0).cos
  | "atan2" => return .ofNumber (Float.atan2 (← number 0) (← number 1))
  | "exp" => return .ofNumber (← number 0).exp
  | "log" => return .ofNumber (← number 0).log
  | "sqrt" => return .ofNumber (← number 0).sqrt
  | "int" =>
      let x ← number 0
      return .number (if x < 0 then x.ceil else x.floor)
  | "rand" =>
      let (n, steps) := (← get).random.next
      modify fun s => { s with random := steps }
      return .number (Float.ofNat n / largestWhole)
  | "srand" =>
      let old := (← get).seed
      let x ← match arguments with
        | [] => do pure (Float.ofInt (← run seconds))
        | _ => number 0
      modify fun s => { s with seed := x, random := RandomSteps.ofSeed (smallPart x) }
      return .number old
  | "systime" => return .number (Float.ofInt (← run seconds))
  | "strftime" =>
      let format ← if arguments.isEmpty then pure "%c" else text 0
      let time ← if arguments.length < 2 then run seconds else do pure (wholePart (← number 1))
      return .text ((Format.Moment.ofSeconds time).text format)
  | "mktime" => return .number (Float.ofInt (momentOf (← text 0)))
  | "tolower" => return .text ((← text 0).map Char.toLower)
  | "toupper" => return .text ((← text 0).map Char.toUpper)
  | "system" =>
      let words ← text 0
      flush
      return .ofNat (seenStatus (← run (runCommand perform words none none)))
  | "close" =>
      let file ← text 0
      let s ← get
      let known := (s.outputs.lookup file).isSome || (s.readers.lookup file).isSome
      let status ← match s.outputs.lookup file with
        | some out => finish perform file out
        | none => pure ((s.readers.lookup file).map Prod.fst |>.getD 0)
      modify fun s =>
        { s with
          outputs := s.outputs.filter fun o => o.1 ≠ file
          readers := s.readers.filter fun r => r.1 ≠ file }
      return if known then .ofNat status else .number (-1)
  | "fflush" =>
      flush
      return .number 0
  | _ => return .number 0

/-- Read a line from a file or a command. -/
def readFrom (perform : Perform) (source : RecordSource) (name : String) :
    Scan (Except Unit (Option String)) := do
  match (← get).readers.lookup name with
  | some _ => pure ()
  | none =>
      let found : Option (Nat × String) ← match source with
        | .command => do pure (some (← outputOf perform name))
        | _ =>
            let isInput := name = "-" || name = "/dev/stdin"
            match ← run (if isInput then readAll 0 else readPath name) with
            | .ok text => pure (some (0, text))
            | .error _ => pure none
      match found with
      | some (status, text) =>
          modify fun s => { s with readers := (name, status, text.toList) :: s.readers }
      | none => return .error ()
  let (status, left) := ((← get).readers.lookup name).getD (0, [])
  match ← takeRecord (← textOf "RS" "\n") left with
  | some (line, rest) =>
      modify fun s =>
        { s with readers := (name, status, rest) :: s.readers.filter fun r => r.1 ≠ name }
      return .ok (some line)
  | none => return .ok none

/-- Call a function of the script. -/
def callFunction (inner : Inner) (name : String) (arguments : List RecordExpr) :
    Scan RecordValue := do
  match (← get).script.functions.find? fun f => f.name = name with
  | none => fail ("function " ++ name ++ " never defined")
  | some f =>
      let mut frame : List (String × RecordCell) := []
      for (param, i) in f.params.zipIdx do
        let c ← match arguments[i]? with
          | none => do pure (RecordCell.opened (← addArray .empty))
          | some (.var x) =>
              match ← cell? x with
              | some (.array n) => pure (.array n)
              | some (.opened n) => pure (.opened n)
              | some (.value .unset) | none =>
                  if x = "NF" then pure (.value (← getVar x))
                  else do
                    let n ← addArray .empty
                    setCell x (.opened n)
                    pure (.opened n)
              | some (.value v) => pure (.value v)
          | some e => do pure (.value (← inner.evaluate e))
        frame := (param, c) :: frame
      modify fun s => { s with locals := frame :: s.locals }
      let leave : Scan Unit := modify fun s => { s with locals := s.locals.drop 1 }
      try
        inner.execute f.body
        leave
        return .unset
      catch e =>
        leave
        match e with
        | .ret v => return v
        | e => throw e

/-- The value of an expression. -/
def evaluate (perform : Perform) (inner : Inner) : RecordExpr → Scan RecordValue
  | .number x => return .number x
  | .text s => return .text s
  | .regex r => do
      let text ← asText (← get).record
      return .ofBool (r.isIn { text := text.toList.toArray })
  | .var name => getVar name
  | .field e => do
      let n ← fieldNumber inner e
      let s ← get
      return if n = 0 then s.record else s.fields.getD (n - 1) .unset
  | .element name index => do
      let key ← keyOf inner index
      let n ← arrayOf name
      changeArray n (·.visit key true)
      return ((← arrayAt n).get? key).getD .unset
  | .member name index => do
      let key ← keyOf inner index
      let n ← arrayOf name
      changeArray n (·.visit key false)
      return .ofBool ((← arrayAt n).get? key).isSome
  | .assign target none value => do
      let v ← inner.evaluate value
      store inner target v
      return v
  | .assign target (some op) value => do
      let y ← inner.evaluate value
      let x ← inner.evaluate target
      let v := op.result x y
      store inner target v
      return v
  | .step target up before => do
      let x := (← inner.evaluate target).toNumber
      let y := if up then x + 1 else x - 1
      store inner target (.number y)
      return .number (if before then x else y)
  | .arith op a b => do
      let x ← inner.evaluate a
      let y ← inner.evaluate b
      return op.result x y
  | .negative a => return (← inner.evaluate a).negated
  | .positive a => return (← inner.evaluate a).negated.negated
  | .not a => return .ofBool !(← inner.evaluate a).isTrue
  | .compare op a b => do
      let x ← inner.evaluate a
      let y ← inner.evaluate b
      return .ofBool (← holds op x y)
  | .matching negated a b => do
      let text ← asText (← inner.evaluate a)
      let r ← regexOf inner b
      return .ofBool (r.isIn { text := text.toList.toArray } != negated)
  | .both a b => do
      if (← inner.evaluate a).isTrue then return .ofBool (← inner.evaluate b).isTrue
      return .ofBool false
  | .either a b => do
      if (← inner.evaluate a).isTrue then return .ofBool true
      return .ofBool (← inner.evaluate b).isTrue
  | .choice test a b => do
      if (← inner.evaluate test).isTrue then inner.evaluate a else inner.evaluate b
  | .joined a b => do
      let x ← asText (← inner.evaluate a)
      let y ← asText (← inner.evaluate b)
      return .text (x ++ y)
  | .builtin name arguments => callBuiltin perform inner name arguments
  | .call name arguments => callFunction inner name arguments
  | .readLine .input _ target => do
      match ← nextRecord with
      | none => return .number 0
      | some line =>
          match target with
          | none => setRecord line
          | some target => store inner target (.input line)
          return .number 1
  | .readLine source place target => do
      let name ← match place with
        | some e => asText (← inner.evaluate e)
        | none => pure ""
      match ← readFrom perform source name with
      | .error () => return .number (-1)
      | .ok none => return .number 0
      | .ok (some line) =>
          match target with
          | none => setRecord line
          | some target => store inner target (.input line)
          return .number 1

/-! ### Statements -/

/-- Run the body of a loop; the answer says whether the loop goes on. -/
def runBody (inner : Inner) (body : RecordStmt) : Scan Bool := do
  try
    inner.execute body
    return true
  catch e =>
    match e with
    | .stop => return false
    | .again => return true
    | e => throw e

/-- Run a statement. -/
def execute (inner : Inner) : RecordStmt → Scan Unit
  | .expr e => discard (inner.evaluate e)
  | .print formatted arguments sink => do
      let (text, fault) ←
        if formatted then
          match arguments with
          | [] => pure ("", none)
          | format :: rest => do
              let format ← asText (← inner.evaluate format)
              let values ← rest.mapM inner.evaluate
              let (shown, fault) :=
                formatRecord (← writer "CONVFMT") (format.length + 1) 1 format.toList values
              pure (String.ofList shown, fault.map fun fault => (fault, format))
        else do
          let values ← if arguments.isEmpty then pure [(← get).record]
            else arguments.mapM inner.evaluate
          let write ← writer "OFMT"
          let texts := values.map (RecordValue.toText write)
          pure ((← textOf "OFS" " ").intercalate texts ++ (← textOf "ORS" "\n"), none)
      match sink with
      | none => modify fun s => { s with pending := s.pending ++ text }
      | some (kind, place) => emit kind (← asText (← inner.evaluate place)) text
      if let some (fault, format) := fault then failFormat fault "printf" format
  | .branch test body otherwise => do
      if (← inner.evaluate test).isTrue then inner.execute body
      else match otherwise with
        | some s => inner.execute s
        | none => pure ()
  | .loop test body => do
      for _ in [0:rounds] do
        if !(← inner.evaluate test).isTrue then break
        if !(← runBody inner body) then break
  | .loopAfter body test => do
      for _ in [0:rounds] do
        if !(← runBody inner body) then break
        if !(← inner.evaluate test).isTrue then break
  | .count start test step body => do
      match start with
      | some s => inner.execute s
      | none => pure ()
      for _ in [0:rounds] do
        match test with
        | some e => if !(← inner.evaluate e).isTrue then break
        | none => pure ()
        if !(← runBody inner body) then break
        match step with
        | some s => inner.execute s
        | none => pure ()
  | .each name array body => do
      let n ← arrayOf array
      changeArray n (·.linked)
      for key in (← arrayAt n).keys do
        setVar name (.input key)
        if !(← runBody inner body) then break
  | .block body => body.forM inner.execute
  | .next => throw .next
  | .nextFile => throw .nextFile
  | .exit status => do
      match status with
      | some e =>
          let n := wholePart (← inner.evaluate e).toNumber
          modify fun s => { s with status := (n % 256).toNat }
      | none => pure ()
      throw .exit
  | .ret value => do
      match value with
      | some e => throw (.ret (← inner.evaluate e))
      | none => throw (.ret .unset)
  | .stop => throw .stop
  | .again => throw .again
  | .delete name none => do changeArray (← arrayOf name) fun _ => .empty
  | .delete name (some index) => do
      let key ← keyOf inner index
      changeArray (← arrayOf name) (·.erase key)

/-- Running with a bound on how deep calls nest. -/
def innerWithin (perform : Perform) : (depth : Nat) → Inner
  | 0 => ⟨fun _ => fail "nested too deep", fun _ => fail "nested too deep"⟩
  | depth + 1 =>
      { evaluate := fun e => evaluate perform (innerWithin perform depth) e
        execute := fun s => execute (innerWithin perform depth) s }

/-- How deep calls may nest. -/
def deepest : Nat := 1000

/-! ### Whole scripts -/

/-- Whether the pattern of a rule selects the record. -/
def selects (inner : Inner) (place : Nat) : RecordPattern → Scan Bool
  | .always => return true
  | .test e => return (← inner.evaluate e).isTrue
  | .range first last => do
      let isOpen := (← get).ranges.contains place
      if !isOpen then
        if !(← inner.evaluate first).isTrue then return false
      let closes := (← inner.evaluate last).isTrue
      modify fun s =>
        let others := s.ranges.filter (· ≠ place)
        { s with ranges := if closes then others else place :: others }
      return true

/-- Run the rules for one record. -/
def runRules (inner : Inner) : Scan Unit := do
  for (rule, place) in (← get).script.rules.zipIdx do
    if ← selects inner place rule.pattern then
      inner.execute (rule.body.getD (.print false [] none))

/-- Run the rules for all records. -/
def runRecords (inner : Inner) : Scan Unit := do
  for _ in [0:rounds] do
    match ← nextRecord with
    | none => return
    | some record =>
        setRecord record
        try runRules inner
        catch e =>
          match e with
          | .next => pure ()
          | .nextFile => modify fun s => { s with input := none }
          | e => throw e

/-- Run a script; the answer is its status. -/
def runScript (perform : Perform) : Scan Nat := do
  let inner := innerWithin perform deepest
  let script := (← get).script
  -- An early exit still leads to the actions for the end.
  let guarded (act : Scan Unit) : Scan Bool := do
    try
      act
      return true
    catch e =>
      match e with
      | .exit => return false
      | e => throw e
  try
    let goesOn ← guarded (script.begins.forM inner.execute)
    if goesOn ∧ !(script.rules.isEmpty ∧ script.ends.isEmpty) then
      discard (guarded (runRecords inner))
    if goesOn ∨ !script.ends.isEmpty then
      discard (guarded (script.ends.forM inner.execute))
  catch _ => pure ()
  for (name, out) in (← get).outputs do
    discard (finish perform name out)
  flush
  return (← get).status

end RecordRun

/-! ### The program -/

/-- How the program is used. -/
def recordUsage : String := "Usage: mawk [Options] [Program] [file ...]

Program:
    The -f option value is the name of a file containing program text.
    If no -f option is given, a \"--\" ends option processing; the following
    parameters are the program text.

Options:
    -f program-file  Program  text is read from file instead of from the
                     command-line.  Multiple -f options are accepted.
    -F value         sets the field separator, FS, to value.
    -v var=value     assigns value to program variable var.
    --               unambiguous end of options.

    Implementation-specific options are prefixed with \"-W\".  They can be
    abbreviated:

    -W version       show version information and exit.
    -W dump          show assembler-like listing of program and exit.
    -W help          show this message and exit.
    -W interactive   set unbuffered output, line-buffered input.
    -W exec file     use file as program as well as last option.
    -W random=number set initial random seed.
    -W sprintf=number adjust size of sprintf buffer.
    -W posix_space   do not consider \"\\n\" a space.
    -W usage         show this message and exit.
"

/-- What the arguments of the program ask for. -/
structure RecordPlan where
  /-- The files that hold the script. -/
  files : List String := []
  /-- Variables that are set, each with whether it is the separator of fields. -/
  settings : List (Bool × String) := []
  operands : List String := []

/-- The words behind the letter for special options. -/
def specialWords : List String :=
  ["version", "dump", "help", "interactive", "exec", "random", "sprintf", "posix_space", "usage",
    "compat", "traditional", "repetitions"]

/-- Why the arguments of the program ask for nothing. -/
inductive RecordRefusal where
  | usage
  /-- Only a dash stands where a script is expected. -/
  | nothing
  | fault (text : String)

/-- Read the arguments of the program. -/
def readRecordPlan : List String → RecordPlan → Except RecordRefusal RecordPlan
  | [], p => .ok p
  | a :: rest, p =>
      let give (letter : Char) (value : String) (rest : List String) :
          Except RecordRefusal (RecordPlan × List String) :=
        match letter with
        | 'f' => .ok ({ p with files := p.files ++ [value] }, rest)
        | 'F' => .ok ({ p with settings := p.settings ++ [(true, value)] }, rest)
        | 'v' =>
            if (assigned? value).any fun (name, _) => Shell.isVariableName name then
              .ok ({ p with settings := p.settings ++ [(false, value)] }, rest)
            else .error (.fault ("improper assignment: -v " ++ value))
        | _ =>
            if "help".startsWith value ∨ "usage".startsWith value then .error .usage
            else .ok (p, rest)
      match a.toList with
      | ['-'] =>
          if p.files.isEmpty then .error .nothing else .ok { p with operands := a :: rest }
      | [] => .ok { p with operands := a :: rest }
      | ['-', '-'] => .ok { p with operands := rest }
      | '-' :: letter :: glued =>
          if letter = '-' then
            let word := String.ofList glued
            if word = "help" ∨ word = "usage" then .error .usage
            else .error (.fault ("not an option: " ++ a))
          else if !(['f', 'F', 'v', 'W'].contains letter) then
            .error (.fault ("not an option: " ++ a))
          else if !glued.isEmpty then
            match give letter (String.ofList glued) rest with
            | .ok (p, _) => readRecordPlan rest p
            | .error refusal => .error refusal
          else match rest with
            | [] => .error (.fault ("option " ++ a ++ " lacks argument"))
            | value :: rest =>
                match give letter value rest with
                | .ok (p, _) => readRecordPlan rest p
                | .error refusal => .error refusal
      | _ => .ok { p with operands := a :: rest }

/-- The script that is asked for, with the operands; complaints about it name its file. -/
def recordScriptText (p : RecordPlan) : Run (Except RecordRefusal (String × String × List String)) := do
  let mut texts : List String := []
  for file in p.files do
    match ← readInput file with
    | .ok text => texts := texts ++ [text]
    | .error e => return .error (.fault ("cannot open \"" ++ file ++ "\" (" ++ e.reason ++ ")"))
  match p.files, p.operands with
  | [], [] => return .error .usage
  | [], text :: operands => return .ok ("", text, operands)
  | file :: _, operands => return .ok (file ++ ": ", "\n".intercalate texts, operands)

/-- Run a script on the operands. -/
def runRecordScript (perform : Perform) (name : String) (p : RecordPlan) (script : RecordScript)
    (operands : List String) : Run Nat := do
  let list := (name :: operands).zipIdx.foldl (fun (a : RecordArray) (v, i) =>
    a.set (.whole i) (.input v)) .empty
  let act : Scan Nat := do
    RecordRun.setCell "ARGV" (.array (← RecordRun.addArray list))
    let environment := (← RecordRun.run process).environment
    RecordRun.setCell "ENVIRON" (.array (← RecordRun.addArray
      (.ofEntries (environment.map fun (x, v) => (x, .input v)))))
    RecordRun.setVar "ARGC" (.ofNat (operands.length + 1))
    for (x, v) in [("FS", " "), ("OFS", " "), ("ORS", "\n"), ("RS", "\n"), ("SUBSEP", "\x1c"),
        ("CONVFMT", "%.6g"), ("OFMT", "%.6g"), ("FILENAME", "")] do
      RecordRun.setVar x (.text v)
    for x in ["NR", "FNR", "RSTART"] do
      RecordRun.setVar x (.number 0)
    RecordRun.setVar "RLENGTH" (.number (-1))
    for (isSeparator, value) in p.settings do
      if isSeparator then RecordRun.setVar "FS" (.text (RecordRun.unescaped value))
      else discard (RecordRun.assignArgument value)
    RecordRun.runScript perform
  match ← (act.run).run { script := script } with
  | (.ok status, _) => return status
  | (.error _, s) => return s.status

/-- Run a script on records. -/
def awk (perform : Perform) : Tool := fun name arguments => do
  let name := (name.splitOn "/").getLast?.getD name
  let plan ← match readRecordPlan arguments {} with
    | .ok p => recordScriptText p >>= fun found => pure (found.map fun found => (p, found))
    | .error refusal => pure (.error refusal)
  match plan with
  | .error .usage =>
      complain recordUsage
      return 0
  | .error .nothing => return 0
  | .error (.fault text) =>
      complain (name ++ ": " ++ text ++ "\n")
      return 2
  | .ok (p, file, text, operands) =>
      match RecordScript.ofText? text with
      | .error faults =>
          for fault in faults do complain (name ++ ": " ++ file ++ fault ++ "\n")
          return 2
      | .ok script => runRecordScript perform name p script operands

end ToyLang.Tools
