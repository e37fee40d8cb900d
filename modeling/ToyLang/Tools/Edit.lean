import ToyLang.Tools.EditGrammar
import ToyLang.Tools.Started
import ToyLang.Tools.Streams

/-!
# Editing streams

A script is run once for each line of the input.  It works on the line in the pattern space, and
can keep text in the hold space.

## Main definitions

* `EditState`, `Edit` — the state of a run, and its actions.
* `execute` — a script on a line.
* `sed` — the program.
-/

namespace ToyLang.Tools

open Run Text
open Shell (Perform)

/-! ### The state of a run -/

/-- What is to be shown at the end of a line. -/
inductive Queued where
  | text (s : String)
  | file (path : String)

/-- Whether the range of a command is open, and the line in which it ends if that is known.  One
that begins with a number is over for good when it ends. -/
inductive RangeState where
  | closed
  | opened (stop : Option Nat)
  | over
  deriving DecidableEq

/-- The state of a run. -/
structure EditState where
  /-- The inputs that are left. -/
  files : List String
  /-- The input that is read. -/
  file : String := "-"
  stream : Option Nat := none
  /-- What has been read of it and not been taken. -/
  buffer : List Char := []
  space : String := ""
  /-- Whether the line ended as lines do. -/
  ended : Bool := true
  hold : String := ""
  /-- Whether the line in the hold space ended as lines do. -/
  holdEnded : Bool := true
  number : Nat := 0
  queue : List Queued := []
  ranges : Array RangeState
  /-- Whether something has been substituted since the line was read. -/
  replaced : Bool := false
  lastPattern : Option Pattern := none
  /-- The files in which the last line lacks its end; the output itself has no name. -/
  unended : List String := []
  /-- The files that are written to, with their open files. -/
  outputs : List (String × Nat) := []
  /-- The files that are read line by line, with what is left of them. -/
  readers : List (String × List Char) := []
  status : Nat := 0

/-- How a run works. -/
structure EditSettings where
  name : String
  perform : Perform
  posix : Bool
  quiet : Bool
  separate : Bool
  /-- Whether files are changed, and what their old content is kept under. -/
  inPlace : Option String
  mark : Char
  width : Nat
  script : EditScript

/-- Actions of a run. -/
abbrev Edit := StateT EditState Run

/-- What running a script on a line leads to. -/
inductive EditOutcome where
  | done
  | deleted
  /-- The script starts again without another line. -/
  | again
  | quit (status : Nat) (prints : Bool)

namespace Edit

/-! ### Writing -/

/-- The end that the last line in a file lacks; it is taken to be written now. -/
def missingEnd (e : EditSettings) (file : String) : Edit String := do
  if file ∈ (← get).unended then
    modify fun s => { s with unended := s.unended.filter (· ≠ file) }
    return String.singleton e.mark
  return ""

/-- The text of a line to be written to a file, behind the end that the last one lacks. -/
def lineFor (e : EditSettings) (file line : String) (ended : Bool) : Edit String := do
  let before ← missingEnd e file
  if ended then return before ++ line ++ String.singleton e.mark
  modify fun s => { s with unended := file :: s.unended }
  return before ++ line

/-- Write to the output, behind the end of a line that lacks it. -/
def out (e : EditSettings) (text : String) : Edit Unit := do
  let before ← missingEnd e ""
  liftM (m := Run) (put (before ++ text))

/-- Write a line to the output. -/
def outLine (e : EditSettings) (line : String) (ended : Bool) : Edit Unit := do
  let text ← lineFor e "" line ended
  liftM (m := Run) (put text)

/-- Write a line to a file, which may stand for the output. -/
def writeLine (e : EditSettings) (file line : String) (ended : Bool) : Edit Unit := do
  let text ← lineFor e file line ended
  liftM (m := Run) <|
    if file = "/dev/stdout" then put text
    else if file = "/dev/stderr" then complain text
    else pure ()
  match (← get).outputs.lookup file with
  | some index => liftM (m := Run) (putTo index text)
  | none => pure ()

/-- Show what is to be shown at the end of a line. -/
def showQueue (e : EditSettings) : Edit Unit := do
  for q in (← get).queue do
    match q with
    | .text text => out e text
    | .file path =>
        let found ← liftM (m := Run)
          (if path = "/dev/stdin" then readAll 0 else readPath path)
        out e (match found with
          | .ok text => text
          | .error _ => "")
  modify fun s => { s with queue := [] }

/-! ### Reading -/

/-- The stream that an input is read from. -/
def inputStream : Nat := 1001

/-- The number of bytes that are read at once. -/
def chunkSize : Nat := 4096

/-- Read more of the present input into the buffer. -/
def fill : Edit Unit := do
  let s ← get
  match s.stream with
  | none => pure ()
  | some stream =>
      match ← liftM (m := Run) (readBytes stream chunkSize) with
      | .ok bytes =>
          if bytes.isEmpty then set { s with stream := none }
          else set { s with buffer := s.buffer ++ (rawOfBytes bytes).toList }
      | .error .isDirectory =>
          liftM (m := Run) (throw (.exit 4))
      | .error _ => set { s with stream := none }

/-- Open the next input that can be read, if there is one. -/
def openNext (e : EditSettings) : Edit Bool := do
  for file in (← get).files do
    modify fun s => { s with files := s.files.drop 1, file := file, buffer := [] }
    if file = "-" ∧ e.inPlace.isNone then
      modify fun s => { s with stream := some 0 }
      return true
    match ← liftM (m := Run) (openPath file .reading) with
    | .error reason =>
        liftM (m := Run) (blame e.name ("can't read " ++ file ++ ": " ++ reason.reason))
        modify fun s => { s with status := 2 }
    | .ok index =>
        let isFolder ← liftM (m := Run) (isFolderAt file)
        if isFolder ∧ e.inPlace.isSome then
          liftM (m := Run) (blame e.name ("couldn't edit " ++ file ++ ": not a regular file"))
          modify fun s => { s with status := 4 }
        else
          if isFolder then
            liftM (m := Run) (blame e.name ("read error on " ++ file ++ ": Is a directory"))
          liftM (m := Run) (setStream inputStream index)
          modify fun s => { s with stream := some inputStream }
          return true
  return false
where
  /-- Whether a path leads to a folder. -/
  isFolderAt (path : String) : Run Bool := do
    match (← tree).locate (← process).folder path with
    | .ok number => return (← tree).isFolder number
    | .error _ => return false

/-- Take the next line of the inputs, with whether it ended as lines do. -/
def takeLine (e : EditSettings) : Edit (Option (String × Bool)) := do
  for _ in [0:rounds] do
    let s ← get
    let line := s.buffer.takeWhile (· ≠ e.mark)
    match s.buffer.drop line.length with
    | _ :: rest =>
        set { s with buffer := rest }
        return some (String.ofList line, true)
    | [] =>
        if s.stream.isSome then fill
        else if !line.isEmpty then
          set { s with buffer := [] }
          return some (String.ofList line, false)
        else if !(← openNext e) then return none
  return none

/-- Whether no line is left.  The next input with a line is opened to find out. -/
def atEnd (e : EditSettings) : Edit Bool := do
  for _ in [0:rounds] do
    for _ in [0:rounds] do
      if !(← get).buffer.isEmpty then return false
      if (← get).stream.isNone then break
      fill
    if (← get).buffer.isEmpty ∧ !(← openNext e) then return true
  return true

/-- Read the next line into the pattern space, or behind what it holds.  The answer says whether
there was one. -/
def readSpace (e : EditSettings) (append : Bool) : Edit Bool := do
  showQueue e
  match ← takeLine e with
  | none => return false
  | some (line, ended) =>
      modify fun s =>
        { s with
          space := if append then s.space ++ String.singleton e.mark ++ line else line
          ended := ended
          number := s.number + 1
          replaced := false }
      return true

/-! ### Selecting lines -/

/-- Give up with a fault that only shows when the script runs. -/
def giveUp {α : Type} (e : EditSettings) (text : String) : Edit α :=
  liftM (m := Run) (do
    blame e.name (EditFault.message ⟨some e.script.stop, text⟩)
    throw (.exit 1))

/-- The expression of a pattern, and the pattern that is meant: an empty one means the last. -/
def regexOf (e : EditSettings) (p : Pattern) : Edit (Regex × Pattern) := do
  match p.regex, (← get).lastPattern with
  | some r, _ =>
      modify fun s => { s with lastPattern := some p }
      return (r, p)
  | none, some last => return (last.regex.getD .empty, last)
  | none, none => giveUp e "no previous regular expression"

/-- A text as it is searched for a pattern. -/
def subjectOf (e : EditSettings) (p : Pattern) (text : String) : Subject :=
  { text := (widen text).toList.toArray
    fold := p.fold
    lines := if p.lines then some e.mark else none
    wide := true }

/-- Whether an address selects the line. -/
def selects (e : EditSettings) : Address → Edit Bool
  | .line n => return (← get).number = n
  | .step first step => do
      let n := (← get).number
      return if step = 0 then n = first else first ≤ n && (n - first) % step = 0
  | .last => atEnd e
  | .zero => return false
  | .always => return true
  | .pattern p => do
      let (r, p) ← regexOf e p
      return r.isIn (subjectOf e p (← get).space)

/-- Whether the addresses of a command, which is found at a place, select the line. -/
def selected (e : EditSettings) (place : Nat) (c : EditCommand) : Edit Bool := do
  match c.first, c.stop with
  | none, _ => return true
  | some a, none => selects e a
  | some a, some stop =>
      let s ← get
      let close : Edit Unit :=
        modify fun s =>
          let state := match a with
            | .line _ => RangeState.over
            | _ => .closed
          { s with ranges := s.ranges.setIfInBounds place state }
      match s.ranges.getD place .closed with
      | .over => return false
      | .closed =>
          let n := s.number
          let begins ← match a with
            | .line first => pure (decide (first ≤ n))
            | a => selects e a
          if !begins then return false
          let known := match stop with
            | .address (.line m) => some m
            | .address (.step first step) =>
                if first ≤ n ∧ (n - first) % step = 0 then some n else none
            | .plus m => some (n + m)
            | .multiple m => some (if m = 0 then n else (n / m + 1) * m)
            | .address _ => none
          if known.all (n < ·) then
            modify fun s => { s with ranges := s.ranges.setIfInBounds place (.opened known) }
            return true
          close
          match a, stop with
          | .line first, .address (.line last) => return n ≤ last || n = first
          | _, _ => return true
      | .opened (some m) =>
          if m ≤ s.number then close
          match stop with
          | .address _ => return s.number ≤ m
          | _ => return true
      | .opened none =>
          match stop with
          | .address b =>
              if ← selects e b then close
              return true
          | _ => return true

/-! ### Commands -/

/-- A letter in another case. -/
def inCase : Casing → Char → Char
  | .upper, c => upper c
  | .lower, c => lower c
  | .plain, c => c

/-- Change the letters of a text, and the first one in another way if that is asked for. -/
def recase (all : Casing) (first : Option Casing) : List Char → List Char
  | [] => []
  | c :: cs => inCase (first.getD all) c :: cs.map (inCase all)

/-- The text of a replacement for a match.  A mark for the first letter of a group that has matched
nothing is for the next part. -/
def replacementText (text : Array Char) (start stop : Nat) (groups : Groups) :
    (first : Option Casing) → List ReplacementPart → List Char
  | _, [] => []
  | first, p :: parts =>
      let first := p.first.orElse fun _ => first
      let own := recase p.casing first p.text
      let matched : List Char := match p.group with
        | none => []
        | some 0 => (text.extract start stop).toList
        | some n => match groups.lookup n with
          | some (i, j) => (text.extract i j).toList
          | none => []
      let first := if p.text.isEmpty then first else none
      let kept := if p.group.isSome && matched.isEmpty && p.first.isSome then first else none
      own ++ recase p.casing first matched ++ replacementText text start stop groups kept parts

/-- The bytes of a character behind the first one, with a text before each of them at which an
empty match counts, and the number of matches then. -/
def innerBytes (insert : (count : Nat) → List Char) : (count : Nat) → List Char → List Char × Nat
  | count, [] => ([], count)
  | count, b :: bs =>
      let (more, last) := innerBytes insert (count + 1) bs
      (insert (count + 1) ++ stray b.toNat :: more, last)

/-- Substitute in a text from a place on.  `count` matches have been found, the last of which
ended at `last`; each step goes on by a byte at least. -/
def substituteFrom (r : Regex) (s : Subject) (sub : Substitution) :
    (steps : Nat) → (i count : Nat) → (last : Option Nat) → List Char × Bool
  | 0, i, _, _ => ((s.text.extract i s.text.size).toList, false)
  | steps + 1, i, count, last =>
      let rest : List Char := (s.text.extract i s.text.size).toList
      let wanted := sub.first.getD 1
      let isChosen (count : Nat) : Bool := count = wanted || (sub.everywhere && wanted ≤ count)
      let anyChosen (count after : Nat) : Bool :=
        (List.range (after - count)).any fun n => isChosen (count + n + 1)
      let stepAt (i count : Nat) : List Char × Nat :=
        let next := (s.text.extract i (i + 1)).toList
        match next.flatMap narrowChar with
        | b :: c :: bs =>
            -- Within a character there is only a match if bytes are all that counts.
            if s.fold || !r.isBytewise || !r.isOptional then (next, count)
            else
              let insert (count : Nat) : List Char :=
                if isChosen count then replacementText s.text i i [] none sub.replacement else []
              let (more, count) := innerBytes insert count (c :: bs)
              (stray b.toNat :: more, count)
        | _ => (next, count)
      match r.find? s i with
      | none => (rest, false)
      | some (start, stop, groups) =>
          let before := (s.text.extract i start).toList
          if start = stop ∧ last = some start then
            -- An empty match right behind the last one does not count.
            let (next, after) := stepAt start count
            if start < s.text.size then
              let (more, found) := substituteFrom r s sub steps (start + 1) after none
              (before ++ next ++ more, found || anyChosen count after)
            else (before, false)
          else
            let count := count + 1
            let text := if isChosen count then
                replacementText s.text start stop groups none sub.replacement
              else (s.text.extract start stop).toList
            let chosen := isChosen count
            if chosen && !sub.everywhere then
              (before ++ text ++ (s.text.extract stop s.text.size).toList, true)
            else if start = stop then
              if start < s.text.size then
                let (next, after) := stepAt start count
                let (more, found) := substituteFrom r s sub steps (start + 1) after none
                (before ++ text ++ next ++ more, found || chosen || anyChosen count after)
              else (before ++ text, chosen)
            else
              let (more, found) := substituteFrom r s sub steps stop count (some stop)
              (before ++ text ++ more, found || chosen)

/-- A line as it is listed without doubt, cut at a width. -/
def listed (width : Nat) (mark : Char) (line : String) : String :=
  let octal (n : Nat) : String :=
    let digits := Nat.toDigits 8 n
    String.ofList ('\\' :: List.replicate (3 - digits.length) '0' ++ digits)
  let shown (c : Char) : String := match c with
    | '\\' => "\\\\"
    | '\x07' => "\\a"
    | '\x08' => "\\b"
    | '\x0c' => "\\f"
    | '\n' => "\\n"
    | '\x0d' => "\\r"
    | '\t' => "\\t"
    | '\x0b' => "\\v"
    | c => if ' ' ≤ c && c ≤ '~' then String.singleton c else octal c.toNat
  let (text, _) := line.foldl (fun ((text, column) : String × Nat) c =>
    let piece := shown c
    if 0 < width && width - 1 < column + piece.length then
      (text ++ "\\" ++ String.singleton mark ++ piece, piece.length)
    else (text ++ piece, column + piece.length)) ("", 0)
  text ++ "$" ++ String.singleton mark

/-- The part of a text up to a mark. -/
def upTo (mark : Char) (text : String) : String := String.ofList (text.toList.takeWhile (· ≠ mark))

/-- A text without the mark that it may end with. -/
def withoutEnd (mark : Char) (text : String) : String :=
  if text.toList.getLast? = some mark then String.ofList text.toList.dropLast else text

/-- Text of a script as a line of the output. -/
def lineOf (mark : Char) (text : String) : String :=
  if text = "" then "" else withoutEnd '\n' text ++ String.singleton mark

/-- Run a substitution. -/
def substitute (e : EditSettings) (sub : Substitution) : Edit Unit := do
  let (r, p) ← regexOf e sub.pattern
  let highest := ReplacementPart.highest sub.replacement
  if p.selects ∧ p.groups < highest then
    giveUp e ("invalid reference \\" ++ toString highest ++ " on \x60s' command's RHS")
  let s ← get
  let subject := subjectOf e p s.space
  let (text, found) := substituteFrom r subject sub (s.space.length + 2) 0 0 none
  if found then
    let text := narrow (String.ofList text)
    set { s with space := text, replaced := true }
    if sub.runs then
      if sub.prints = some true then outLine e text s.ended
      let result ← liftM (m := Run) (outputOfCommand e.perform text)
      modify fun s => { s with space := withoutEnd e.mark result }
    let text := (← get).space
    if sub.prints = some (!sub.runs) then outLine e text s.ended
    match sub.file with
    | some file => writeLine e file text s.ended
    | none => pure ()

/-- Run the commands of the script on the pattern space. -/
def execute (e : EditSettings) : Edit EditOutcome := do
  let mut place := 0
  for _ in [0:rounds] do
    match e.script.commands[place]? with
    | none => return .done
    | some c =>
        let here := place
        place := place + 1
        let chosen := (← selected e here c) != c.negated
        if !chosen then
          match c.op with
          | .openBlock stop => place := stop
          | _ => pure ()
        else
          let jump (target : String) : Nat :=
            if target = "" then e.script.commands.size
            else (e.script.labels.lookup target).getD e.script.commands.size
          match c.op with
          | .openBlock _ | .closeBlock | .label => pure ()
          | .append text => modify fun s => { s with queue := s.queue ++ [.text text] }
          | .insert text => out e (lineOf e.mark text)
          | .change text =>
              let isOpen := match (← get).ranges.getD here .closed with
                | .opened _ => true
                | _ => false
              if !isOpen || c.negated then out e (lineOf e.mark text)
              return .deleted
          | .run command? =>
              match command? with
              | some text =>
                  out e ""
                  let result ← liftM (m := Run) (outputOfCommand e.perform text)
                  out e result
              | none =>
                  let result ← liftM (m := Run) (outputOfCommand e.perform (← get).space)
                  modify fun s => { s with space := withoutEnd e.mark result }
          | .branch when? target =>
              let replaced := (← get).replaced
              match when? with
              | none => place := jump target
              | some wanted =>
                  if replaced then modify fun s => { s with replaced := false }
                  if replaced = wanted then place := jump target
          | .delete => return .deleted
          | .deleteFirst =>
              let space := (← get).space
              match space.toList.dropWhile (· ≠ e.mark) with
              | [] => return .deleted
              | _ :: rest =>
                  modify fun s => { s with space := String.ofList rest }
                  return .again
          | .next =>
              if ← atEnd e then return .done
              let s ← get
              if !e.quiet then outLine e s.space s.ended
              if !(← readSpace e false) then return .quit 0 false
          | .nextAppend =>
              if ← atEnd e then return if e.posix then .deleted else .done
              if !(← readSpace e true) then return .done
          | .print =>
              let s ← get
              outLine e s.space s.ended
          | .printFirst =>
              let s ← get
              outLine e (upTo e.mark s.space) (s.ended || s.space.contains e.mark)
          | .getHold => modify fun s => { s with space := s.hold, ended := s.holdEnded }
          | .appendHold =>
              modify fun s =>
                { s with
                  space := s.space ++ String.singleton e.mark ++ s.hold, ended := s.holdEnded }
          | .toHold => modify fun s => { s with hold := s.space, holdEnded := s.ended }
          | .toHoldAppend =>
              modify fun s =>
                { s with
                  hold := s.hold ++ String.singleton e.mark ++ s.space, holdEnded := s.ended }
          | .exchange =>
              modify fun s =>
                { s with
                  hold := s.space, holdEnded := s.ended, space := s.hold, ended := s.holdEnded }
          | .quit status prints => return .quit status prints
          | .substitute sub => substitute e sub
          | .translate pairs =>
              modify fun s =>
                { s with
                  space := narrow ((widen s.space).map fun c => (pairs.lookup c).getD c) }
          | .readFile file => modify fun s => { s with queue := s.queue ++ [.file file] }
          | .readLine file =>
              let left ← match (← get).readers.lookup file with
                | some left => pure left
                | none => do
                    match ← liftM (m := Run)
                        (if file = "/dev/stdin" then readAll 0 else readPath file) with
                    | .ok text => pure text.toList
                    | .error _ => pure []
              let line := left.takeWhile (· ≠ e.mark)
              let line := left.take (line.length + 1)
              modify fun s =>
                { s with
                  readers := (file, left.drop line.length) :: s.readers.filter fun r => r.1 ≠ file
                  queue := if line.isEmpty then s.queue
                    else s.queue ++ [.text (String.ofList line)] }
          | .writeFile file =>
              let s ← get
              writeLine e file s.space s.ended
          | .writeFirst file =>
              let s ← get
              writeLine e file (upTo e.mark s.space) (s.ended || s.space.contains e.mark)
          | .lineNumber => out e (toString (← get).number ++ String.singleton e.mark)
          | .list width => out e (listed (width.getD e.width) e.mark (← get).space)
          | .fileName => out e ((← get).file ++ String.singleton e.mark)
          | .clear => modify fun s => { s with space := "" }
  return .done

/-- Run the script on all lines of the inputs; the answer is the status to quit with, if the
script says so. -/
def runAll (e : EditSettings) : Edit (Option Nat) := do
  let mut again := false
  for _ in [0:rounds] do
    if !again then
      if !(← readSpace e false) then return none
    again := false
    let finish (prints : Bool) : Edit Unit := do
      let s ← get
      if prints && !e.quiet then outLine e s.space s.ended
    match ← execute e with
    | .done => finish true
    | .deleted => pure ()
    | .again =>
        showQueue e
        again := true
    | .quit status prints =>
        finish prints
        if prints then
          out e ""
          showQueue e
        return some status
  return none

end Edit

/-! ### The program -/

/-- The options of the program that edits. -/
def sedOptions : OptionTable where
  flags := "bnErsuz"
  valued := "efl"
  optional := "i"
  long := [("binary", 'b', .none), ("regexp-extended", 'E', .none), ("debug", 'd', .none),
    ("in-place", 'i', .optional), ("expression", 'e', .required), ("file", 'f', .required),
    ("line-length", 'l', .required), ("null-data", 'z', .none), ("zero-terminated", 'z', .none),
    ("quiet", 'n', .none), ("posix", 'p', .none), ("silent", 'n', .none),
    ("sandbox", 'x', .none), ("separate", 's', .none), ("unbuffered", 'u', .none),
    ("version", 'v', .none), ("help", 'h', .none), ("follow-symlinks", 'F', .none)]

/-- The pieces of the script that is asked for.  How a piece is written depends on the options in
front of it. -/
def scriptPieces (name : String) (g : Given) : Run (Except Nat (List EditPiece)) := do
  let mut pieces : List EditPiece := []
  let mut style : EditStyle := {}
  let mut number := 0
  for (c, text) in g.options do
    match c with
    | 'E' | 'r' => style := { style with extended := true }
    | 'p' => style := { style with posix := true }
    | 'x' => style := { style with sandbox := true }
    | 'e' =>
        number := number + 1
        pieces := pieces ++ [⟨.expression number, style, text⟩]
    | 'f' =>
        match ← readInput text with
        | .ok found => pieces := pieces ++ [⟨.file text, style, found⟩]
        | .error e =>
            blame name ("couldn't open file " ++ text ++ ": " ++ e.reason)
            return .error 4
    | _ => pure ()
  if !pieces.isEmpty then return .ok pieces
  match g.operands with
  | [] => return .ok []
  | text :: _ => return .ok [⟨.expression 1, style, text⟩]

/-- Complain about a script. -/
def blameScript (name : String) (fault : EditFault) : Run Nat := do
  blame name fault.message
  return if fault.place.isSome then 1 else 4

/-- A page of the makers of the program. -/
def makersPage (path : String) : String := "<https:" ++ "//www.gnu.org/" ++ path ++ "/>"

/-- What the program says about its use. -/
def sedUsage (name : String) : String :=
  "Usage: " ++ name ++ " [OPTION]... \x7bscript-only-if-no-other-script\x7d [input-file]...

  -n, --quiet, --silent
                 suppress automatic printing of pattern space
      --debug
                 annotate program execution
  -e script, --expression=script
                 add the script to the commands to be executed
  -f script-file, --file=script-file
                 add the contents of script-file to the commands to be executed
  --follow-symlinks
                 follow symlinks when processing in place
  -i[SUFFIX], --in-place[=SUFFIX]
                 edit files in place (makes backup if SUFFIX supplied)
  -l N, --line-length=N
                 specify the desired line-wrap length for the \x60l' command
  --posix
                 disable all GNU extensions.
  -E, -r, --regexp-extended
                 use extended regular expressions in the script
                 (for portability use POSIX -E).
  -s, --separate
                 consider files as separate rather than as a single,
                 continuous long stream.
      --sandbox
                 operate in sandbox mode (disable e/r/w commands).
  -u, --unbuffered
                 load minimal amounts of data from the input files and flush
                 the output buffers more often
  -z, --null-data
                 separate lines by NUL characters
      --help     display this help and exit
      --version  output version information and exit

If no -e, --expression, -f, or --file option is given, then the first
non-option argument is taken as the sed script to interpret.  All
remaining arguments are names of input files; if no input files are
specified, then the standard input is read.

GNU sed home page: " ++ makersPage "software/sed" ++ ".
General help using GNU software: " ++ makersPage "gethelp" ++ ".
"

/-- The files that a script writes to. -/
def outputFiles (s : EditScript) : List String :=
  (s.commands.toList.filterMap fun c => match c.op with
    | .writeFile file | .writeFirst file => some file
    | .substitute sub => sub.file
    | _ => none).eraseDups.filter fun f => f ≠ "/dev/stdout" && f ≠ "/dev/stderr"

/-- Run a script on some inputs that count as one; what is left over from other inputs is kept. -/
def editInputs (e : EditSettings) (files : List String) (before : EditState) :
    Run (Option Nat × EditState) := do
  let openRanges := e.script.commands.map fun c => match c.first with
    | some .zero => RangeState.opened none
    | _ => .closed
  (Edit.runAll e).run
    { before with
      files := files
      stream := none
      buffer := []
      number := 0
      ranges := openRanges
      hold := ""
      readers := [] }

/-- Change a file by a script. -/
def editFile (e : EditSettings) (file backup : String) (before : EditState) :
    Run (Option Nat × EditState) := do
  let old ← readPath file
  let streams := (← process).streams
  let pipe ← addPipe ByteArray.empty false
  setStream 1 (← addOpenFile { target := .pipe pipe, writable := true })
  let unended := before.unended.filter (· ≠ "")
  let (status, after) ← editInputs e [file] { before with unended := unended }
  modifyProcess fun p => { p with streams := streams }
  match old with
  | .error _ => return (status, after)
  | .ok text =>
      if backup ≠ "" then
        let copy := if backup.contains '*' then
            Path.join (Path.parent file) (backup.replace "*" (Path.base file))
          else file ++ backup
        discard (writePath copy text)
      let bytes := ((← get).pipes[pipe]?.map Pipe.bytes).getD ByteArray.empty
      discard (writePath file (rawOfBytes bytes))
      return (status, after)

/-- Edit streams with a script, given its options and operands. -/
def editAll (perform : Perform) (name : String) (g : Given) : Run Nat := do
  match ← scriptPieces name g with
  | .error status => return status
  | .ok [] =>
      complain (sedUsage name)
      return 1
  | .ok pieces =>
      let operands := if g.has 'e' || g.has 'f' then g.operands else g.operands.drop 1
      let (script, fault?) := EditScript.ofPieces pieces
      let mut outputs : List (String × Nat) := []
      for file in outputFiles script do
        match ← openPath file .writing with
        | .ok index => outputs := (file, index) :: outputs
        | .error e =>
            blame name ("couldn't open file " ++ file ++ ": " ++ e.reason)
            return 4
      match fault? with
      | some fault => blameScript name fault
      | none =>
          if g.has 'i' && operands.isEmpty then
            blame name "no input files"
            return 4
          let e : EditSettings :=
            { name := name
              perform := perform
              posix := g.has 'p'
              quiet := g.has 'n' || script.quiet
              separate := g.has 's' || g.has 'i'
              inPlace := g.value? 'i'
              mark := if g.has 'z' then '\x00' else '\n'
              width := match g.value? 'l' with
                | some text => Nat.ofDigitChars 10 (text.toList.takeWhile Char.isDigit) 0
                | none => 70
              script := script }
          let files := inputsOf operands
          let groups := if e.separate then files.map fun f => [f] else [files]
          let mut state : EditState := { files := [], ranges := #[], outputs := outputs }
          for group in groups do
            if e.inPlace.isNone then
              let ((), ended) ← (Edit.out e "").run state
              state := ended
            let (quit, after) ← match e.inPlace, group with
              | some backup, [file] => editFile e file backup state
              | _, _ => editInputs e group state
            state := after
            match quit with
            | some status =>
                giveBack 0 (if after.stream = some 0 then after.buffer.length else 0)
                return status
            | none => pure ()
          return state.status

/-- Edit streams with a script. -/
def sed (perform : Perform) : Tool := fun name arguments => do
  match readArguments sedOptions (arguments.length + 1) arguments with
  | .error text =>
      blame name text
      complain (sedUsage name)
      return 1
  | .ok g =>
      if g.has 'h' then
        put (sedUsage name ++ "E-mail bug reports to: <bug-sed@gnu.org>.\n")
        return 0
      editAll perform name g

end ToyLang.Tools
