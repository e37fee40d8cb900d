import ToyLang.Format.Escape
import ToyLang.Tools.Started

/-!
# Commands from an input

The words of an input become the arguments of commands, as many at a time as are wanted.

## Main definitions

* `Found`, `foundIn`, `foundBetween` — what an input holds.
* `BatchStyle` — how commands are made.
* `Batch`, `xargs` — the commands, and running them.
-/

namespace ToyLang.Tools

open Run
open Shell (Perform)

/-! ### What an input holds -/

/-- A part of an input. -/
inductive Found where
  | word (text : String)
  /-- The end of a line, and whether the line counts. -/
  | lineEnd (counts : Bool)
  /-- Something that should not be there. -/
  | warning (text : String)
  /-- What is wrong behind all that came before. -/
  | fault (text : String)

/-- Where an input is being read. -/
inductive WordPlace where
  | outside
  | inside
  | quoted (mark : Char)
  | escaped

/-- How words are told apart. -/
structure WordRules where
  /-- Whether blanks part words, and not only the ends of lines. -/
  blanksPart : Bool := true
  /-- The word that stands for the end of the input. -/
  last : Option String := none
  /-- How long a word may be. -/
  room : Nat

/-- An input that is being read. -/
structure WordReader where
  place : WordPlace := .outside
  /-- The letters of the word, the last one first. -/
  letters : List Char := []
  size : Nat := 0
  /-- Whether the line has no whole word yet. -/
  isFirst : Bool := true
  previous : Char := ' '
  isWarned : Bool := false
  isDone : Bool := false
  /-- What was found, the last part first. -/
  found : List Found := []

/-- What a text is for a program, which sees only what stands in front of a zero. -/
def untilZero (cs : List Char) : String := String.ofList (cs.takeWhile (· ≠ '\x00'))

/-- The word that was read. -/
def WordReader.word (r : WordReader) : String := untilZero r.letters.reverse

/-- Begin the next word. -/
def WordReader.next (r : WordReader) (place : WordPlace) (found : List Found) : WordReader :=
  { r with place := place, letters := [], size := 0, found := found.reverse ++ r.found }

/-- The complaint about a quote without its partner. -/
def unmatchedQuote (mark : Char) : String :=
  "unmatched " ++ (if mark = '"' then "double" else "single")
    ++ " quote; by default quotes are special to xargs unless you use the -0 option"

/-- Give up reading. -/
def WordReader.fail (r : WordReader) (text : String) : WordReader :=
  { r with isDone := true, found := .fault text :: r.found }

/-- The complaint about a zero. -/
def zeroWarning : String :=
  "WARNING: a NUL character occurred in the input.  It cannot be passed through in the argument "
    ++ "list.  Did you mean to use the --null option?"

/-- Put a letter behind the word. -/
def WordReader.add (t : WordRules) (r : WordReader) (place : WordPlace) (c : Char) : WordReader :=
  let r := if c = '\x00' ∧ !r.isWarned then
      { r with isWarned := true, found := .warning zeroWarning :: r.found } else r
  if t.room ≤ r.size then r.fail "argument line too long"
  else { r with place := place, letters := c :: r.letters, size := r.size + 1 }

/-- Read a character. -/
def WordReader.step (t : WordRules) (r : WordReader) (c : Char) : WordReader :=
  if r.isDone then r
  else
    let isBlank (c : Char) : Bool := c = ' ' || c = '\t'
    let inWord (r : WordReader) : WordReader :=
      let isLast := t.last = some r.word
      if c = '\n' then
        let ended : Found := .lineEnd (!isBlank r.previous)
        if isLast then { r with isDone := true }
        else { r.next .outside [.word r.word, ended] with isFirst := true }
      else if t.blanksPart && isBlank c then
        if isLast then { r with isDone := true }
        else { r.next .outside [.word r.word] with isFirst := false }
      else if c = '\\' then { r with place := .escaped }
      else if c = '\'' ∨ c = '"' then { r with place := .quoted c }
      else r.add t .inside c
    let read := match r.place with
      | .outside =>
          if isBlank c || ['\n', '\x0b', '\x0c', '\x0d'].contains c then r else inWord r
      | .inside => inWord r
      | .quoted mark =>
          if c = '\n' then r.fail (unmatchedQuote mark)
          else if c = mark then { r with place := .inside }
          else r.add t (.quoted mark) c
      | .escaped => r.add t .inside c
    { read with previous := c }

/-- What a text holds whose words may be quoted. -/
def foundIn (t : WordRules) (text : String) : List Found :=
  let r := text.toList.foldl (WordReader.step t) {}
  if r.isDone || r.size = 0 then r.found.reverse
  else match r.place with
    | .quoted mark => (r.fail (unmatchedQuote mark)).found.reverse
    | _ =>
        if r.isFirst && t.last = some r.word then r.found.reverse
        else (Found.word r.word :: r.found).reverse

/-- What a text holds whose parts end with a mark. -/
def foundBetween (stop : Char) (room : Nat) (text : String) : List Found :=
  let parts := text.splitOn (String.singleton stop)
  let isOpen := parts.getLast? ≠ some ""
  let whole := if isOpen then parts else parts.dropLast
  let found := whole.takeWhile fun part => part.length ≤ room
  let count := parts.length - 1
  let words : List Found := (found.zipIdx).flatMap fun (part, n) =>
    .word (untilZero part.toList) :: if n < count then [Found.lineEnd true] else []
  if found.length < whole.length then words ++ [.fault "argument line too long"] else words

/-! ### How commands are made -/

/-- How commands are made from words. -/
structure BatchStyle where
  /-- The words for one command, and the lines. -/
  words : Option Nat := none
  lines : Option Nat := none
  /-- What an item is put in place of. -/
  replaced : Option String := none
  /-- The mark between items. -/
  stop : Option Char := none
  last : Option String := none
  /-- How many characters a command has at most. -/
  room : Nat := 131072
  /-- Whether a command runs without items, too. -/
  runsAlways : Bool := true
  /-- Whether too many characters are a failure. -/
  isStrict : Bool := false
  isTold : Bool := false
  isAsked : Bool := false
  file : Option String := none
  /-- The variable for the number of the place in which a command runs. -/
  place : Option String := none

/-- The number in an option. -/
def optionNumber (c : Char) (least : Nat) (text : String) : Except String Nat :=
  let cs := text.toList.dropWhile fun c => c = ' ' || c = '\t'
  let digits := if cs.head? = some '-' ∨ cs.head? = some '+' then cs.drop 1 else cs
  if digits.isEmpty || !digits.all Char.isDigit then
    .error ("invalid number \"" ++ text ++ "\" for -" ++ String.singleton c ++ " option")
  else
    let n := Nat.ofDigitChars 10 digits 0
    if (cs.head? = some '-' ∧ n ≠ 0) ∨ n < least then
      .error ("value " ++ text ++ " for -" ++ String.singleton c ++ " option should be >= "
        ++ toString least)
    else .ok n

/-- The mark between items that a text gives. -/
def batchStop (text : String) : Except String Char :=
  let wrong (more : String) : Except String Char :=
    .error ("Invalid escape sequence " ++ text ++ " in input delimiter specification" ++ more)
  match text.toList with
  | [c] => .ok c
  | '\\' :: c :: cs =>
      let number (base : Nat) (most : String) (cs : List Char) : Except String Char :=
        let value? (c : Char) : Option Nat :=
          let n := if c.isDigit then c.toNat - 48
            else if c.isAlpha then c.toLower.toNat - 87 else base
          if n < base then some n else none
        let digits := cs.takeWhile fun c => (value? c).isSome
        let n := digits.foldl (fun n c => n * base + (value? c).getD 0) 0
        let rest := String.ofList (cs.drop digits.length)
        if 255 < n then wrong ("; character values must not exceed " ++ most ++ ".")
        else if rest ≠ "" then
          wrong ("; trailing characters " ++ rest ++ " not recognised.")
        else .ok (Char.ofNat n)
      match c with
      | 'a' => .ok '\x07'
      | 'b' => .ok '\x08'
      | 'f' => .ok '\x0c'
      | 'n' => .ok '\n'
      | 'r' => .ok '\x0d'
      | 't' => .ok '\t'
      | 'v' => .ok '\x0b'
      | '\\' => .ok '\\'
      | 'x' => number 16 "ff" cs
      | c => if c.isDigit then number 8 "377" (c :: cs) else wrong "."
  | _ =>
      .error ("Invalid input delimiter specification " ++ text
        ++ ": the delimiter must be either a single character or an escape sequence starting "
        ++ "with \\.")

/-- Drop what does not go together with an option that is named last, and tell so. -/
def BatchStyle.without (name : String) (s : BatchStyle) (now : String)
    (others : List (String × Bool)) : Run BatchStyle := do
  for (option, isThere) in others do
    if isThere then
      blame name ("warning: options " ++ option ++ " and " ++ now
        ++ " are mutually exclusive, ignoring previous " ++ option ++ " value")
  return { s with words := none, lines := none, replaced := none }

/-- Take an option.  The answer is a complaint, and whether help is offered with it. -/
def BatchStyle.take (name : String) (s : BatchStyle) (option : Char × String) :
    Run (Except (String × Bool) BatchStyle) := do
  let (c, text) := option
  let byWords := ("--max-args", s.words.isSome)
  let byLines := ("--max-lines", s.lines.isSome)
  let byItems := ("--replace", s.replaced.isSome)
  let number (least : Nat) (act : Nat → Run BatchStyle) :
      Run (Except (String × Bool) BatchStyle) := do
    let letter := if c = 'l' then 'L' else c
    match optionNumber letter least text with
    | .error e => return .error (e, true)
    | .ok n => return .ok (← act n)
  let byLine (now : String) (n : Nat) : Run BatchStyle := do
    return { ← s.without name now [byWords, byItems] with lines := some n }
  match c with
  | '0' => return .ok { s with stop := some '\x00' }
  | 'd' =>
      match batchStop text with
      | .ok stop => return .ok { s with stop := some stop }
      | .error e => return .error (e, false)
  | 'E' | 'e' => return .ok { s with last := if text = "" then none else some text }
  | 'I' | 'i' =>
      let cleared ← s.without name "--replace/-I/-i" [byWords, byLines]
      return .ok { cleared with replaced := some (if text = "" then "\x7b\x7d" else text) }
  | 'L' => number 1 (byLine "-L")
  | 'l' =>
      if text = "" then return .ok (← byLine "--max-lines/-l" 1)
      number 1 (byLine "--max-lines/-l")
  | 'n' =>
      number 1 fun n => do
        if n = 1 ∧ s.replaced.isSome then return s
        return { ← s.without name "--max-args/-n" [byLines, byItems] with words := some n }
  | 's' => number 1 fun n => return { s with room := n }
  | 'P' => number 0 fun _ => return s
  | 'r' => return .ok { s with runsAlways := false }
  | 'x' => return .ok { s with isStrict := true }
  | 't' => return .ok { s with isTold := true }
  | 'p' => return .ok { s with isTold := true, isAsked := true }
  | 'a' => return .ok { s with file := some text }
  | 'v' => return .ok { s with place := some text }
  | _ => return .ok s

/-! ### Running commands -/

/-- Commands in the making. -/
structure Batch where
  /-- The words for the next command, the last one first. -/
  words : List String := []
  count : Nat := 0
  /-- The characters of the next command. -/
  size : Nat := 0
  lines : Nat := 0
  status : Nat := 0
  hasRun : Bool := false

/-- Run a command.  The answer is an error if no more of them are to be run. -/
def runOne (perform : Perform) (name : String) (s : BatchStyle) (words : List String) :
    Run (Except Nat Nat) := do
  let program := words.headD ""
  if s.isTold then
    complain (" ".intercalate (words.map quotedIfNeeded) ++ (if s.isAsked then "" else "\n"))
  if s.isAsked then
    blame name ("failed to open /dev/tty for reading: " ++ FileError.noDevice.reason)
    return .error 1
  let ending ← asChild do
    if s.file.isNone then
      match ← openPath "/dev/null" .reading with
      | .ok index => setStream 0 index
      | .error _ => closeStream 0
    if let some slot := s.place then
      let others (p : Process) := p.environment.filter fun entry => entry.1 ≠ slot
      modifyProcess fun p => { p with environment := others p ++ [(slot, "0")] }
    match ← startWords perform words with
    | .ok status => return if status % 256 = 255 then 255 else min (status % 256) 1
    | .error e =>
        blame name (program ++ ": " ++ e.reason)
        return startStatus e
  match ending with
  | .exited 0 => return .ok 0
  | .exited 126 => return .error 126
  | .exited 127 => return .error 127
  | .exited 255 =>
      blame name (program ++ ": exited with status 255; aborting")
      return .error 124
  | .exited _ => return .ok 123
  | .signalled n =>
      blame name (program ++ ": terminated by signal " ++ toString n)
      return .error 125

/-- Run the command that is in the making. -/
def Batch.run (perform : Perform) (name : String) (s : BatchStyle) (command : List String)
    (b : Batch) : Run (Except Nat Batch) := do
  let start := (command.map fun word => word.length + 1).foldl (· + ·) 0
  let status ← runOne perform name s (command ++ b.words.reverse)
  return status.map fun n =>
    { size := start, status := if n = 0 then b.status else n, hasRun := true }

/-- Take a part of the input into the commands.  The answer is a status if that is the end. -/
def Batch.step (perform : Perform) (name : String) (s : BatchStyle) (command : List String)
    (b : Batch) (found : Found) : Run (Except Nat Batch) := do
  let run (b : Batch) : Run (Except Nat Batch) := b.run perform name s command
  let failed (b : Batch) (text : String) : Run (Except Nat Batch) := do
    blame name text
    let last ← if s.replaced.isSome || b.count = 0 || s.isStrict then pure (.ok b) else run b
    return .error <| match last with
      | .ok b => if b.status = 0 then 1 else b.status
      | .error n => n
  match found with
  | .warning text =>
      blame name text
      return .ok b
  | .fault text => failed b text
  | .lineEnd counts =>
      let lines := if counts then b.lines + 1 else b.lines
      match s.lines with
      | some most => if most ≤ lines then run b else return .ok { b with lines := lines }
      | none => return .ok { b with lines := lines }
  | .word text =>
      match s.replaced with
      | some mark =>
          let put (word : String) : String := text.intercalate (word.splitOn mark)
          let status ← runOne perform name s (command.take 1 ++ (command.drop 1).map put)
          return status.map fun n =>
            { b with status := if n = 0 then b.status else n, hasRun := true }
      | none =>
          let size := text.length + 1
          let isTooMuch := s.room < b.size + size
          if isTooMuch && b.count = 0 then
            blame name "can't fit single argument within argument list size limit"
            return .error 1
          if isTooMuch && s.isStrict && (s.words.isSome || s.lines.isSome) then
            blame name "argument list too long"
            return .error 1
          let isFull := s.words.any fun most => most ≤ b.count
          match ← if isTooMuch || isFull then run b else pure (.ok b) with
          | .error n => return .error n
          | .ok b =>
              return .ok { b with
                words := text :: b.words, count := b.count + 1, size := b.size + size }

/-- The options of `xargs`. -/
def batchOptions : OptionTable :=
  { flags := "0rtpxo", valued := "aEILdnsP", optional := "eil", inOrder := true
    long := [("null", '0', .none), ("arg-file", 'a', .required), ("delimiter", 'd', .required),
      ("eof", 'e', .optional), ("replace", 'i', .optional), ("max-lines", 'l', .optional),
      ("max-args", 'n', .required), ("open-tty", 'o', .none), ("interactive", 'p', .none),
      ("no-run-if-empty", 'r', .none), ("max-chars", 's', .required), ("verbose", 't', .none),
      ("exit", 'x', .none), ("max-procs", 'P', .required),
      ("process-slot-var", 'v', .required)] }

/-- Run a command with arguments from an input. -/
def xargs (perform : Perform) : Tool := fun name arguments =>
  withOptions name batchOptions arguments fun g => do
    let mut style : BatchStyle := {}
    for option in g.options do
      match ← style.take name option with
      | .ok s => style := s
      | .error (text, offersHelp) =>
          blame name text
          if offersHelp then return ← askForHelp name 1
          return 1
    if style.stop.isSome && style.last.isSome then
      blame name "warning: the -E option has no effect if -0 or -d is used.\n"
    let text ← match ← readInput (style.file.getD "-") with
      | .ok text => pure text
      | .error e =>
          blame name ("Cannot open input file " ++ mentioned (style.file.getD "-") ++ ": "
            ++ e.reason)
          return 1
    let s := style
    let command := if g.operands.isEmpty then ["echo"] else g.operands
    let start := (command.map fun word => word.length + 1).foldl (· + ·) 0
    if s.replaced.isNone && decide (s.room < start) then
      blame name "can't fit single argument within argument list size limit"
      return 1
    let room := s.room - (if s.replaced.isNone then start else 0) - 1
    let found := match s.stop with
      | some stop => foundBetween stop room text
      | none => foundIn { blanksPart := s.replaced.isNone, last := s.last, room := room } text
    let mut batch : Batch := { size := start }
    for part in found do
      match ← batch.step perform name s command part with
      | .ok b => batch := b
      | .error status => return status
    if s.replaced.isNone && (batch.count ≠ 0 || (s.runsAlways && !batch.hasRun)) then
      match ← batch.run perform name s command with
      | .ok b => batch := b
      | .error status => return status
    return batch.status

end ToyLang.Tools
