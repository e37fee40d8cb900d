import ToyLang.Process.Machine
import ToyLang.Text.Quoted

/-!
# Programs of the system

What the programs that every system has do alike: they take options in one form, complain in one
form, and read the files that they are given, or else their standard input.  Those that work on
files find what paths lead to, change it, and go on with the next operand if that fails.  They ask
before they destroy something.  The answers are lines of the standard input, of which more may be
read than is needed; what is left over is given back in the end if that can be done.

## Main definitions

* `OptionTable`, `withOptions` — options.
* `blame`, `misused` — complaints.
* `readInput` — an input.
* `locatePath`, `isFolderAt`, `change` — what a path leads to, and changes of it.
* `giveUp`, `forOperands` — one operand after the other.
* `blameRoot` — a refusal to work on all files.
* `Answers`, `Asking` — what has been read ahead of questions.
* `Asking.agrees` — a question and its answer.
* `asking` — a run that may ask.
-/

namespace ToyLang.Tools

export Text (quoted quotedIfNeeded mentioned)

open Run

/-- A program: its name and its arguments. -/
abbrev Tool := (name : String) → (arguments : List String) → Run Nat

/-! ### Complaints -/

/-- Complain as a program. -/
def blame (name text : String) : Run Unit := complain (name ++ ": " ++ text ++ "\n")

/-- Say where to find help, and fail. -/
def askForHelp (name : String) (status : Nat) : Run Nat := do
  complain ("Try '" ++ name ++ " --help' for more information.\n")
  return status

/-- Complain about the way a program is used. -/
def misused (name text : String) (status : Nat := 1) : Run Nat := do
  blame name text
  askForHelp name status

/-- Complain about an operand that is missing, or about one too many. -/
def missingOperand (name : String) (operands : List String) (status : Nat := 1) : Run Nat :=
  match operands.getLast? with
  | none => misused name "missing operand" status
  | some last => misused name ("missing operand after " ++ mentioned last) status

/-- Complain about an operand that is one too many. -/
def extraOperand (name operand : String) (status : Nat := 1) : Run Nat :=
  misused name ("extra operand " ++ mentioned operand) status

/-! ### Options -/

/-- Whether a long option has a value. -/
inductive Arity where
  | none
  | required
  | optional
  deriving DecidableEq

/-- The options of a program. -/
structure OptionTable where
  /-- The letters without a value. -/
  flags : String := ""
  /-- The letters with a value. -/
  valued : String := ""
  /-- The letters that may have a value, which then follows at once. -/
  optional : String := ""
  /-- The long names, with the letters that they stand for. -/
  long : List (String × Char × Arity) := []
  /-- Whether the first operand ends the options. -/
  inOrder : Bool := false
  /-- An operand that is an option in an older form, given the argument behind it: the option, and
  how many arguments it takes. -/
  older : String → Option String → Option ((Char × String) × Nat) := fun _ _ => none

/-- The options that were given, and the operands. -/
structure Given where
  options : List (Char × String) := []
  operands : List String := []

/-- Whether an option was given. -/
def Given.has (g : Given) (c : Char) : Bool := g.options.any fun o => o.1 = c

/-- The value of an option that was given last. -/
def Given.value? (g : Given) (c : Char) : Option String :=
  ((g.options.filter fun o => o.1 = c).getLast?).map Prod.snd

/-- The last of some options that was given. -/
def Given.last? (g : Given) (cs : List Char) : Option Char :=
  ((g.options.filter fun o => cs.contains o.1).getLast?).map Prod.fst

/-- The values of an option in order. -/
def Given.values (g : Given) (c : Char) : List String :=
  (g.options.filter fun o => o.1 = c).map Prod.snd

/-- Read letters that stand behind one dash, given the arguments that follow. -/
def readLetters (t : OptionTable) : List Char → List String →
    Except String (List (Char × String) × List String)
  | [], rest => .ok ([], rest)
  | c :: cs, rest =>
      if t.flags.contains c then
        (readLetters t cs rest).map fun (found, rest) => ((c, "") :: found, rest)
      else if t.optional.contains c then .ok ([(c, String.ofList cs)], rest)
      else if t.valued.contains c then
        if cs.isEmpty then
          match rest with
          | value :: rest => .ok ([(c, value)], rest)
          | [] => .error ("option requires an argument -- '" ++ String.singleton c ++ "'")
        else .ok ([(c, String.ofList cs)], rest)
      else .error ("invalid option -- '" ++ String.singleton c ++ "'")

/-- Read a long option without its dashes. -/
def readLong (t : OptionTable) (text : String) (rest : List String) :
    Except String ((Char × String) × List String) :=
  let name := String.ofList (text.toList.takeWhile (· ≠ '='))
  let value? : Option String :=
    if name.length = text.length then none
    else some (String.ofList (text.toList.drop (name.length + 1)))
  let exact := t.long.filter fun o => o.1 = name
  let candidates := if exact.isEmpty then t.long.filter fun o => o.1.startsWith name else exact
  let same := candidates.all fun o => some o.2 = (candidates.head?).map Prod.snd
  match candidates with
  | [] => .error ("unrecognized option '--" ++ text ++ "'")
  | (full, c, arity) :: others =>
      if !others.isEmpty ∧ !same then
        .error ("option '--" ++ text ++ "' is ambiguous; possibilities:"
          ++ String.join (candidates.map fun o => " '--" ++ o.1 ++ "'"))
      else match arity, value? with
        | .none, some _ => .error ("option '--" ++ full ++ "' doesn't allow an argument")
        | .none, none => .ok ((c, ""), rest)
        | .optional, value? => .ok ((c, value?.getD ""), rest)
        | .required, some value => .ok ((c, value), rest)
        | .required, none =>
            match rest with
            | value :: rest => .ok ((c, value), rest)
            | [] => .error ("option '--" ++ full ++ "' requires an argument")

/-- Read arguments; each step takes one of them at least. -/
def readArguments (t : OptionTable) : (steps : Nat) → List String → Except String Given
  | 0, _ => .ok {}
  | _, [] => .ok {}
  | steps + 1, argument :: rest =>
      match argument.toList with
      | ['-', '-'] => .ok { operands := rest }
      | '-' :: '-' :: name =>
          (readLong t (String.ofList name) rest).bind fun (o, rest) =>
            (readArguments t steps rest).map fun g => { g with options := o :: g.options }
      | '-' :: c :: cs =>
          (readLetters t (c :: cs) rest).bind fun (found, rest) =>
            (readArguments t steps rest).map fun g => { g with options := found ++ g.options }
      | _ =>
          match t.older argument rest.head? with
          | some (o, count) => (readArguments t steps (rest.drop (count - 1))).map fun g =>
              { g with options := o :: g.options }
          | none =>
              if t.inOrder then .ok { operands := argument :: rest }
              else (readArguments t steps rest).map fun g =>
                { g with operands := argument :: g.operands }

/-- Read arguments, and do something with what was given. -/
def withOptions (name : String) (t : OptionTable) (arguments : List String) (act : Given → Run Nat)
    (status : Nat := 1) : Run Nat :=
  match readArguments t (arguments.length + 1) arguments with
  | .error text => misused name text status
  | .ok g => act g

/-! ### Words for a choice -/

/-- What a word or the start of one chooses, or whether it is the start of several. -/
def choice? {α : Type} (choices : List (List String × α)) (word : String) (exact : Bool := false) :
    Except Bool α :=
  let places (fits : String → Bool) : List Nat :=
    (List.range choices.length).filter fun i => ((choices[i]?).any fun c => c.1.any fits)
  let same := places (· = word)
  let found := if same.isEmpty && !exact then places (·.startsWith word) else same
  match found with
  | [i] => match choices[i]? with
      | some c => .ok c.2
      | none => .error false
  | found => .error (!found.isEmpty)

/-- Complain about a word that chooses nothing, or is the start of several words; those that there
are follow. -/
def complainOfChoice {α : Type} (name option word : String) (choices : List (List String × α))
    (isStart : Bool) : Run Unit := do
  blame name ((if isStart then "ambiguous" else "invalid") ++ " argument " ++ mentioned word
    ++ " for " ++ mentioned option)
  complain ("Valid arguments are:\n" ++ String.join (choices.map fun c =>
    "  - " ++ ", ".intercalate (c.1.map mentioned) ++ "\n"))

/-- Do something with what a word chooses, or complain about it. -/
def withChoice {α : Type} (name option word : String) (choices : List (List String × α))
    (act : α → Run Nat) (status : Nat := 1) (exact : Bool := false) : Run Nat := do
  match choice? choices word exact with
  | .ok a => act a
  | .error isStart =>
      complainOfChoice name option word choices isStart
      askForHelp name status

/-! ### Outputs -/

/-- Write a raw text to an open file; a failure goes unnoticed. -/
def putTo (index : Nat) (text : String) : Run Unit := do
  setStream ownStream index
  discard (Run.write ownStream text)
  closeStream ownStream

/-! ### Inputs -/

/-- The text of an input; a dash stands for standard input. -/
def readInput (file : String) : Run (Except FileError String) :=
  if file = "-" then readAll 0 else readPath file

/-- The inputs that are meant by some operands. -/
def inputsOf (operands : List String) : List String := if operands.isEmpty then ["-"] else operands

/-- Why a file cannot be read. -/
def unread (file : String) (e : FileError) : String := quotedIfNeeded file ++ ": " ++ e.reason

/-- Why a file cannot be read, in other words. -/
def unopened (file : String) (e : FileError) : String :=
  "cannot open " ++ quoted file ++ " for reading: " ++ e.reason

/-- Do something with the text of each input in turn.  One that cannot be read gives a complaint,
and a failure in the end. -/
def forInputs (name : String) (operands : List String) (act : String → String → Run Unit)
    (complaint : String → FileError → String := unread) : Run Nat := do
  let mut status := 0
  for file in inputsOf operands do
    match ← readInput file with
    | .ok text => act file text
    | .error e =>
        blame name (complaint file e)
        status := 1
  return status

/-- The pieces of a text that end with a mark, without it; a last one that has no end counts
too. -/
def piecesOf (stop text : String) : List String :=
  let pieces := text.splitOn stop
  if pieces.getLast? = some "" then pieces.dropLast else pieces

/-- The pieces of a text that end with a mark, each with it. -/
def endedPieces (stop : Char) (text : String) : List String :=
  let mark := String.singleton stop
  let pieces := text.splitOn mark
  let ended := pieces.dropLast.map (· ++ mark)
  match pieces.getLast? with
  | some "" | none => ended
  | some rest => ended ++ [rest]

/-- The lines of a text, each with its end. -/
def endedLines (text : String) : List String := endedPieces '\n' text

/-- The lines of a text, without their ends. -/
def linesOf (text : String) : List String := piecesOf "\n" text

/-- Lines with their ends. -/
def joinLines (lines : List String) : String := String.join (lines.map (· ++ "\n"))

/-- A number with blanks in front up to a width. -/
def padLeft (width : Nat) (text : String) : String :=
  String.ofList (List.replicate (width - text.length) ' ') ++ text

/-- A text with blanks behind it up to a width. -/
def padRight (width : Nat) (text : String) : String :=
  text ++ String.ofList (List.replicate (width - text.length) ' ')

/-- What the letters behind a number multiply it by: a power of 1024, or of 1000 in front of a `B`;
a `b` stands for a block. -/
def multipleOf? (letters : List Char) : Option Nat :=
  match letters with
  | [] => some 1
  | ['b'] => some 512
  | letter :: rest =>
      let power := match letter with
        | 'k' => some 1
        | 'm' => some 2
        | _ => (['K', 'M', 'G', 'T', 'P', 'E', 'Z', 'Y'].findIdx? (· = letter)).map (· + 1)
      match rest with
      | [] | ['i', 'B'] => power.map (Nat.pow 1024)
      | ['B'] => power.map (Nat.pow 1000)
      | _ => none

/-- A whole number with letters for a multiple of it; letters alone have the number one in front. -/
def sizeOf? (text : String) : Option Nat :=
  let cs := text.toList.dropWhile fun c => c = ' ' || c = '\t'
  let cs := if cs.head? = some '+' then cs.drop 1 else cs
  let digits := cs.takeWhile Char.isDigit
  let letters := cs.drop digits.length
  if digits.isEmpty then (if letters.isEmpty then none else multipleOf? letters)
  else (multipleOf? letters).map (Nat.ofDigitChars 10 digits 0 * ·)

/-- A number with letters for a multiple of it, or what is wrong with it. -/
def sizeOrFault (what text : String) : Except String Nat :=
  match sizeOf? text with
  | none => .error ("invalid " ++ what ++ ": " ++ mentioned text)
  | some n =>
      if twoTo 64 ≤ n then
        .error ("invalid " ++ what ++ ": " ++ mentioned text
          ++ ": Value too large for defined data type")
      else .ok n

/-- A whole number that is at least `least` and at most `most`; a complaint about another one tells
why. -/
def numberOr (complaint : String) (least : Nat) (text : String) (most : Nat := twoTo 64 - 1) :
    Except String Nat :=
  let cs := text.toList.dropWhile fun c => c = ' ' || c = '\t'
  let digits := if cs.head? = some '+' then cs.drop 1 else cs
  let invalid (reason : String) : Except String Nat :=
    .error (complaint ++ ": " ++ mentioned text ++ reason)
  if digits.isEmpty || !digits.all Char.isDigit then invalid ""
  else
    let n := Nat.ofDigitChars 10 digits 0
    if twoTo 30 ≤ n ∧ most < n then invalid ": Value too large for defined data type"
    else if n < least ∨ most < n then invalid ": Numerical result out of range"
    else .ok n

/-- A whole number that is at least `least` and at most `most`; a number that is not says why. -/
def wholeNumber (what : String) (least : Nat) (text : String) (most : Nat := twoTo 64 - 1) :
    Except String Nat :=
  numberOr ("invalid " ++ what) least text most

/-! ### Paths -/

/-- The node that a path leads to. -/
def locatePath (path : String) (follow : Bool) : Run (Except FileError Nat) := do
  return (← tree).locate (← process).folder path follow

/-- Whether a path leads to a folder. -/
def isFolderAt (path : String) (follow : Bool) : Run Bool := do
  match ← locatePath path follow with
  | .ok number => return (← tree).isFolder number
  | .error _ => return false

/-- Whether a path leads to anything. -/
def isThere (path : String) (follow : Bool) : Run Bool := do
  return (← locatePath path follow).toOption.isSome

/-- Change the files in a way that may fail. -/
def change (f : FileTree → Nat → Except FileError FileTree) : Run (Except FileError Unit) := do
  match f (← tree) (← process).folder with
  | .ok t =>
      modifyTree fun _ => t
      return .ok ()
  | .error e => return .error e

/-- Complain, and give up on one operand. -/
def giveUp (name text : String) : Run Bool := do
  blame name text
  return false

/-- Do something for each operand, and give the status in the end. -/
def forOperands (g : Given) (act : String → Run Bool) : Run Nat := do
  let mut status := 0
  for operand in g.operands do
    if !(← act operand) then status := 1
  return status

/-- The names in a folder with their nodes, the oldest first. -/
def oldestFirst (t : FileTree) (folder : Nat) : List (String × Nat) := (t.entries folder).reverse

/-- Refuse to go through all files, which a path leads to. -/
def blameRoot (name path : String) : Run Unit := do
  blame name ("it is dangerous to operate recursively on " ++ quoted path
    ++ (if path = "/" then "" else " (same as " ++ quoted "/" ++ ")"))
  blame name "use --no-preserve-root to override this failsafe"

/-! ### Questions -/

/-- What has been read of the answers. -/
structure Answers where
  /-- What was read ahead of the questions. -/
  ahead : List Char := []
  /-- Whether there is no more. -/
  ended : Bool := false

/-- A run that may ask questions. -/
abbrev Asking := StateT Answers Run

namespace Asking

/-- The bytes that are read at once. -/
def block : Nat := 4096

/-- The next line, without its end; each step reads a block. -/
def line : (steps : Nat) → Asking (List Char)
  | 0 => return []
  | steps + 1 => do
      let a ← get
      let found := a.ahead.takeWhile (· ≠ '\n')
      if a.ended ∨ found.length < a.ahead.length then
        set { a with ahead := a.ahead.drop (found.length + 1) }
        return found
      match ← liftM (m := Run) (readBytes 0 block) with
      | .error _ => set { a with ended := true }
      | .ok bytes =>
          set { a with
            ahead := a.ahead ++ (Text.rawOfBytes bytes).toList
            ended := bytes.isEmpty }
      line steps

/-- Ask a question; an answer that begins with a y agrees. -/
def agrees (question : String) : Asking Bool := do
  liftM (m := Run) (complain question)
  let answer ← line rounds
  return answer.head? = some 'y' || answer.head? = some 'Y'

end Asking

/-- Do something that may ask, and give back what was read too much. -/
def asking {α : Type} (act : Asking α) : Run α := do
  let (result, answers) ← act.run {}
  giveBack 0 answers.ahead.length
  return result

end ToyLang.Tools
