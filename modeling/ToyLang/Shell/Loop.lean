import ToyLang.Shell.Simple
import ToyLang.Text.Width

/-!
# Loops and choices

## Main definitions

* `inLoop`, `withLoop` — what loops have in common.
* `runLoop`, `runEach`, `runCount`, `runSelect` — the kinds of loops.
* `runCases` — a choice.
-/

namespace ToyLang.Shell

open Run

/-- What is left of leaving loops when one loop has been left. -/
inductive LoopStep where
  | next
  | stop
  deriving DecidableEq

/-- Run the body of a loop, or its test, and say whether the loop goes on. -/
def inLoop (act : Run Nat) (status : Nat) : Run (Nat × LoopStep) := do
  try return (← act, .next)
  catch e =>
    match e with
    | .broken n => if n ≤ 1 then return (status, .stop) else throw (.broken (n - 1))
    | .continued n => if n ≤ 1 then return (status, .next) else throw (.continued (n - 1))
    | e => throw e

/-- Do something inside of one more loop. -/
def withLoop (act : Run Nat) : Run Nat := do
  modifyShell fun sh => { sh with loops := sh.loops + 1 }
  let leave : Run Unit := modifyShell fun sh => { sh with loops := sh.loops - 1 }
  try
    let status ← act
    leave
    return status
  catch e =>
    leave
    throw e

/-- Run a body while a test succeeds, or while it fails. -/
def runLoop (perform : Perform) (tested whileFails : Bool) (test body : Command) : Run Nat :=
  withLoop do
    let mut status := 0
    for _ in [0:rounds] do
      -- A test that is left early counts as if the body had been.
      let mut goesOn := true
      let mut skipped := false
      try
        let s ← perform (.command test true false)
        goesOn := (s = 0) != whileFails
      catch e =>
        match e with
        | .broken n => if n ≤ 1 then goesOn := false else throw (.broken (n - 1))
        | .continued n => if n ≤ 1 then skipped := true else throw (.continued (n - 1))
        | e => throw e
      if !goesOn then return status
      if !skipped then
        let (s, step) ← inLoop (perform (.command body tested false)) 0
        status := s
        if step = .stop then return status
    return status

/-! ### Loops over words -/

/-- Whether the extended shell takes the name of a loop; otherwise it complains. -/
def acceptsName (name : String) : Run Bool := do
  if isVariableName name then return true
  warn ("\x60" ++ name ++ "': not a valid identifier")
  return false

/-- Give the variable of a loop a text.  One that stands for another variable then stands for the
one that the text names.  The answer says whether that worked. -/
def assignRound (name text : String) : Run Bool := do
  try
    match ← itself? name with
    | some v =>
        if v.isReference then storeVariable name { v with value := .text text }
        else assign name text
    | none => assign name text
    return true
  catch e =>
    match e, (← shell).dialect with
    | .failed _, .extended => return false
    | e, _ => throw e

/-- Run a body for each of some words. -/
def runEach (perform : Perform) (tested : Bool) (line : Nat) (name written : String)
    (texts : List String) (body : Command) : Run Nat :=
  withLoop do
    let head := "for " ++ name ++ " in " ++ written
    let mut status := 0
    for text in texts do
      traceHead perform head
      beginCommand perform line head
      if !(← assignRound name text) then return 1
      let (s, step) ← inLoop (perform (.command body tested false)) 0
      status := s
      if step = .stop then return status
    return status

/-- Run a body while a test is not zero, with steps in between. -/
def runCount (perform : Perform) (tested : Bool) (line : Nat) (written : String)
    (start test step : Word) (body : Command) : Run Nat :=
  withLoop do
    let texts := written.splitOn "; "
    -- What is not there counts as one.
    let value (n : Nat) (w : Word) : Run (Option Int) := do
      beginCommand perform line ("((" ++ texts.getD n "" ++ "))")
      commandSum perform (if w.isEmpty then [.text "1" false] else w)
    if (← value 0 start).isNone then return 1
    let mut status := 0
    for _ in [0:rounds] do
      match ← value 1 test with
      | none => return 1
      | some 0 => return status
      | some _ => pure ()
      let (s, onward) ← inLoop (perform (.command body tested false)) 0
      status := s
      if onward = .stop then return status
      if (← value 2 step).isNone then return 1
    return status

/-! ### Letting the user choose -/

/-- The columns that a text takes. -/
def columns (text : String) : Nat := (Text.widen text).toList.foldl (fun n c => n + Text.width c) 0

/-- The columns of a terminal. -/
def usualColumns : Nat := 80

/-- The columns between the places to which tabs lead. -/
def tabColumns : Nat := 8

/-- Blanks from one column to another, as many of them tabs as can be; each step makes one. -/
def gapBetween : (steps : Nat) → (start stop : Nat) → List Char
  | 0, _, _ => []
  | steps + 1, start, stop =>
      if stop ≤ start then []
      else if start / tabColumns < stop / tabColumns then
        '\t' :: gapBetween steps (start + tabColumns - start % tabColumns) stop
      else ' ' :: gapBetween steps (start + 1) stop

/-- A number on the right of a field. -/
def numbered (width n : Nat) : String :=
  let digits := toString n
  String.ofList (List.replicate (width - digits.length) ' ') ++ digits

/-- The words of a choice with their numbers, in as many columns as fit. -/
def menu (texts : List String) (across : Nat) : String :=
  let count := texts.length
  let longest := texts.foldl (fun n t => max n (columns t)) 0
  let digits := (toString count).length
  let cell := longest + digits + 4
  let fitting := max 1 (across / cell)
  let rows := (count + fitting - 1) / fitting
  let perRow := (count + rows - 1) / rows
  let rows := if rows = 1 then perRow else rows
  let firstDigits := (toString rows).length
  String.join ((List.range rows).map fun row =>
    let cells := (List.range ((count - row + rows - 1) / rows)).map fun k =>
      let i := row + k * rows
      let isLast := count ≤ i + rows
      let width := if k = 0 then firstDigits else digits
      let text := texts.getD i ""
      let size := width + 2 + columns text
      numbered width (i + 1) ++ ") " ++ text
        ++ (if isLast then "" else
          String.ofList (gapBetween cell (k * cell + size) ((k + 1) * cell)))
    String.join cells ++ "\n")

/-- Ask which of some words is meant, until a line is read that is not empty.  There is no answer
at the end of the input, and an empty one if the line does not name a word. -/
def askChoice (texts : List String) (prompt : String) : Run (Option String) := do
  let mut shows := true
  for _ in [0:rounds] do
    if shows then
      let across := ((← lookup? "COLUMNS").bind String.toNat?).getD usualColumns
      complain (menu texts across)
    complain prompt
    if (← readCommand []) ≠ 0 then
      put "\n"
      return none
    let reply := (← lookup? "REPLY").getD ""
    if reply ≠ "" then
      match wholeNumber? true reply with
      | some n => return some (if 0 < n then texts.getD (n.toNat - 1) "" else "")
      | none => return some ""
    shows := true
  return none

/-- Run a body for each word that the user chooses. -/
def runSelect (perform : Perform) (tested : Bool) (line : Nat) (name written : String)
    (texts : List String) (body : Command) : Run Nat := do
  if texts.isEmpty then return 0
  withLoop do
    let head := "select " ++ name ++ " in " ++ written
    traceHead perform head
    beginCommand perform line head
    let mut status := 0
    for _ in [0:rounds] do
      modifyShell fun sh => { sh with line := line }
      match ← askChoice texts ((← lookup? "PS3").getD "#? ") with
      | none => return 1
      | some text =>
          if !(← assignRound name text) then return 1
          let (s, step) ← inLoop (perform (.command body tested false)) 0
          status := s
          if step = .stop then return status
    return status

/-! ### Choices -/

/-- Run the bodies of a choice for a subject. -/
def runCases (perform : Perform) (tested last : Bool) (subject : String) :
    List Case → (run : Bool) → Run Nat
  | [], _ => return 0
  | .mk patterns _ body ending :: rest, run => do
      let mut found := run
      for w in patterns do
        if !found then found ← matchesWord perform false w subject
      if !found then return ← runCases perform tested last subject rest false
      let isEmpty := match body with
        | .nothing => true
        | _ => false
      let status ← if isEmpty then pure 0
        else perform (.command body tested (last && ending = .stop))
      match ending with
      | .stop => return status
      | .runNext =>
          if rest.isEmpty then return status else runCases perform tested last subject rest true
      | .tryNext =>
          let more ← runCases perform tested last subject rest false
          return if more = 0 then status else more

end ToyLang.Shell
