import ToyLang.Shell.Simple

/-!
# Commands that run together

Each command of a pipeline runs in a shell of its own, one behind the other, and so does a job.

## Main definitions

* `runPipeline` — commands joined by pipes.
* `runJob` — a job in the background.
* `runCoprocess` — a job with pipes to and from it.
* `reportTimes` — the times that a pipeline has taken.
-/

namespace ToyLang.Shell

open Run

/-! ### Pipelines -/

/-- Whether a command runs in the very shell that a pipeline makes for it, and not one deeper: a
simple command that is neither a function nor a script that is given. -/
def isShallow (sh : ToyLang.Shell) : Command → Bool
  | .simple _ _ _ words _ =>
      (words.head?.bind plainText?).all fun name =>
        name ≠ "eval" && (sh.functions.lookup name).isNone
  | _ => false

/-- Let a stream stand for a pipe. -/
def setPipe (stream number : Nat) : Run Unit := do
  let file : OpenFile := { target := .pipe number, readable := stream = 0, writable := stream ≠ 0 }
  setStream stream (← addOpenFile file)

/-- Whether the last command of a pipeline runs in this shell. -/
def keepsLast : Run Bool := do
  return (← shell).dialect = .extended && (← shell).longOptions.contains "lastpipe"

/-- Run the last command of a pipeline in this shell. -/
def runHere (perform : Perform) (tested : Bool) (input : Option Nat) (c : Command) : Run Nat := do
  let before := (← process).streams.lookup 0
  match input with
  | some number => setPipe 0 number
  | none => pure ()
  let restore : Run Unit := do
    match before with
    | some index => setStream 0 index
    | none => closeStream 0
  try
    let status ← perform (.command c tested false)
    restore
    return status
  catch e =>
    restore
    throw e

/-- Run commands with pipes between them, and give how each of them ended. -/
def runStages (perform : Perform) (tested : Bool) : (input : Option Nat) → List Command →
    Run (List Ending)
  | _, [] => return []
  | input, c :: rest => do
      if rest.isEmpty ∧ (← keepsLast) then
        return [.exited (← runHere perform tested input c)]
      let pipe ← if rest.isEmpty then pure none
        else do pure (some (← addPipe ByteArray.empty true))
      let ending ← asPart perform do
        match input with
        | some number => setPipe 0 number
        | none => pure ()
        match pipe with
        | some number => setPipe 1 number
        | none => pure ()
        if !isShallow (← shell) c then modifyShell fun sh => { sh with level := sh.level + 1 }
        perform (.command c tested true)
      return ending :: (← runStages perform tested pipe rest)

/-- Look up the programs of a pipeline, as far as their names stand there. -/
def lookAhead (stages : List Command) : Run Unit := do
  for c in stages do
    match c with
    | .simple _ _ _ (w :: _) _ =>
        match plainText? w with
        | some name =>
            match ← resolve false name with
            | .program path => remember name path 0
            | _ => pure ()
        | none => pure ()
    | _ => pure ()

/-- Run a pipeline. -/
def runPipeline (perform : Perform) (tested : Bool) (stages : List Command) : Run Nat := do
  if (← shell).dialect = .plain then lookAhead stages
  let endings ← runStages perform tested none stages
  for ending in endings do
    noticeEnding ending
  let statuses := endings.map Ending.status
  modifyShell fun sh => { sh with pipeStatuses := statuses }
  let last := statuses.getLast?.getD 0
  if (← shell).longOptions.contains "pipefail" then
    return ((statuses.filter (· ≠ 0)).getLast?).getD 0
  return last

/-! ### Jobs -/

/-- Run a job. -/
def runJob (perform : Perform) (number : Nat) : Run Nat := do
  match (← get).jobs.find? fun (j : Job) => j.number = number with
  | none => return 127
  | some j =>
      let before ← get
      let lastProcess := before.lastProcess
      let ending ← asPart perform do
        modify fun m =>
          { m with
            lastProcess := lastProcess
            process := j.process
            shell := { j.shell with isPart := true, traps := keptTraps j.shell } }
        perform (.command j.command false true)
      modify fun m =>
        { m with jobs := m.jobs.map fun k =>
            if k.number = number then { k with ending := some ending } else k }
      return ending.status

/-- The streams by which a shell reads from a coprocess and writes to it. -/
def coprocessStreams : Nat × Nat := (63, 60)

/-- Start a coprocess. -/
def runCoprocess (name : String) (body : Command) : Run Unit := do
  let (reading, writing) := coprocessStreams
  let there ← addPipe ByteArray.empty false
  let back ← addPipe ByteArray.empty false
  let input ← addOpenFile { target := .pipe there, readable := true }
  let output ← addOpenFile { target := .pipe back, writable := true }
  let number ← startJob body true [(0, some input), (1, some output)]
  setStream reading (← addOpenFile { target := .pipe back, readable := true })
  setStream writing (← addOpenFile { target := .pipe there, writable := true })
  storeVariable name
    { value := .list false (entriesOfTexts [toString reading, toString writing]) }
  storeVariable (name ++ "_PID") { value := .text (toString number) }

/-! ### Times -/

/-- A number of milliseconds in seconds, with some places. -/
def secondsText (places milliseconds : Nat) : String :=
  let places := min places 3
  let seconds := toString (milliseconds / 1000)
  if places = 0 then seconds
  else
    let digits := (toString (1000 + milliseconds % 1000)).toList.drop 1
    seconds ++ "." ++ String.ofList (digits.take places)

/-- A number of milliseconds as a format of times shows it. -/
def timeText (places : Nat) (long : Bool) (milliseconds : Nat) : String :=
  if long then
    toString (milliseconds / 60000) ++ "m" ++ secondsText places (milliseconds % 60000) ++ "s"
  else secondsText places milliseconds

/-- The text of a format of times, given the time that has passed; each step takes at least one
character.  No other time is ever taken. -/
def formatTimes (milliseconds : Nat) : (steps : Nat) → List Char → List Char
  | 0, _ => []
  | _, [] => []
  | _ + 1, '%' :: [] => ['%']
  | steps + 1, '%' :: '%' :: cs => '%' :: formatTimes milliseconds steps cs
  | steps + 1, '%' :: cs =>
      let digits := cs.takeWhile Char.isDigit
      let rest := cs.drop digits.length
      let long := rest.head? = some 'l'
      let rest := if long then rest.drop 1 else rest
      let places := ((String.ofList digits).toNat?).getD 3
      match rest with
      | 'R' :: rest =>
          (timeText places long milliseconds).toList ++ formatTimes milliseconds steps rest
      | 'U' :: rest | 'S' :: rest =>
          (timeText places long 0).toList ++ formatTimes milliseconds steps rest
      | 'P' :: rest => "0.00".toList ++ formatTimes milliseconds steps rest
      | _ => '%' :: formatTimes milliseconds steps cs
  | steps + 1, c :: cs => c :: formatTimes milliseconds steps cs

/-- Show the times that something has taken which began at some time. -/
def reportTimes (brief : Bool) (start : Int) : Run Unit := do
  let passed := (((← tree).now - start) / (nanosecondsPerMillisecond : Int)).toNat
  let usual := (← lookup? "TIMEFORMAT").getD "\nreal\t%3lR\nuser\t%3lU\nsys\t%3lS"
  let format := if brief then "real %2R\nuser %2U\nsys %2S" else usual
  if format = "" then return
  complain (String.ofList (formatTimes passed format.length format.toList) ++ "\n")

end ToyLang.Shell
