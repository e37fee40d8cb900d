import ToyLang.Files.Tree
import ToyLang.Numeral
import ToyLang.Process.Ending
import ToyLang.Shell.Basic
import ToyLang.Text.Octets

/-!
# Processes

What processes share, and what each has for itself.  Only one process runs at a time: a process
that starts another one waits for it, and a job in the background waits until someone has
time for it.

Processes send each other signals.

## Main definitions

* `OpenFile`, `Pipe` — what a process reads from and writes to.
* `Process`, `Shell` — what a process and a shell have for themselves.
* `Machine` — the state of everything.
* `Leave`, `Run` — actions of a process, and how one is left before its end.
-/

namespace ToyLang

/-! ### Files and machines -/

open Shell (Dialect Word Command)

/-- What an open file refers to. -/
inductive Target where
  | node (number : Nat)
  | pipe (number : Nat)
  deriving DecidableEq

/-- A file that is open, with the place in it.  Several streams may share it. -/
structure OpenFile where
  target : Target
  position : Nat := 0
  readable : Bool := false
  writable : Bool := false
  append : Bool := false

/-- What was written to a pipe, and how much of it has been taken. -/
structure Pipe where
  bytes : ByteArray := ByteArray.empty
  taken : Nat := 0
  /-- Whether the writer is ended by a signal once the pipe holds too much. -/
  bounded : Bool := false

/-- When a process is ended, by which signal, and who has asked for it. -/
structure Deadline where
  /-- When it comes, in nanoseconds since the start of 1970. -/
  time : Int
  signal : Nat
  owner : Nat
  /-- When a process that has got over the signal is killed. -/
  last : Option Int := none

/-- What a process has for itself. -/
structure Process where
  number : Nat
  /-- The processes that wait for this one, the nearest first. -/
  ancestors : List Nat
  /-- The folder that is worked in. -/
  folder : Nat
  /-- The open files by the numbers of the streams. -/
  streams : List (Nat × Nat)
  /-- The bits of a mode that new files do not get. -/
  mask : Nat
  ignored : List Nat := []
  environment : List (String × String)
  /-- Why some output got lost, if it did. -/
  lost : Option FileError := none
  deadline : Option Deadline := none
  /-- How much the process yields to others. -/
  niceness : Int := 0

/-- The value of a variable. -/
inductive Value where
  | unset
  | text (s : String)
  /-- A list of texts by their indices, which are numbers unless `keyed` says otherwise. -/
  | list (keyed : Bool) (entries : List (String × String))
  deriving Inhabited

/-- A variable of a shell. -/
structure Variable where
  value : Value
  exported : Bool := false
  fixed : Bool := false
  /-- Whether what is assigned is evaluated as an expression. -/
  isNumber : Bool := false
  /-- Whether what is assigned is put into upper case, or into lower case. -/
  upper : Option Bool := none
  /-- Whether the variable stands for the one that it names. -/
  isReference : Bool := false
  /-- Whether the variable was marked to be traced. -/
  isTraced : Bool := false
  /-- Whether the variable is a list that was declared without a value. -/
  isBare : Bool := false
  deriving Inhabited

/-- A function of a shell: the line in which it begins, the script that defines it, and what it
does. -/
structure Function where
  line : Nat
  source : String
  body : Command
  /-- Whether shells that are started get to see the function. -/
  exported : Bool := false

/-- A function or a sourced script that runs. -/
structure Caller where
  name : String
  /-- The line from which it was called. -/
  line : Nat
  /-- The script that holds what runs. -/
  source : String
  isFunction : Bool

/-- What a shell has for itself. -/
structure Shell where
  dialect : Dialect
  name : String
  arguments : List String
  vars : List (String × Variable) := []
  functions : List (String × Function) := []
  /-- The documents of the script, by their numbers. -/
  documents : Array Word := #[]
  aliases : List (String × String) := []
  /-- The status of the last command. -/
  status : Nat := 0
  /-- The status of the last command whose output was put in place of it. -/
  outputStatus : Nat := 0
  /-- The letters of the options that are set. -/
  options : List Char := []
  /-- The options that have no letter. -/
  longOptions : List String := []
  /-- What is done on a signal; number zero is the end of the shell. -/
  traps : List (Nat × String) := []
  line : Nat := 0
  /-- How many lines of the script have been read. -/
  readTo : Nat := 0
  /-- The line in which the function that runs begins. -/
  functionLine : Nat := 0
  lastJob : Option Nat := none
  /-- For each function that runs, the variables to restore behind it. -/
  frames : List (List (String × Option Variable)) := []
  /-- The number of loops around the command that runs. -/
  loops : Nat := 0
  /-- The number of functions and sourced scripts around the command that runs. -/
  calls : Nat := 0
  /-- Whether this shell was made by another one to run a part of its script. -/
  isPart : Bool := false
  /-- Where the options of the arguments are being read: the place within a cluster. -/
  optionPlace : Nat := 0
  /-- The folders put aside. -/
  folders : List String := []
  /-- The statuses of the commands of the last pipeline. -/
  pipeStatuses : List Nat := []
  /-- The functions and sourced scripts that run, the innermost first. -/
  callers : List Caller := []
  /-- The script that the shell was started with, if there is one. -/
  source : Option String := none
  /-- How the command that runs is written. -/
  written : String := ""
  /-- The last word of the last command. -/
  lastWord : String := ""
  /-- The builtin commands that are passed over. -/
  disabled : List String := []
  /-- When the seconds of the shell began to count, in nanoseconds since the start of 1970. -/
  started : Int := 0
  /-- Where random numbers start. -/
  seed : Nat := 1
  /-- The number of the argument whose options are read next. -/
  optionNext : Nat := 1
  /-- The path of the folder that is worked in, as it was reached. -/
  path : String := "/"
  /-- The number of the process that runs the whole script. -/
  number : Nat := 0
  /-- The number of substitutions around the command that runs. -/
  nesting : Nat := 0
  /-- The number of shells that were made one by the other for the command that runs. -/
  level : Nat := 0
  /-- The status before the trap that runs. -/
  trapStatus : Option Nat := none
  /-- The signals whose traps run. -/
  running : List Nat := []
  /-- The builtin command that runs. -/
  command : Option String := none
  /-- Whether the script is an argument. -/
  isGiven : Bool := false
  /-- The streams of the files that commands within the present one write to or read from. -/
  channels : List Nat := []
  /-- The programs that were looked up by their names: their paths, and how often they ran. -/
  known : List (String × String × Nat) := []

/-- A job in the background. -/
structure Job where
  number : Nat
  /-- The number under which the shell shows it. -/
  slot : Nat
  process : Process
  shell : Shell
  command : Command
  /-- How it ended, if it did. -/
  ending : Option Ending := none
  /-- Whether the shell shows the job. -/
  isListed : Bool := true

/-- The state of everything. -/
structure Machine where
  tree : FileTree
  opened : Array OpenFile
  pipes : Array Pipe
  lastProcess : Nat
  /-- Signals that have been sent and not been received, with their receivers. -/
  sent : List (Nat × Nat) := []
  jobs : List Job := []
  process : Process
  shell : Shell

/-- Why actions are left before their end. -/
inductive Leave where
  | exit (status : Nat)
  /-- A command of a shell cannot go on. -/
  | failed (status : Nat)
  | killed (signal : Nat)
  | returned (status : Nat)
  | broken (levels : Nat)
  | continued (levels : Nat)
  deriving DecidableEq, Repr

/-- Actions of a process. -/
abbrev Run := EStateM Leave Machine

namespace Run

/-- The process that runs. -/
def process : Run Process := return (← get).process

/-- The shell that runs. -/
def shell : Run Shell := return (← get).shell

/-- The files. -/
def tree : Run FileTree := return (← get).tree

/-- Change the process that runs. -/
def modifyProcess (f : Process → Process) : Run Unit :=
  modify fun m => { m with process := f m.process }

/-- Change the shell that runs. -/
def modifyShell (f : Shell → Shell) : Run Unit := modify fun m => { m with shell := f m.shell }

/-- Change the files. -/
def modifyTree (f : FileTree → FileTree) : Run Unit := modify fun m => { m with tree := f m.tree }

/-- The rounds that a loop may take at most. -/
def rounds : Nat := 1000000

/-! ### Processes -/

/-- How a process ends that is left. -/
def Leave.ending : Leave → Ending
  | .exit status => .exited (status % 256)
  | .killed signal => .signalled signal
  | .failed status | .returned status => .exited (status % 256)
  | .broken _ | .continued _ => .exited 0

/-- Count a new process, and give its number. -/
def newProcess : Run Nat := do
  let number := (← get).lastProcess + 1
  modify fun m => { m with lastProcess := number }
  return number

/-- Run actions as the process with a number, which leaves behind what processes share. -/
def asProcess (number : Nat) (act : Run Nat) : Run Ending := do
  let before ← get
  set { before with
    process :=
      { before.process with
        number := number
        ancestors := before.process.number :: before.process.ancestors }
    jobs := [] }
  let ending ←
    try pure (Ending.exited ((← act) % 256))
    catch e => pure (Leave.ending e)
  modify fun after =>
    { after with process := before.process, shell := before.shell, jobs := before.jobs }
  return ending

/-- Run actions as a process of its own. -/
def asChild (act : Run Nat) : Run Ending := do
  let number ← newProcess
  asProcess number act

/-- Take the first signal that was sent to this process. -/
def takeSignal : Run (Option Nat) := do
  let m ← get
  if m.sent.isEmpty then return none
  match m.sent.find? fun (receiver, _) => receiver = m.process.number with
  | some entry =>
      set { m with sent := m.sent.erase entry }
      return some entry.2
  | none => return none

/-- Send a signal to a process; the answer says whether there is such a process.  One that the
process itself does not handle ends it at once. -/
def send (receiver signal : Nat) : Run Bool := do
  let m ← get
  let p := m.process
  if receiver = p.number then
    if signal = 0 ∨ p.ignored.contains signal then return true
    if (m.shell.traps.lookup signal).isSome ∧ !Signal.uncaught.contains signal then
      set { m with sent := m.sent ++ [(receiver, signal)] }
      return true
    if Signal.harmless.contains signal then return true
    throw (.killed signal)
  else if p.ancestors.contains receiver then
    if signal ≠ 0 then set { m with sent := m.sent ++ [(receiver, signal)] }
    return true
  else
    match m.jobs.find? fun (j : Job) => j.number = receiver && j.ending.isNone with
    | some _ =>
        if signal ≠ 0 ∧ !Signal.harmless.contains signal then
          let stop (j : Job) : Job :=
            if j.number = receiver then { j with ending := some (.signalled signal) } else j
          set { m with jobs := m.jobs.map stop }
        return true
    | none => return false

/-- The nanoseconds of a millisecond. -/
def nanosecondsPerMillisecond : Nat := tenTo 6

/-- Let milliseconds pass.  When a deadline comes, the process is ended, and so are those that wait
for it, up to the one that has set the deadline. -/
def pass (milliseconds : Nat) : Run Unit := do
  let m ← get
  let now := m.tree.now + nanosecondsPerMillisecond * milliseconds
  let advanced (time : Int) : FileTree := { m.tree with now := time }
  match m.process.deadline with
  | some d =>
      let waiting := m.process.ancestors.takeWhile (· ≠ d.owner)
      let strike (time : Int) (signal : Nat) : Run Unit := do
        set { m with
          tree := advanced (max m.tree.now time)
          sent := m.sent ++ waiting.map fun n => (n, signal) }
        throw (.killed signal)
      let late (time : Int) : Bool := decide (time ≤ now)
      let isIgnored := m.process.ignored.contains d.signal
      if late d.time && decide (m.tree.now < d.time) && !isIgnored then strike d.time d.signal
      else match d.last with
        | some time =>
            if late time then strike time Signal.kill else set { m with tree := advanced now }
        | none => set { m with tree := advanced now }
  | none => set { m with tree := advanced now }

/-! ### Streams -/

/-- The open file behind a stream, with its index. -/
def openFile? (stream : Nat) : Run (Option (Nat × OpenFile)) := do
  let m ← get
  match m.process.streams.lookup stream with
  | some index => return (m.opened[index]?).map fun f => (index, f)
  | none => return none

/-- Add an open file, and give its index. -/
def addOpenFile (f : OpenFile) : Run Nat := do
  let m ← get
  set { m with opened := m.opened.push f }
  return m.opened.size

/-- Let a stream stand for an open file. -/
def setStream (stream index : Nat) : Run Unit :=
  modifyProcess fun p =>
    { p with streams := (stream, index) :: p.streams.filter fun entry => entry.1 ≠ stream }

/-- Close a stream. -/
def closeStream (stream : Nat) : Run Unit :=
  modifyProcess fun p =>
    { p with streams := p.streams.filter fun entry => entry.1 ≠ stream }

/-- Make a pipe that holds some bytes. -/
def addPipe (bytes : ByteArray) (bounded : Bool) : Run Nat := do
  let m ← get
  set { m with pipes := m.pipes.push { bytes := bytes, bounded := bounded } }
  return m.pipes.size

/-- The bytes that a pipe between processes takes before its writer counts as cut off. -/
def pipeLimit : Nat := 4194304

/-- Write bytes into some others at a place, which is filled up to if need be. -/
def overwrite (bytes : ByteArray) (position : Nat) (added : ByteArray) : ByteArray :=
  let before := bytes.extract 0 position
  let gap := ByteArray.mk (Array.replicate (position - before.size) 0)
  before ++ gap ++ added ++ bytes.extract (position + added.size) bytes.size

/-- Write bytes to a stream. -/
def writeBytes (stream : Nat) (bytes : ByteArray) : Run (Except FileError Unit) := do
  match ← openFile? stream with
  | none => return .error .badStream
  | some (index, f) =>
      if !f.writable then return .error .badStream
      match f.target with
      | .pipe number =>
          let m ← get
          let full := match m.pipes[number]? with
            | some pipe => pipe.bounded && decide (pipeLimit < pipe.bytes.size)
            | none => false
          if full then throw (.killed Signal.brokenPipe)
          modify fun m =>
            { m with pipes := m.pipes.modify number fun p => { p with bytes := p.bytes ++ bytes } }
          return .ok ()
      | .node number =>
          match (← tree).content number with
          | .device .full => return if bytes.isEmpty then .ok () else .error .noSpace
          | .device _ => return .ok ()
          | .file old =>
              let position := if f.append then old.size else f.position
              modifyTree fun t => t.setContent number (.file (overwrite old position bytes))
              modify fun m =>
                { m with opened := m.opened.modify index fun f =>
                    { f with position := position + bytes.size } }
              return .ok ()
          | _ => return .error .isDirectory

/-- Write a raw text to a stream. -/
def write (stream : Nat) (text : String) : Run (Except FileError Unit) :=
  writeBytes stream (Text.bytesOfRaw text)

/-- Write a raw text to standard output; a failure is kept in mind. -/
def put (text : String) : Run Unit := do
  match ← write 1 text with
  | .ok () => pure ()
  | .error e => modifyProcess fun p => { p with lost := some e }

/-- Write a raw text to standard error; a failure goes unnoticed. -/
def complain (text : String) : Run Unit := discard (write 2 text)

/-- Read bytes from a stream, `limit` of them at most.  No bytes mean that there are no more. -/
def readBytes (stream limit : Nat) : Run (Except FileError ByteArray) := do
  match ← openFile? stream with
  | none => return .error .badStream
  | some (index, f) =>
      if !f.readable then return .error .badStream
      match f.target with
      | .pipe number =>
          let m ← get
          match m.pipes[number]? with
          | none => return .ok ByteArray.empty
          | some pipe =>
              let found := pipe.bytes.extract pipe.taken (pipe.taken + limit)
              set { m with pipes := m.pipes.modify number fun p =>
                { p with taken := p.taken + found.size } }
              return .ok found
      | .node number =>
          match (← tree).content number with
          | .file bytes =>
              let found := bytes.extract f.position (f.position + limit)
              modify fun m =>
                { m with opened := m.opened.modify index fun f =>
                    { f with position := f.position + found.size } }
              return .ok found
          | .device .zero | .device .full =>
              return .ok ⟨Array.replicate (min limit pipeLimit) 0⟩
          | .folder _ _ => return .error .isDirectory
          | _ => return .ok ByteArray.empty

/-- The number of bytes that are left in a stream; of those that do not end, as many as a pipe
takes. -/
def remaining (stream : Nat) : Run Nat := do
  match ← openFile? stream with
  | none => return 0
  | some (_, f) =>
      match f.target with
      | .pipe number =>
          match (← get).pipes[number]? with
          | some pipe => return pipe.bytes.size - pipe.taken
          | none => return 0
      | .node number =>
          match (← tree).content number with
          | .file bytes => return bytes.size - f.position
          | _ => return pipeLimit

/-- Read all that is left in a stream. -/
def readRest (stream : Nat) : Run (Except FileError ByteArray) := do
  let limit ← remaining stream
  readBytes stream limit

/-- Read all that is left in a stream, as a raw text. -/
def readAll (stream : Nat) : Run (Except FileError String) := do
  return (← readRest stream).map Text.rawOfBytes

/-- Whether what was read beyond need can be given back to a stream. -/
def canSeek (stream : Nat) : Run Bool := do
  match ← openFile? stream with
  | some (_, { target := .node _, .. }) => return true
  | _ => return false

/-- Give back to a stream the last bytes that were read. -/
def giveBack (stream count : Nat) : Run Unit := do
  match ← openFile? stream with
  | some (index, { target := .node _, .. }) =>
      modify fun m => { m with opened := m.opened.modify index fun f =>
        { f with position := f.position - count } }
  | _ => pure ()

/-! ### Opening files -/

/-- What a file is opened for. -/
inductive Opening where
  | reading
  | writing
  | appending
  | both
  /-- For writing, but only if it is not there yet. -/
  | creating
  deriving DecidableEq

/-- The mode of a new file, before the mask. -/
def newFileMode : Nat := 0o666

/-- What is left of a mode under the mask of the process. -/
def masked (mode : Nat) : Run Nat := do
  let mask := (← process).mask
  return mode - (mode &&& mask)

/-- An open file for a target. -/
def Opening.file (how : Opening) (target : Target) : OpenFile :=
  { target := target
    readable := how = .reading || how = .both
    writable := how ≠ .reading
    append := how = .appending }

/-- Open a node. -/
def openNode (number : Nat) (how : Opening) : Run (Except FileError Nat) := do
  match (← tree).content number with
  | .file _ =>
      if how = .creating then return .error .alreadyThere
      if how = .writing then modifyTree fun t => t.setContent number (.file ByteArray.empty)
      return .ok (← addOpenFile (how.file (.node number)))
  | .folder _ _ =>
      if how = .reading then return .ok (← addOpenFile (how.file (.node number)))
      else return .error .isDirectory
  | .device .absent | .device (.numbered _ _ _) => return .error .noDevice
  | .device (.pipe n) => return .ok (← addOpenFile (how.file (.pipe n)))
  | _ => return .ok (← addOpenFile (how.file (.node number)))

/-- Open the file at a path. -/
def openPath (path : String) (how : Opening) : Run (Except FileError Nat) := do
  let p ← process
  match (← tree).find p.folder path with
  | .error e => return .error e
  | .ok (.vacant folder name slash) =>
      if how = .reading then return .error .noEntry
      if slash then return .error .isDirectory
      let (number, t) := (← tree).add folder name (.file ByteArray.empty) (← masked newFileMode)
      modifyTree fun _ => t
      return .ok (← addOpenFile (how.file (.node number)))
  | .ok (.node number _) =>
      match (← tree).content number with
      | .device (.stream k) =>
          match ← openFile? k with
          | none => return .error .noEntry
          | some (_, f) =>
              match f.target with
              | .pipe n => return .ok (← addOpenFile (how.file (.pipe n)))
              | .node n => openNode n how
      | _ => openNode number how

/-- A stream for the use of the process itself. -/
def ownStream : Nat := 1000

/-- Do something with the file at a path, open as a stream. -/
def withFile {α : Type} (path : String) (how : Opening) (act : Nat → Run (Except FileError α)) :
    Run (Except FileError α) := do
  match ← openPath path how with
  | .error e => return .error e
  | .ok index =>
      setStream ownStream index
      let found ← act ownStream
      closeStream ownStream
      return found

/-- Read the whole file at a path, as a raw text. -/
def readPath (path : String) : Run (Except FileError String) := withFile path .reading readAll

/-- Write a raw text to the file at a path. -/
def writePath (path text : String) (how : Opening := .writing) : Run (Except FileError Unit) :=
  withFile path how fun stream => write stream text

end Run

end ToyLang
