import ToyLang.Command.Session
import ToyLang.Host.Start

/-!
# A run of the command line on a host

A host is a platform: its files, pipes and processes are those of a machine.  The command is the
process that runs when the machine is made, and its three streams are the first three pipes.  A
program that it starts runs when it is fed or waited for.

What a command line does there is a function of its arguments, of standard input and of the files
that it finds.

## Main definitions

* `Host.platform` — a host as a platform.
* `Surroundings`, `Outcome` — what a run finds, and what it shows.
* `run` — the run of a command line on a host.
-/

namespace ToyLang.Host

open Command Run

/-- What the command is told of an error. -/
def systemError (e : FileError) : SystemError := ⟨e.message, e = .noEntry⟩

/-- Carry an action of the command out. -/
def act {α : Type} (action : Run (Except FileError α)) : StateM Machine (Except SystemError α) :=
  fun m => match action.run m with
    | .ok found m' => (found.mapError systemError, m')
    | .error _ m' => (.error (systemError .invalid), m')

/-- Write a text to one of the first pipes. -/
def say (number : Nat) (text : String) : Run (Except FileError Unit) := do
  let m ← get
  if number < m.pipes.size then
    set { m with pipes := m.pipes.modify number fun p =>
      { p with bytes := p.bytes ++ text.toUTF8 } }
    return .ok ()
  else return .error .badStream

/-- A program that was started: the number of its process, what it is, its arguments, and how it has
ended if it has run. -/
structure Child where
  number : Nat
  kind : String
  arguments : List String
  ending : Option Ending := none

/-- Start a program. -/
def start (program : String) (arguments : List String) : Run (Except FileError Child) := do
  let number ← newProcess
  match ← Program.lookUp program Program.usualFolders with
  | .error e => return .error e
  | .ok path =>
      match ← Program.load path (program :: arguments) with
      | .error e => return .error e
      | .ok (kind, arguments) => return .ok { number, kind, arguments }

/-- Let a program run, which reads from an open file if one is given. -/
def Child.go (child : Child) (input : Option Nat) : Run Ending :=
  asProcess child.number do
    match input with
    | some index => setStream 0 index
    | none => pure ()
    perform (.program child.kind child.arguments)

/-- The bytes that a pipe holds before somebody reads from it. -/
def pipeRoom : Nat := 65536

/-- Whether all bytes of a text fit into the pipe with a number, given what has been read from
it. -/
def hasTaken (number : Nat) : Run Bool := do
  match (← get).pipes[number]? with
  | some pipe => return pipe.bytes.size ≤ pipeRoom + pipe.taken
  | none => return true

/-- Let a program run that reads a text. -/
def feed (child : Child) (text : String) : Run (Except FileError Child) := do
  let pipe ← addPipe text.toUTF8 false
  let input ← addOpenFile { target := .pipe pipe, readable := true }
  let ending ← child.go (some input)
  if ← hasTaken pipe then return .ok { child with ending := some ending }
  else return .error .brokenPipe

/-- Wait for a program, which runs now if it has not yet. -/
def await (child : Child) : Run (Except FileError Ending) := do
  match child.ending with
  | some ending => return .ok ending
  | none => return .ok (← child.go none)

/-- Make a folder with those above it. -/
def makeFolder (path : String) : Run (Except FileError String) := do
  modifyTree fun t => (t.addFolders FileTree.root (Path.names path)).2
  return .ok path

/-- Take away the name of a folder. -/
def removeFolder (path : String) : Run (Except FileError Unit) := do
  match (← Run.tree).placeOf FileTree.root path with
  | .ok (parent, name, some _) =>
      modifyTree fun t => t.unbind parent name
      return .ok ()
  | .ok (_, _, none) => return .error .noEntry
  | .error e => return .error e

/-- A host as a platform. -/
def platform (c : Settings) : Platform Machine Child where
  readFile path := act (withFile (Text.raw path) .reading readRest)
  readInput := act (readRest 0)
  print text := act (say 1 text)
  complain text := act (say 2 text)
  makeFolder := act (makeFolder c.temporaryFolder)
  removeFolder path := discard (act (removeFolder path))
  start program arguments := act (start (Text.raw program) (arguments.map Text.raw))
  feed child text := act (feed child text)
  await child := act (await child)

end ToyLang.Host

namespace ToyLang.Command

/-- What a run finds when it starts. -/
structure Surroundings where
  /-- The files in the folder that is worked in. -/
  files : List (String × ByteArray)
  /-- Standard input. -/
  input : ByteArray

/-- What a run of the command line shows. -/
structure Outcome where
  /-- The exit code. -/
  code : Nat
  output : String
  errors : String
  deriving DecidableEq, Repr

/-- A text without the marks that colour it on a terminal: an escape character, a bracket, numbers
between semicolons, and the letter `m`.  What may be the start of a mark is held back, its last
character first. -/
def withoutColours (held : List Char) : List Char → List Char
  | [] => held.reverse
  | c :: cs =>
      if c = '\x1b' then held.reverse ++ withoutColours [c] cs
      else match held with
        | [] => c :: withoutColours [] cs
        | [_] =>
            if c = '[' then withoutColours (c :: held) cs
            else held.reverse ++ c :: withoutColours [] cs
        | _ :: _ :: _ =>
            if c.isDigit || c = ';' then withoutColours (c :: held) cs
            else if c = 'm' then withoutColours [] cs
            else held.reverse ++ c :: withoutColours [] cs

/-- The text that bytes are shown as. -/
def shownText (bytes : ByteArray) : String := (String.fromUTF8? bytes).getD (Text.decode bytes)

/-- What has been shown on a host in the end.  The errors are not coloured. -/
def Outcome.ofMachine (code : Nat) (m : Machine) : Outcome where
  code := code
  output := shownText (Host.contents m 1)
  errors := String.ofList (withoutColours [] (shownText (Host.contents m 2)).toList)

/-- The run of a command line on a host. -/
def run (args : List String) (s : Surroundings) (c : Host.Settings := .recorded) : Outcome :=
  let (code, m) := ((Host.platform c).run args).run (Host.machine c s.files s.input)
  .ofMachine code m

end ToyLang.Command
