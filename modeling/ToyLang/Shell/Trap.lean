import ToyLang.Shell.State

/-!
# Traps

A shell does what it was told to do when a signal arrives, when it ends, and, in the extended
dialect, when a command begins or fails and when a function ends.

## Main definitions

* `runTrap`, `handleSignals`, `raiseInner` — traps.
* `endShell` — actions up to the end of a shell.
* `asPart` — actions of a shell that another one makes.
-/

namespace ToyLang.Shell

open Run

/-- The trap for the end of a shell. -/
def endTrap : Nat := 0

/-- The trap for commands that fail. -/
def failureTrap : Nat := 1000

/-- The trap for commands that begin. -/
def commandTrap : Nat := 1001

/-- The trap for functions and sourced scripts that end. -/
def returnTrap : Nat := 1002

/-- The option that makes functions and parts of the script keep a trap, if they may. -/
def keepingOption (signal : Nat) : Option Char :=
  if signal = failureTrap then some 'E'
  else if signal = commandTrap ∨ signal = returnTrap then some 'T'
  else none

/-- Whether functions and parts of the script keep a trap. -/
def keepsTrap (sh : ToyLang.Shell) (signal : Nat) : Bool :=
  (keepingOption signal).any sh.options.contains

/-- The traps that a part of the script keeps. -/
def keptTraps (sh : ToyLang.Shell) : List (Nat × String) :=
  sh.traps.filter fun t => t.2 = "" || keepsTrap sh t.1

/-! ### Running traps -/

/-- The name of what runs on a signal. -/
def trapTask (signal : Nat) : String :=
  if signal = endTrap then "exit trap"
  else if signal = failureTrap then "error trap"
  else if signal = commandTrap then "debug trap"
  else if signal = returnTrap then "return trap"
  else "trap"

/-- What the shell does while the action of a trap runs: the extended shell names it. -/
def trapCommandName (sh : ToyLang.Shell) (signal : Nat) : Option String :=
  if sh.dialect = .extended then some (trapTask signal) else none

/-- Run the action of a trap in a line, and go on as before. -/
def runTrap (perform : Perform) (signal : Nat) (action : String) (line : Nat) : Run Unit := do
  let before ← shell
  modifyShell fun sh =>
    { sh with
      trapStatus := some before.status
      command := trapCommandName sh signal
      running := signal :: sh.running }
  let restore : Run Unit := modifyShell fun sh =>
    { sh with
      trapStatus := before.trapStatus
      command := before.command
      running := before.running
      line := before.line }
  try
    discard (perform (.script action line false false))
    restore
    modifyShell fun sh =>
      { sh with status := before.status, pipeStatuses := before.pipeStatuses }
  catch e =>
    restore
    throw e

/-- The line in which the actions of traps begin. -/
def trapLine (sh : ToyLang.Shell) : Nat := if sh.dialect = .extended then 1 else sh.line

/-- Do what is to be done on the signals that have arrived. -/
def handleSignals (perform : Perform) : Run Unit := do
  for _ in [0:rounds] do
    match ← takeSignal with
    | none => return
    | some signal =>
        let sh ← shell
        match sh.traps.lookup signal with
        | some "" => pure ()
        | some action => runTrap perform signal action (trapLine sh)
        | none =>
            let isHeld := Signal.harmless.contains signal
              || (← process).ignored.contains signal && !Signal.uncaught.contains signal
            if !isHeld then throw (.killed signal)

/-- Do something on one of the signals that only the shell itself raises. -/
def raiseInner (perform : Perform) (signal line : Nat) : Run Unit := do
  let sh ← shell
  if sh.running.contains signal then return
  match sh.traps.lookup signal with
  | none | some "" => pure ()
  | some action => runTrap perform signal action line

/-- Actions that do not raise some inner signals unless an option says so.  A trap that they set
themselves stays. -/
def withoutTraps {α : Type} (signals : List Nat) (act : Run α) : Run α := do
  let sh ← shell
  let isHeld (t : Nat × String) : Bool := signals.contains t.1 && !keepsTrap sh t.1
  let held := sh.traps.filter isHeld
  if held.isEmpty then return ← act
  modifyShell fun sh => { sh with traps := sh.traps.filter fun t => !isHeld t }
  let restore : Run Unit := modifyShell fun sh =>
    { sh with traps := sh.traps ++ held.filter fun t => (sh.traps.lookup t.1).isNone }
  try
    let found ← act
    restore
    return found
  catch e =>
    restore
    throw e

/-! ### The end of a shell -/

/-- Do the last things of a shell that ends with a status, and give the status in the end. -/
def lastThings (perform : Perform) (status : Nat) : Run Nat := do
  runJobs perform
  let sh ← shell
  match sh.traps.lookup endTrap with
  | none | some "" => return status
  | some action =>
      modifyShell fun sh =>
        { sh with
          status := status
          trapStatus := some status
          command := trapCommandName sh endTrap
          running := endTrap :: sh.running
          traps := sh.traps.filter fun t => t.1 ≠ endTrap }
      try
        discard (perform (.script action (trapLine sh) false false))
        return status
      catch e =>
        match e with
        | .exit n | .failed n => return n
        | .killed signal => throw (.killed signal)
        | .returned _ | .broken _ | .continued _ => return status

/-- The signals on which the extended shell does its last things before they end it. -/
def orderlySignals : List Nat := [1, 2, 15]

/-- Actions up to the end of the shell that does them. -/
def endShell (perform : Perform) (act : Run Nat) : Run Nat := do
  let status ←
    try act
    catch e =>
      match e with
      | .exit n | .failed n | .returned n => pure (n % 256)
      | .broken _ | .continued _ => pure 0
      | .killed signal =>
          if (← shell).dialect = .extended ∧ orderlySignals.contains signal then
            discard (lastThings perform (128 + signal))
          throw (.killed signal)
  lastThings perform status

/-- Actions of a shell that another one makes to run a part of its script. -/
def asPart (perform : Perform) (act : Run Nat) : Run Ending :=
  asChild do
    modifyShell fun sh => { sh with isPart := true, traps := keptTraps sh }
    endShell perform act

end ToyLang.Shell
