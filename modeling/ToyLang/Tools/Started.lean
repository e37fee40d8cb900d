import ToyLang.Process.Program
import ToyLang.Shell.State
import ToyLang.Tools.Basic

/-!
# Other programs

What programs that start other programs do alike, and programs that send signals to processes or go
on until they get one.

## Main definitions

* `startWords`, `startOr` — the program that a command names.
* `runCommand`, `outputOfCommand` — a command line.
* `operandSignal?`, `signalName` — signals as programs name them.
* `kill` — signals to processes.
* `yes` — output without end.
-/

namespace ToyLang.Tools

open Run
open Shell (Perform)

/-! ### Commands -/

/-- The folders in which a program looks others up if the environment names none. -/
def fewFolders : String := "/bin:/usr/bin"

/-- The program that runs scripts which name no other one. -/
def scriptProgram : String := "/bin/sh"

/-- Become the program that a command names. -/
def startWords (perform : Perform) (words : List String) : Run (Except FileError Nat) := do
  let name := words.headD ""
  let folders := ((← process).environment.lookup "PATH").getD fewFolders
  match ← Program.lookUp name folders with
  | .error e => return .error e
  | .ok path =>
      match ← Program.load path words with
      | .ok (kind, arguments) => return .ok (← perform (.program kind arguments))
      | .error .badFormat =>
          match ← Program.load scriptProgram (scriptProgram :: path :: words.drop 1) with
          | .ok (kind, arguments) => return .ok (← perform (.program kind arguments))
          | .error e => return .error e
      | .error e => return .error e

/-- The status for a program that cannot be started. -/
def startStatus (e : FileError) : Nat := if e = .noEntry then 127 else 126

/-- Become the program that a command names, or complain. -/
def startOr (perform : Perform) (name : String) (what : String) (words : List String)
    (shown : String → String := mentioned) : Run Nat := do
  match ← startWords perform words with
  | .ok status => return status
  | .error e =>
      blame name (what ++ shown (words.headD "") ++ ": " ++ e.reason)
      return startStatus e

/-- The status of programs that cannot do their own part. -/
def ownFailure : Nat := 125

/-- Run a command line with some input and output, or with those of the process. -/
def runCommand (perform : Perform) (text : String) (input output : Option Nat)
    (shell : String := scriptProgram) : Run Ending :=
  asChild do
    let useFor (stream : Nat) (pipe? : Option Nat) : Run Unit := do
      match pipe? with
      | some pipe =>
          setStream stream
            (← addOpenFile { target := .pipe pipe, readable := stream = 0, writable := stream ≠ 0 })
      | none => pure ()
    useFor 0 input
    useFor 1 output
    match ← Program.load scriptProgram [shell, "-c", text] with
    | .ok (kind, arguments) => perform (.program kind arguments)
    | .error e => return startStatus e

/-- The output of a command line. -/
def outputOfCommand (perform : Perform) (text : String) : Run String := do
  let pipe ← addPipe ByteArray.empty true
  discard (runCommand perform text none (some pipe) "sh")
  return Text.rawOfBytes (((← get).pipes[pipe]?.map Pipe.bytes).getD ByteArray.empty)

/-! ### Signals -/

/-- The numbers of the signals of real time, the lowest and the highest. -/
def realTime : Nat × Nat := (34, Signal.highest)

/-- The name that programs have for a signal. -/
def signalName? (n : Nat) : Option String :=
  let (low, high) := realTime
  if n = 0 then some "EXIT"
  else if n = 29 then some "POLL"
  else if low ≤ n ∧ n ≤ high then
    let middle := low + (high - low) / 2
    some (if n = low then "RTMIN"
      else if n ≤ middle then "RTMIN+" ++ toString (n - low)
      else if n < high then "RTMAX-" ++ toString (high - n)
      else "RTMAX")
  else Signal.name? n

/-- A signal as programs show it. -/
def signalName (n : Nat) : String := (signalName? n).getD (toString n)

/-- The signal that an operand of a program names by its number, which may be that of a status, or
by its name. -/
def operandSignal? (text : String) : Option Nat :=
  if (text.toList.head?).any Char.isDigit then
    if text.toList.all Char.isDigit then
      let n := Nat.ofDigitChars 10 text.toList 0
      let n := if 255 ≤ n then n % 256 else n % 128
      (signalName? n).map fun _ => n
    else none
  else
    let upper := text.toUpper
    let named (name : String) : Option Nat :=
      (Signal.names.findIdx? (· = name)).map (· + 1)
        <|> (List.range (Signal.highest + 1)).find? fun n => signalName? n = some name
    named upper <|>
      (if upper.startsWith "SIG" then named (String.ofList (upper.toList.drop 3)) else none)

/-! ### Sending signals -/

/-- The names of the signals, from number 1 on. -/
def sentNames : List String := (List.range Signal.names.length).map fun n => signalName (n + 1)

/-- The signal that a text names for `kill`. -/
def sentSignal? (text : String) : Option Nat :=
  if text ≠ "" ∧ text.toList.all Char.isDigit then text.toNat?
  else
    let upper := text.toUpper
    let bare := if upper.startsWith "SIG" then String.ofList (upper.toList.drop 3) else upper
    ((sentNames.findIdx? (· = bare)).map (· + 1)) <|> (if bare = "IO" then some 29 else none)

/-- How `kill` is used. -/
def killUsage : String :=
  "\nUsage:\n kill [options] <pid> [...]\n\nOptions:\n"
    ++ " <pid> [...]            send signal to every <pid> listed\n"
    ++ " -<signal>, -s, --signal <signal>\n"
    ++ "                        specify the <signal> to be sent\n"
    ++ " -q, --queue <value>    integer value to be sent with the signal\n"
    ++ " -l, --list=[<signal>]  list all signal names, or convert one to a name\n"
    ++ " -L, --table            list all signal names in a nice table\n\n"
    ++ " -h, --help     display this help and exit\n"
    ++ " -V, --version  output version information and exit\n\n"
    ++ "For more details see kill(1).\n"

/-- List signals, or one of them by its name or its number. -/
def listSent (name : String) (which? : Option String) : Run Nat := do
  match which? with
  | none =>
      let (first, rest) := sentNames.splitAt 16
      put (" ".intercalate first ++ "\n" ++ " ".intercalate rest ++ "\n")
      return 0
  | some text =>
      let shown? := match text.toNat? with
        | some n => if n = 0 then none else sentNames[n - 1]?
        | none => (sentSignal? text).map toString
      match shown? with
      | some shown =>
          put (shown ++ "\n")
          return 0
      | none =>
          blame name ("unknown signal name " ++ text)
          return 0

/-- Show the signals with their numbers, seven to a line. -/
def tableSent : Run Nat := do
  let cells := sentNames.zipIdx.map fun (signal, n) =>
    padLeft 2 (toString (n + 1)) ++ " " ++ if n % 7 = 6 then signal else padRight 8 signal
  let row (n : Nat) : String := String.join ((cells.drop (7 * n)).take 7)
  put (joinLines ((List.range ((cells.length + 6) / 7)).map row))
  return 0

/-- Send a signal to some processes. -/
def sendAll (name : String) (signal : Nat) (targets : List String) : Run Nat := do
  if targets.isEmpty then
    complain killUsage
    return 1
  let mut status := 0
  for target in targets do
    match target.toInt? with
    | none =>
        blame name ("failed to parse argument: '" ++ target ++ "'")
        status := 1
    | some n =>
        if !(← send n.toNat signal) then
          blame name ("(" ++ toString n ++ "): No such process")
          status := 1
  return status

/-- Send signals. -/
def kill : Tool := fun name arguments => do
  let named (text : String) (targets : List String) : Run Nat := do
    match sentSignal? text with
    | some signal => sendAll name signal targets
    | none =>
        if targets.isEmpty then return ← sendAll name 0 []
        for target in targets do
          blame name ("(" ++ target ++ "): Invalid argument")
        return 1
  let dropMark (targets : List String) : List String :=
    if targets.head? = some "--" then targets.drop 1 else targets
  match arguments with
  | [] => sendAll name 0 []
  | "--" :: targets => sendAll name Signal.usual targets
  | "-l" :: rest | "--list" :: rest => listSent name rest.head?
  | "-L" :: _ | "--table" :: _ => tableSent
  | "-s" :: text :: targets | "--signal" :: text :: targets => named text (dropMark targets)
  | first :: targets =>
      match first.toList with
      | '-' :: 's' :: c :: cs => named (String.ofList (c :: cs)) (dropMark targets)
      | '-' :: c :: cs =>
          match sentSignal? (String.ofList (c :: cs)) with
          | some signal => sendAll name signal (dropMark targets)
          | none =>
              let long := "--list="
              if first.startsWith long then
                return ← listSent name (some (String.ofList (first.toList.drop long.length)))
              blame name ("invalid argument " ++ String.singleton c)
              complain killUsage
              return 1
      | _ => sendAll name Signal.usual arguments

/-! ### Output without end -/

/-- Show a line again and again, until nobody reads it. -/
def yes : Tool := fun name arguments =>
  withOptions name {} arguments fun g => do
    let line := (if g.operands.isEmpty then "y" else " ".intercalate g.operands) ++ "\n"
    let block := String.join (List.replicate (8192 / line.length + 1) line)
    for _ in [0:1024] do
      put block
      if (← process).lost.isSome then return 1
    throw (.killed Signal.brokenPipe)

end ToyLang.Tools
