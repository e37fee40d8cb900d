/-!
# How processes end

A process gives an exit status, or is ended by a signal.  Signals have numbers and names.

## Main definitions

* `Signal.name?`, `Signal.number?` — between numbers and names of signals.
* `Ending` — how a process ends, with its wording.
-/

namespace ToyLang

/-! ### Signals -/

namespace Signal

/-- The names of the signals from number 1 on. -/
def names : List String :=
  ["HUP", "INT", "QUIT", "ILL", "TRAP", "ABRT", "BUS", "FPE", "KILL", "USR1", "SEGV", "USR2",
    "PIPE", "ALRM", "TERM", "STKFLT", "CHLD", "CONT", "STOP", "TSTP", "TTIN", "TTOU", "URG",
    "XCPU", "XFSZ", "VTALRM", "PROF", "WINCH", "IO", "PWR", "SYS"]

/-- What a shell says about a process that a signal has ended, from number 1 on. -/
def descriptions : List String :=
  ["Hangup", "Interrupt", "Quit", "Illegal instruction", "Trace/breakpoint trap", "Aborted",
    "Bus error", "Floating point exception", "Killed", "User defined signal 1",
    "Segmentation fault", "User defined signal 2", "Broken pipe", "Alarm clock", "Terminated",
    "Stack fault", "Child exited", "Continued", "Stopped (signal)", "Stopped",
    "Stopped (tty input)", "Stopped (tty output)", "Urgent I/O condition",
    "CPU time limit exceeded", "File size limit exceeded", "Virtual timer expired",
    "Profiling timer expired", "Window changed", "I/O possible", "Power failure", "Bad system call"]

/-- The name of a signal. -/
def name? : Nat → Option String
  | 0 => none
  | n + 1 => names[n]?

/-- The description of a signal. -/
def description : Nat → String
  | 0 => "Unknown signal 0"
  | n + 1 => (descriptions[n]?).getD
      (if 34 ≤ n + 1 then "Real-time signal " ++ toString (n + 1 - 34)
       else "Unknown signal " ++ toString (n + 1))

/-- The highest number of a signal. -/
def highest : Nat := 64

/-- The number of the signal with a name, which may begin with SIG and be in lower case. -/
def ofName? (text : String) : Option Nat :=
  let upper := text.toUpper
  let bare := if upper.startsWith "SIG" then String.ofList (upper.toList.drop 3) else upper
  (names.findIdx? fun name => name = bare).map (· + 1)

/-- The number of a signal that is written as a number or as a name. -/
def number? (text : String) : Option Nat :=
  match text.toNat? with
  | some n => if n ≤ highest then some n else none
  | none => if text.toUpper = "EXIT" then some 0 else ofName? text

/-- The signal that a process gets if none is named. -/
def usual : Nat := 15

/-- The signal that ends any process. -/
def kill : Nat := 9

/-- The signal for a broken pipe. -/
def brokenPipe : Nat := 13

/-- The signals that do not end a process by themselves; zero only asks whether it exists. -/
def harmless : List Nat := [0, 17, 18, 23, 28]

/-- The signals that no process can catch. -/
def uncaught : List Nat := [9, 19]

end Signal

/-- How a process ends. -/
inductive Ending where
  | exited (status : Nat)
  | signalled (signal : Nat)
  deriving DecidableEq, Repr

namespace Ending

/-- The wording of how a process ended. -/
def text : Ending → String
  | exited status => "exit status: " ++ toString status
  | signalled signal =>
      "signal: " ++ toString signal ++
        match Signal.name? signal with
        | some name => " (SIG" ++ name ++ ")"
        | none => ""

/-- The status that a shell gives for the end of a process. -/
def status : Ending → Nat
  | exited status => status
  | signalled signal => 128 + signal

end Ending

end ToyLang
