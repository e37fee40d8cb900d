import ToyLang.Shell.Builtin.Options
import ToyLang.Shell.Quote
import ToyLang.Shell.Trap

/-!
# Commands on signals and processes

## Main definitions

* `killCommand` — sending signals.
* `trapCommand` — what is done on a signal.
* `waitCommand`, `jobsCommand` — jobs in the background.
-/

namespace ToyLang.Shell

open Run

/-- The name of a signal as a shell lists it; those without a name have their number. -/
def listedName (dialect : Dialect) (n : Nat) : String :=
  let lowest := 34
  match Signal.name? n with
  | some name => if name = "STKFLT" ∧ dialect = .plain then "16" else name
  | none =>
      if n = 0 then "EXIT"
      else if n < lowest then toString n
      else if n = lowest then "RTMIN"
      else if n ≤ lowest + 15 then "RTMIN+" ++ toString (n - lowest)
      else if n < Signal.highest then "RTMAX-" ++ toString (Signal.highest - n)
      else "RTMAX"

/-- The signals that only the shell itself raises, in the extended dialect. -/
def innerSignals : List (String × Nat) :=
  [("ERR", failureTrap), ("DEBUG", commandTrap), ("RETURN", returnTrap)]

/-- The signal that is meant by a number or a name.  Only the extended shell takes names that
begin with SIG. -/
def signalOf? (dialect : Dialect) (lowest : Nat) (text : String) : Option Nat :=
  match text.toNat? with
  | some n => if n ≤ Signal.highest then some n else none
  | none =>
      let upper := text.toUpper
      let bare := if dialect = .extended ∧ upper.startsWith "SIG" then
          String.ofList (upper.toList.drop 3)
        else upper
      let inner := if dialect = .extended then innerSignals.lookup bare else none
      inner <|> ((List.range (Signal.highest + 1)).find? fun n =>
        decide (lowest ≤ n) && listedName .extended n = bare)

/-! ### Sending -/

/-- A number that is an argument, or a complaint. -/
def numberArgument (name text : String) : Run (Except Nat Nat) := do
  match text.toNat? with
  | some n => return .ok n
  | none =>
      if (← shell).dialect = .extended then
        return .error (← refuse name (text ++ ": numeric argument required"))
      return .error (← refuse name ("Illegal number: " ++ text))

/-- Show the names of signals. -/
def listSignals (arguments : List String) : Run Nat := do
  let dialect := (← shell).dialect
  if arguments.isEmpty then
    if dialect = .plain then
      put "0\n"
      for n in List.range Signal.highest do
        put (listedName dialect (n + 1) ++ "\n")
    else
      let known := (List.range Signal.highest).filter fun n => n + 1 < 32 || 34 ≤ n + 1
      for (n, i) in known.zipIdx do
        let number := toString (n + 1)
        let name := listedName dialect (n + 1)
        let last := i % 5 = 4 || i + 1 = known.length
        put ((if number.length < 2 then " " else "") ++ number ++ ") SIG" ++ name
          ++ (if last then "\n" else if name.length < 5 then "\t " else "\t"))
    return 0
  let mut status := 0
  for text in arguments do
    match text.toNat? with
    | some n =>
        let n := if 128 < n then n - 128 else n
        if 0 < n ∧ n ≤ Signal.highest then put (listedName dialect n ++ "\n")
        else if dialect = .extended then
          status ← refuse "kill" (text ++ ": invalid signal specification")
        else status ← refuse "kill" ("invalid signal number or exit status: " ++ text)
    | none =>
        if dialect = .extended then
          match signalOf? dialect 0 text with
          | some n => put (toString n ++ "\n")
          | none => status ← refuse "kill" (text ++ ": invalid signal specification")
        else status ← refuse "kill" ("Illegal number: " ++ text)
    if dialect = .plain then return status
  return status

/-- The jobs that a shell shows, in the order of their numbers. -/
def listedJobs : Run (List Job) := do
  return ((← get).jobs.filter Job.isListed).mergeSort fun a b => decide (a.slot ≤ b.slot)

/-- The job that is meant by what follows a percent sign. -/
def jobNamed? (cs : List Char) : Run (Option Job) := do
  let jobs ← listedJobs
  let running := jobs.filter fun (j : Job) => j.ending.isNone
  let latest := (if running.isEmpty then jobs else running).reverse
  match cs with
  | [] | ['%'] | ['+'] => return latest.head?
  | ['-'] => return (latest.drop 1).head? <|> latest.head?
  | '?' :: text =>
      let part := String.ofList text
      return jobs.find? fun (j : Job) => 1 < ((printed 0 j.command).splitOn part).length
  | cs =>
      match (String.ofList cs).toNat? with
      | some n => return jobs.find? fun (j : Job) => j.slot = n
      | none =>
          return jobs.find? fun (j : Job) => (printed 0 j.command).startsWith (String.ofList cs)

/-- The process that is meant by a job or a number. -/
def processOf? (text : String) : Run (Option Nat) := do
  match text.toList with
  | '%' :: cs => return (← jobNamed? cs).map Job.number
  | _ => return text.toNat?

/-- Send a signal to processes. -/
def sendAll (signal : Nat) (targets : List String) : Run Nat := do
  let extended := (← shell).dialect = .extended
  let mut status := 0
  for target in targets do
    match ← processOf? target with
    | some n =>
        if !(← send n signal) then
          if extended then
            status ← refuse "kill" ("(" ++ toString n ++ ") - No such process")
          else
            warn "No such process\n"
            status := 1
    | none =>
        if extended then
          status ← refuse "kill" (target ++ if target.startsWith "%" then ": no such job"
            else ": arguments must be process or job IDs")
        else if target.startsWith "%" then
          status ← refuse "kill" ("No such job: " ++ target)
        else if target.startsWith "-" ∧ ((String.ofList (target.toList.drop 1)).toNat?).isSome then
          warn "No such process\n"
          status := 1
        else status ← refuse "kill" ("Illegal number: " ++ target)
  return status

/-- Send a signal, or show the names of signals. -/
def killCommand (arguments : List String) : Run Nat := do
  let dialect := (← shell).dialect
  let usage : Run Nat := do
    if dialect = .extended then
      complain ("kill: usage: kill [-s sigspec | -n signum | -sigspec] pid | jobspec ... "
        ++ "or kill -l [sigspec]\n")
      return failure
    else refuse "kill" ("Usage: kill [-s sigspec | -signum | -sigspec] [pid | job]... or\n"
      ++ "kill -l [exitstatus]")
  let unknown (text : String) : Run Nat :=
    if dialect = .extended then refuse "kill" (text ++ ": invalid signal specification")
    else refuse "kill" ("invalid signal number or name: " ++ text)
  let sendTo (signal : Nat) (targets : List String) : Run Nat :=
    if targets.isEmpty then usage else sendAll signal targets
  match arguments with
  | [] => usage
  | "-l" :: rest | "-L" :: rest => listSignals rest
  | "--" :: rest => sendTo Signal.usual rest
  | ["-s"] | ["-n"] => usage
  | "-s" :: text :: rest | "-n" :: text :: rest =>
      match signalOf? dialect 0 text with
      | some n => sendTo n (if rest.head? = some "--" then rest.drop 1 else rest)
      | none => unknown text
  | first :: rest =>
      match first.toList with
      | '-' :: c :: cs =>
          let least := if dialect = .extended then 0 else 1
          match signalOf? dialect least (String.ofList (c :: cs)) with
          | some n => sendTo n (if rest.head? = some "--" then rest.drop 1 else rest)
          | none =>
              if dialect = .extended then unknown (String.ofList (c :: cs))
              else if c = 's' then
                match signalOf? dialect 0 (String.ofList cs) with
                | some n => sendTo n rest
                | none => unknown (String.ofList cs)
              else refuse "kill" ("Illegal option -" ++ String.singleton c)
      | _ => sendTo Signal.usual (first :: rest)

/-! ### Traps -/

/-- Let something be done on a signal, or no longer. -/
def setTrap (signal : Nat) (action : Option String) : Run Unit := do
  modifyShell fun sh =>
    let others := sh.traps.filter fun t => t.1 ≠ signal
    { sh with traps := match action with
      | some text => (signal, text) :: others
      | none => others }
  modifyProcess fun p =>
    let others := p.ignored.filter (· ≠ signal)
    { p with ignored := if action = some "" ∧ signal ≠ endTrap then signal :: others else others }

/-- The name of a signal as a shell shows it among its traps. -/
def trapName (dialect : Dialect) (signal : Nat) : String :=
  match innerSignals.find? fun entry => entry.2 = signal with
  | some (name, _) => name
  | none =>
      (if dialect = .extended ∧ signal ≠ endTrap then "SIG" else "") ++ listedName dialect signal

/-- Show the traps for some signals. -/
def showTraps (shown : Nat → Bool) : Run Nat := do
  let sh ← shell
  for (signal, action) in sh.traps.mergeSort fun a b => decide (a.1 ≤ b.1) do
    if shown signal then
      let text :=
        if sh.dialect = .extended then "'" ++ "'\\''".intercalate (action.splitOn "'") ++ "'"
        else showQuoted action
      put ("trap -- " ++ text ++ " " ++ trapName sh.dialect signal ++ "\n")
  return 0

/-- Set or show what is done on signals. -/
def trapCommand (arguments : List String) : Run Nat := do
  let dialect := (← shell).dialect
  let arguments := if arguments.head? = some "--" then arguments.drop 1 else arguments
  match arguments with
  | [] => showTraps fun _ => true
  | ["-l"] => listSignals []
  | "-p" :: names =>
      if dialect = .plain then return ← refuse "trap" "Illegal option -p"
      let signals := names.filterMap (signalOf? dialect 0)
      showTraps fun n => names.isEmpty || signals.contains n
  | first :: rest =>
      let bare := rest.isEmpty
        || (dialect = .extended && first.toNat?.isSome)
      let action := if bare || first = "-" then none else some first
      let mut status := 0
      for name in (if bare then first :: rest else rest) do
        match signalOf? dialect 0 name with
        | some n => setTrap n action
        | none =>
            if dialect = .extended then
              status ← refuse "trap" (name ++ ": invalid signal specification")
            else
              complain ("trap: " ++ name ++ ": bad trap\n")
              return 1
      return status

/-! ### Jobs -/

/-- Wait for a job, and forget it; the standard shell still shows it. -/
def waitFor (perform : Perform) (number : Nat) : Run (Option Ending) := do
  let find : Run (Option Job) :=
    return (← get).jobs.find? fun (j : Job) => j.number = number
  match ← find with
  | none => return none
  | some j =>
      if j.ending.isNone then discard (perform (.job number))
      let ending := (← find).bind Job.ending
      if (← shell).dialect = .extended then
        modify fun m => { m with jobs := m.jobs.filter fun j => j.number ≠ number }
      return ending

/-- The endings of jobs that the extended shell says nothing about. -/
def quietSignals : List Nat := [2, Signal.brokenPipe, 15]

/-- A text with blanks behind it, up to a width. -/
def stateColumn (width : Nat) (text : String) : String :=
  text ++ String.ofList (List.replicate (width - text.length) ' ')

/-- Wait for one job after another, up to the first one that has ended. -/
def waitNext (perform : Perform) (numbers : List Nat) : Run (Option (Nat × Ending)) := do
  for n in numbers do
    match ← waitFor perform n with
    | some ending => return some (n, ending)
    | none => pure ()
  return none

/-- Wait for jobs. -/
def waitCommand (perform : Perform) (arguments : List String) : Run Nat := do
  let dialect := (← shell).dialect
  let extended := dialect = .extended
  let (named, arguments) := match arguments with
    | "-n" :: "-p" :: name :: rest | "-p" :: name :: "-n" :: rest => (some name, "-n" :: rest)
    | "-p" :: name :: rest => (some name, rest)
    | all => (none, all)
  let refused := arguments.find? fun a => a.startsWith "-" && a ≠ "-n" && a ≠ "--" && a ≠ "-f"
  if extended then
    if let some argument := refused then
      return ← refuseOption "wait" (argument.toList.getD 1 '-')
  let next := extended && arguments.contains "-n"
  let arguments := arguments.filter fun a => a ≠ "-n" && a ≠ "--" && a ≠ "-f"
  if next then
    let numbers ← if arguments.isEmpty then do pure ((← get).jobs.map Job.number)
      else arguments.filterMapM processOf?
    match ← waitNext perform numbers with
    | some (n, ending) =>
        match named with
        | some name => assign name (toString n)
        | none => pure ()
        return ending.status
    | none => return 127
  if arguments.isEmpty then
    for j in (← get).jobs do
      discard (waitFor perform j.number)
    return 0
  let mut status := 0
  for text in arguments do
    match ← processOf? text with
    | none =>
        if text.startsWith "%" then
          if extended then discard (refuse "wait" (text ++ ": no such job"))
          else discard (refuse "wait" ("No such job: " ++ text))
          status := 127
        else if extended then
          status ← refuse "wait" ("\x60" ++ text ++ "': not a pid or valid job spec")
        else status ← refuse "wait" ("Illegal number: " ++ text)
    | some n =>
        let written := (((← get).jobs.find? fun (j : Job) => j.number = n).map Job.command).map
          (printed 0)
        match ← waitFor perform n with
        | some ending =>
            match ending with
            | .signalled signal =>
                if !extended then noticeEnding ending
                else if !quietSignals.contains signal then
                  warn (toString n ++ " " ++ stateColumn 24 (Signal.description signal)
                    ++ written.getD "")
            | .exited _ => pure ()
            status := ending.status
        | none =>
            if extended then
              discard (refuse "wait" ("pid " ++ toString n ++ " is not a child of this shell"))
            status := 127
  return status

/-- How a shell shows the state of a job. -/
def stateText (dialect : Dialect) (j : Job) : String :=
  match j.ending with
  | none => "Running"
  | some (.exited 0) => "Done"
  | some (.exited n) =>
      if dialect = .plain then "Done(" ++ toString n ++ ")" else "Exit " ++ toString n
  | some (.signalled signal) => Signal.description signal

/-- Show some jobs, and forget those that have ended.  The latest one is marked by a plus, the one
before it by a minus. -/
def showJobs (long : Bool) (shown : List Job) : Run Unit := do
  let dialect := (← shell).dialect
  let jobs ← listedJobs
  let running := jobs.filter fun (j : Job) => j.ending.isNone
  let marked := ((if running.isEmpty then jobs else running).reverse.map Job.slot)
  for j in if dialect = .plain then shown.reverse else shown do
    let sign := if marked.head? = some j.slot then "+"
      else if (marked.drop 1).head? = some j.slot then "-"
      else " "
    let number := if long then toString j.number ++ " " else ""
    let state := stateText dialect j
    if dialect = .plain then
      put ("[" ++ toString j.slot ++ "] " ++ sign ++ " " ++ number ++ stateColumn 27 state ++ "\n")
    else
      put ("[" ++ toString j.slot ++ "]" ++ sign ++ (if long then " " else "  ") ++ number
        ++ stateColumn 24 state ++ printed 0 j.command
        ++ (if j.ending.isNone then " &" else "") ++ "\n")
    if j.ending.isSome then
      modify fun m => { m with jobs := m.jobs.filter fun k => k.number ≠ j.number }

/-- Show the jobs. -/
def jobsCommand (arguments : List String) : Run Nat := do
  let extended := (← shell).dialect = .extended
  match takeLetters (if extended then "lnprs".toList else "lp".toList) arguments with
  | .error c => refuseOption "jobs" c
  | .ok (letters, names) =>
      let has (c : Char) : Bool := letters.contains c
      let jobs ← listedJobs
      let act (jobs : List Job) : Run Unit := do
        if has 'p' then
          for j in jobs do
            put (toString j.number ++ "\n")
        else showJobs (has 'l') jobs
      if names.isEmpty then
        act (jobs.filter fun (j : Job) =>
          !has 's' && !(has 'r' && j.ending.isSome))
        return 0
      let mut status := 0
      for name in names do
        let cs := name.toList
        match ← jobNamed? (if cs.head? = some '%' then cs.drop 1 else cs) with
        | some j => act [j]
        | none =>
            status ← refuse "jobs"
              (if extended then name ++ ": no such job" else "No such job: " ++ name)
      return status

/-- Refuse to take a job into the foreground or into the background, since no shell that runs a
script has control over its jobs. -/
def foregroundCommand (name : String) (arguments : List String) : Run Nat := do
  if (← shell).dialect = .extended then return ← refuse name "no job control"
  let spec := arguments.head?
  match ← jobNamed? ((spec.getD "").toList.drop 1) with
  | some _ =>
      refuse name ("job " ++ spec.getD "(null)" ++ " not created under job control")
  | none =>
      match spec with
      | none => refuse name "No current job"
      | some spec => refuse name ("No such job: " ++ spec)

/-- Forget jobs, which go on by themselves. -/
def disownCommand (arguments : List String) : Run Nat := do
  match takeLetters ['a', 'h', 'r'] arguments with
  | .error c => refuseOption "disown" c
  | .ok (letters, names) =>
      let hide (test : Job → Bool) : Run Unit :=
        let hidden (j : Job) : Job := if test j then { j with isListed := false } else j
        modify fun m => { m with jobs := m.jobs.map hidden }
      if letters.contains 'a' ∨ letters.contains 'r' then
        hide fun _ => true
        return 0
      let mut status := 0
      for name in if names.isEmpty then [""] else names do
        let cs := name.toList
        let found ← if cs.head? = some '%' ∨ cs.isEmpty then jobNamed? (cs.drop 1)
          else do pure ((← listedJobs).find? fun (j : Job) => toString j.number = name)
        match found with
        | some j => if !letters.contains 'h' then hide fun k => k.number = j.number
        | none =>
            status ← refuse "disown" ((if name = "" then "current" else name) ++ ": no such job")
      return status

end ToyLang.Shell
