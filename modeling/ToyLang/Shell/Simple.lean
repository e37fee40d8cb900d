import ToyLang.Shell.Assignment
import ToyLang.Shell.Builtin.Control
import ToyLang.Shell.Quote
import ToyLang.Shell.State

/-!
# Simple commands

A simple command assigns to variables, or runs a function, a builtin command or a program.  A shell
hands variables on to the programs that it starts, and the extended shell functions too.

## Main definitions

* `environment` — what programs get to see.
* `functionEntry`, `functionIn?` — a function as an entry of an environment.
* `expandWords` — the words of a command.
* `runSimple` — a simple command.
* `beginCommand`, `settle` — what comes before a command, and what its status leads to.
* `underName`, `keepingChannels` — actions after which something is as before.
-/

namespace ToyLang.Shell

open Run

/-! ### The environment of programs -/

/-- The place among all variables at which the standard shell keeps one. -/
def keptAt (name : String) : Nat :=
  match name.toList with
  | [] => 0
  | c :: cs => (cs.foldl (fun n c => n + c.toNat) (17 * c.toNat)) % 39

/-- What stands before and behind the name of a function in an environment. -/
def functionMarks : String × String := ("BASH_FUNC_", "%%")

/-- The entry of a function in an environment. -/
def functionEntry (name : String) (f : Function) : String × String :=
  let lines := (printed indentStep f.body).splitOn "\n"
  let body := match f.body with
    | .grouped body => (printed indentStep body).splitOn "\n"
    | _ => lines
  let flat := body.map fun line => " " ++ String.ofList (line.toList.dropWhile (· = ' '))
  (functionMarks.1 ++ name ++ functionMarks.2, "() \x7b " ++ "\n".intercalate flat ++ "\n\x7d")

/-- The name and the script of the function that an entry of an environment defines. -/
def functionIn? (entry : String × String) : Option (String × String) :=
  let (before, behind) := functionMarks
  if entry.1.startsWith before ∧ entry.1.endsWith behind ∧ entry.2.startsWith "() \x7b" then
    let name := (entry.1.toList.drop before.length).dropLast.dropLast
    some (String.ofList name, String.ofList name ++ " " ++ entry.2)
  else none

/-- The variables and functions that programs get to see. -/
def environment : Run (List (String × String)) := do
  let sh ← shell
  let found := sh.vars.filterMap fun (name, v) =>
    if v.exported then match v.value with
      | .text s => some (name, s)
      | _ => none
    else none
  let place (name : String) : Nat := match sh.dialect with
    | .plain => keptAt name
    | .extended => keyPlace name
  let functions := sh.functions.filterMap fun (name, f) =>
    if f.exported then some (functionEntry name f) else none
  return (found.mergeSort fun a b => decide (place a.1 ≤ place b.1)) ++ functions

/-! ### Words and commands -/

/-- A simple command whose words have been expanded. -/
structure Expanded where
  words : List String := []
  /-- Whether functions are passed over. -/
  outside : Bool := false
  /-- Whether the words are described instead. -/
  described : Option Bool := none
  /-- Whether the programs of the system are looked for in the usual folders. -/
  usual : Bool := false

/-- Take the options of the command that passes functions over. -/
def takeOutside : List String → Expanded → Expanded
  | [], e => { e with words := ["command"], outside := true }
  | argument :: rest, e =>
      match argument.toList with
      | ['-', '-'] => { e with words := rest, outside := true }
      | '-' :: c :: cs =>
          if (c :: cs).all fun c => c = 'p' || c = 'v' || c = 'V' then
            takeOutside rest
              { e with
                usual := e.usual || (c :: cs).contains 'p'
                described := if (c :: cs).contains 'V' then some true
                  else if (c :: cs).contains 'v' then some false else e.described }
          else { e with words := argument :: rest, outside := true }
      | _ => { e with words := argument :: rest, outside := true }

/-- Take the commands that say how the command behind them is looked up; each of them takes at
least itself. -/
def takePrefixes : (steps : Nat) → Expanded → Expanded
  | 0, e => e
  | steps + 1, e =>
      match e.words with
      | "command" :: [] => e
      | "command" :: rest =>
          let found := takeOutside rest e
          if found.described.isSome then found else takePrefixes steps found
      | _ => e

/-- The commands whose arguments may be assignments, which are not cut into fields. -/
def takesAssignments (dialect : Dialect) (words : List String) : Bool :=
  let name := (takePrefixes words.length { words := words }).words.head?.getD ""
  (["export", "readonly", "local"] ++
    if dialect = .extended then ["declare", "typeset"] else ["alias"]).contains name

/-- Expand the words of a simple command. -/
def expandWords (perform : Perform) (words : List Word) : Run (List String) := do
  let dialect := (← shell).dialect
  let mut found : List String := []
  for w in words do
    if !found.isEmpty ∧ takesAssignments dialect found ∧ (assignment? dialect w).isSome then
      found := found ++ [← expandAssigned perform w]
    else found := found ++ (← expandFields perform [w])
  return found

/-- Say that a command is not there, and give the status for it. -/
def missingCommand (name : String) (e : FileError) : Run Nat := do
  let extended := (← shell).dialect = .extended
  match e with
  | .noEntry | .notDirectory =>
      if extended then
        warn (name ++ if name.contains '/' then ": " ++ e.reason else ": command not found")
      else warn (name ++ ": not found")
      return if extended ∧ e = .notDirectory then 126 else 127
  | e =>
      warn (name ++ ": " ++ e.reason)
      return if !extended ∧ (e = .tooManyLinks ∨ e = .nameTooLong) then 127 else 126

/-- Complain about a program that cannot be started, and give the status for it. -/
def startFailure (path name : String) (e : FileError) : Run Nat := do
  if (← shell).dialect = .extended ∧ name.contains '/' then
    let t ← tree
    let number? := (t.locate (← process).folder path).toOption
    let isFolder := number?.any t.isFolder
    let there := number?.isSome
    if isFolder then
      warn (name ++ ": Is a directory")
      return 126
    if there ∧ (e = .noEntry ∨ e = .notDirectory) then
      warn (name ++ ": cannot execute: required file not found")
      return 127
  missingCommand name e

/-- Become a program: its end is the end of this process. -/
def become (perform : Perform) (path : String) (words : List String) : Run Nat := do
  let sh ← shell
  let exported ← environment
  let last := if sh.dialect = .extended then [("_", path)] else []
  modifyProcess fun p => { p with environment := exported ++ last }
  match ← Program.load path words with
  | .ok (kind, arguments) => perform (.program kind arguments)
  | .error .badFormat =>
      let kind := if sh.dialect = .extended then "bash" else "dash"
      perform (.program kind ((if sh.dialect = .extended then "bash" else "/bin/sh") :: path
        :: words.drop 1))
  | .error e => startFailure path (words.headD path) e

/-- Run a program in a process of its own, or in this one if nothing is left to do. -/
def runProgram (perform : Perform) (last : Bool) (path : String) (words : List String) :
    Run Nat := do
  if last ∧ (← shell).traps.isEmpty ∧ (← get).jobs.isEmpty then
    let status ← become perform path words
    modifyShell fun sh => { sh with traps := [] }
    throw (.exit status)
  if Path.base path = "sleep" ∨ (← words.anyM isNamedPipe) then runJobs perform
  let ending ← asChild (become perform path words)
  noticeEnding ending
  return ending.status

/-- Run a function. -/
def runFunction (perform : Perform) (tested : Bool) (name : String) (f : Function)
    (arguments : List String) : Run Nat := do
  let before ← shell
  pushFrame
  modifyShell fun sh =>
    { sh with
      arguments := arguments
      loops := 0
      calls := sh.calls + 1
      functionLine := f.line
      callers := ⟨name, sh.line, f.source, true⟩ :: sh.callers
      optionNext := if sh.dialect = .plain then 1 else sh.optionNext
      optionPlace := if sh.dialect = .plain then 0 else sh.optionPlace }
  let restore : Run Unit := do
    dropFrame
    modifyShell fun sh =>
      { sh with
        arguments := before.arguments
        loops := before.loops
        calls := before.calls
        functionLine := before.functionLine
        callers := before.callers
        line := if sh.dialect = .extended then before.line else sh.line
        optionNext := if sh.dialect = .plain then before.optionNext else sh.optionNext
        optionPlace := if sh.dialect = .plain then before.optionPlace else sh.optionPlace }
  try
    let status ← withoutTraps [failureTrap, commandTrap, returnTrap] do
      let status ←
        try perform (.command f.body tested false)
        catch e =>
          match e with
          | .returned n => pure n
          | e => throw e
      raiseInner perform returnTrap f.line
      return status
    restore
    return status
  catch e =>
    restore
    throw e

/-- Run a builtin command.  An error ends only the command itself, unless it is a special one. -/
def runGuarded (perform : Perform) (tested : Bool) (special : Bool) (name : String)
    (arguments : List String) : Run Nat := do
  let before := (← shell).command
  modifyShell fun sh => { sh with command := some name }
  modifyProcess fun p => { p with lost := none }
  let restore : Run Unit := modifyShell fun sh => { sh with command := before }
  let status ←
    try runBuiltin perform tested name arguments
    catch e =>
      restore
      match e with
      | .failed n => if special then throw e else return n
      | e => throw e
  match (← process).lost with
  | some e =>
      modifyProcess fun p => { p with lost := none }
      if (← shell).dialect = .extended then
        warn (name ++ ": write error: " ++ e.reason)
        restore
        return 1
      warn (name ++ ": I/O error")
      restore
      return status ||| 1
  | none =>
      restore
      return status

/-- Replace the process by a program, or only take over the redirections. -/
def runExec (perform : Perform) (arguments : List String) : Run Nat := do
  let arguments := if arguments.head? = some "--" then arguments.drop 1 else arguments
  let (name?, arguments) := match arguments with
    | "-a" :: name :: rest =>
        if (rest.head?).isSome then (some name, rest) else (none, arguments)
    | all => (none, all)
  match arguments with
  | [] => return 0
  | name :: _ =>
      let sh ← shell
      let quit (e : FileError) : Run Nat := do
        if sh.dialect = .extended then
          let status ← if name.contains '/' then missingCommand name e
            else do
              warn ("exec: " ++ name ++ ": not found")
              pure 127
          throw (.exit status)
        modifyShell fun sh => { sh with command := some "exec" }
        let status ← missingCommand name e
        throw (.exit status)
      match ← Program.lookUp name ((← lookup? "PATH").getD "") with
      | .error e => quit e
      | .ok path =>
          match ← Program.executable path with
          | .error e => quit e
          | .ok _ =>
              let words := match name? with
                | some name => name :: arguments.drop 1
                | none => arguments
              modifyShell fun sh => { sh with traps := sh.traps.filter fun t => t.2 = "" }
              match ← Program.load path words with
              | .error .badFormat | .ok _ =>
                  let status ← become perform path words
                  throw (.exit status)
              | .error e => quit e

/-- Run the words of a simple command. -/
def runWords (perform : Perform) (tested last : Bool) (e : Expanded) : Run Nat := do
  match e.described, e.words with
  | some long, words => describeCommand long words
  | none, [] => return (← shell).outputStatus
  | none, name :: arguments =>
      let folders := if e.usual then Program.usualFolders else ""
      let found ←
        if e.usual ∧ !(isBuiltin (← shell) name) then
          match ← Program.lookUp name folders with
          | .ok path => pure (Resolved.program path)
          | .error e => pure (.missing e)
        else resolve e.outside name
      match found with
      | .function f => runFunction perform tested name f arguments
      | .builtin =>
          if name = "exec" then runExec perform arguments
          else if name = "builtin" then
            match arguments with
            | [] => return 0
            | name :: arguments =>
                if (builtins .extended).contains name then
                  runGuarded perform tested false name arguments
                else
                  warn ("builtin: " ++ name ++ ": not a shell builtin")
                  return 1
          else
            let dialect := (← shell).dialect
            runGuarded perform tested (isSpecial dialect name && !e.outside) name arguments
      | .program path =>
          remember name path 1
          runProgram perform last path (name :: arguments)
      | .missing e =>
          match (← shell).functions.lookup "command_not_found_handle" with
          | some f =>
              if (← shell).dialect = .extended then
                return ← runFunction perform tested "command_not_found_handle" f
                  (name :: arguments)
              missingCommand name e
          | none => missingCommand name e

/-- Assign the lists that a declaration holds, behind a declaration of their names. -/
def declareLists (perform : Perform) (errors : Option Nat) (lists : List Assign)
    (declare : Run Unit) : Run Unit := do
  declare
  for a in lists do
    match a with
    | .list name append values _ =>
        let base := (← aim name).1
        let v ← changeable base
        let keyed := match v.value with
          | .list keyed _ => keyed
          | _ => false
        let members ← listMembers perform keyed values
        trace perform errors [name ++ (if append then "+=" else "=") ++ traceMembers members]
        assignMembers base append members
    | a => discard (doAssign perform false a)

/-- Run a simple command. -/
def runSimple (perform : Perform) (tested last : Bool) (assigns : List Assign) (words : List Word)
    (redirects : List Redirect) : Run Nat := do
  modifyShell fun sh => { sh with outputStatus := 0 }
  let texts ← expandWords perform words
  let dialect := (← shell).dialect
  let e := takePrefixes texts.length { words := texts }
  let name := e.words.headD ""
  let isFunction := !e.outside && ((← shell).functions.lookup name).isSome
  let special := isSpecial dialect (texts.headD "")
  -- The lists that a declaration assigns are put in place behind it.
  let declares := dialect = .extended && declaringCommands.contains name
  let (lists, assigns) := if declares then assigns.partition Assign.isList else ([], assigns)
  let temporary := !texts.isEmpty && !special && !assigns.isEmpty
  let errors := (← process).streams.lookup 2
  let traced (shown : List String) : Run Unit := do
    if dialect = .extended then
      for text in shown do
        trace perform errors [text]
      if !texts.isEmpty then trace perform errors (texts.map traceWord)
      if ["export", "readonly"].contains name then
        for text in texts.drop 1 do
          match splitArgument true text with
          | { name := x, text := some value, .. } =>
              if isVariableName x then trace perform errors [x ++ "=" ++ traceWord value]
          | _ => pure ()
    else if !(shown.isEmpty && texts.isEmpty) then trace perform errors (shown ++ texts)
  let run (worked : Bool) : Run Nat := do
    if !worked then
      if special then throw (.failed failure)
      return if dialect = .extended then 1 else failure
    if temporary then pushFrame
    try
      let mut shown : List String := []
      for a in assigns do
        let text ← doAssign perform temporary a
        shown := shown ++ [text]
        if special ∧ name = "exec" ∧ 1 < texts.length then
          match a with
          | .word x _ _ _ => exportVariable x
          | .list _ _ _ _ => pure ()
      if !lists.isEmpty then
        let words := e.words.map fun w =>
          if w.startsWith "-" then String.ofList (w.toList.filter (· ≠ 'r')) else w
        declareLists perform errors lists do
          if name ≠ "readonly" then
            discard (runWords perform tested false { e with words := words })
      traced shown
      if dialect = .extended then
        modifyShell fun sh => { sh with lastWord := texts.getLast?.getD "" }
      let status ← runWords perform tested last e
      if temporary then dropFrame
      return status
    catch e =>
      if temporary then dropFrame
      throw e
  if name = "exec" ∧ e.words.length = 1 ∧ e.described.isNone ∧ !isFunction then
    if ← redirectAll perform redirects then
      traced []
      return 0
    if dialect = .extended then throw (.exit 1)
    if special then throw (.failed failure)
    return failure
  withRedirects perform redirects run

/-! ### Around a command -/

/-- Note a command that begins: its line, and how it is written. -/
def beginCommand (perform : Perform) (line : Nat) (written : String) : Run Unit := do
  modifyShell fun sh =>
    { sh with line := line, written := if sh.running.isEmpty then written else sh.written }
  raiseInner perform commandTrap line

/-- Note the status of a command. -/
def setStatus (status : Nat) : Run Nat := do
  modifyShell fun sh => { sh with status := status }
  return status

/-- Note the status of a command, and end the shell if it is a failure that nobody looks at and
the shell is to end then. -/
def settle (perform : Perform) (tested : Bool) (status : Nat) : Run Nat := do
  discard (setStatus status)
  handleSignals perform
  if status ≠ 0 ∧ !tested then
    raiseInner perform failureTrap (← shell).line
    if ← hasOption 'e' then throw (.exit status)
  return status

/-- Note the status of a command that counts as a pipeline of its own, and settle it. -/
def settleAlone (perform : Perform) (tested : Bool) (status : Nat) : Run Nat := do
  if (← shell).dialect = .extended then
    modifyShell fun sh => { sh with pipeStatuses := [status] }
  settle perform tested status

/-- Actions that complain under a name in the extended dialect, or under none. -/
def underName {α : Type} (name : Option String) (act : Run α) : Run α := do
  let sh ← shell
  if sh.dialect = .plain then return ← act
  modifyShell fun sh => { sh with command := name }
  let restore : Run Unit := modifyShell fun now => { now with command := sh.command }
  try
    let found ← act
    restore
    return found
  catch e =>
    restore
    throw e

/-- Actions behind which the files are closed that commands within them wrote to or read from. -/
def keepingChannels {α : Type} (act : Run α) : Run α := do
  let before := (← shell).channels
  let restore : Run Unit := do
    for stream in (← shell).channels do
      if !before.contains stream then closeStream stream
    modifyShell fun sh => { sh with channels := before }
  try
    let found ← act
    restore
    return found
  catch e =>
    restore
    throw e

/-- Show a command that is not a simple one in a trace. -/
def traceHead (perform : Perform) (text : String) : Run Unit := do
  if (← shell).dialect = .extended then
    trace perform ((← process).streams.lookup 2) [text]

/-- The value of an expression that is a command, shown in a trace; there is none if it is
malformed. -/
def commandSum (perform : Perform) (expression : Word) : Run (Option Int) :=
  underName (some "((") do
    let text ← expandText perform expression
    traceHead perform ("(( " ++ text ++ " ))")
    try return some (← numberOfText text)
    catch e =>
      match e with
      | .failed _ => return none
      | e => throw e

end ToyLang.Shell
