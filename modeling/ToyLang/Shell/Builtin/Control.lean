import ToyLang.Process.Program
import ToyLang.Shell.Builtin.CountedTest
import ToyLang.Shell.Builtin.Folder
import ToyLang.Shell.Builtin.Print
import ToyLang.Shell.Builtin.Read
import ToyLang.Shell.Builtin.Signals
import ToyLang.Shell.Parse

/-!
# Commands on the course of a script

## Main definitions

* `builtins` — the names of the builtin commands.
* `breakCommand`, `returnCommand`, `exitCommand` — leaving what runs.
* `evalCommand`, `sourceCommand` — running other scripts.
* `describeCommand` — what names stand for.
-/

namespace ToyLang.Shell

open Run

/-- The builtin commands of both dialects. -/
def commonBuiltins : List String :=
  [".", ":", "[", "alias", "bg", "break", "cd", "command", "continue", "echo", "eval", "exec",
    "exit", "export", "false", "fg", "getopts", "hash", "jobs", "kill", "local", "printf", "pwd",
    "read", "readonly", "return", "set", "shift", "test", "times", "trap", "true", "type",
    "ulimit", "umask", "unalias", "unset", "wait"]

/-- The builtin commands of a dialect. -/
def builtins : Dialect → List String
  | .plain => "chdir" :: commonBuiltins
  | .extended =>
      commonBuiltins ++ ["bind", "builtin", "caller", "compgen", "complete", "compopt", "declare",
      "dirs", "disown", "enable", "fc", "help", "history", "let", "logout", "mapfile", "popd",
      "pushd", "readarray", "shopt", "source", "suspend", "typeset"]

/-! ### Leaving -/

/-- Leave loops, or the present round of one. -/
def breakCommand (name : String) (leave : Nat → Leave) (arguments : List String) : Run Nat := do
  let sh ← shell
  let extended := decide (sh.dialect = .extended)
  let act (n : Nat) : Run Nat := do
    if sh.loops = 0 then return 0
    throw (leave (min n sh.loops))
  if extended ∧ sh.loops = 0 then
    warn (name ++ ": only meaningful in a \x60for', \x60while', or \x60until' loop")
    return 0
  match arguments with
  | [] => act 1
  | text :: _ =>
      if extended then
        match text.toInt? with
        | some n =>
            if 0 < n then return ← act n.toNat
            discard (refuse name (text ++ ": loop count out of range"))
            throw (leave sh.loops)
        | none =>
            warn (name ++ ": " ++ text ++ ": numeric argument required")
            throw (.exit 128)
      else match plainNumber? text with
        | some (n + 1) => act (n + 1)
        | _ => refuse name ("Illegal number: " ++ text)

/-- The status that an argument says, or the present one. -/
def statusArgument (name : String) (present : Nat) : List String → Run (Except Nat Nat)
  | [] => return .ok present
  | text :: _ => do
      if (← shell).dialect = .plain then
        match plainNumber? text with
        | some n => return .ok n
        | none => return .error (← refuse name ("Illegal number: " ++ text))
      match wholeNumber? true text with
      | some n => return .ok (n % 256).toNat
      | none =>
          warn (name ++ ": " ++ text ++ ": numeric argument required")
          return .error failure

/-- Leave a function or a sourced script. -/
def returnCommand (arguments : List String) : Run Nat := do
  let sh ← shell
  if sh.dialect = .extended ∧ sh.calls = 0 then
    warn "return: can only \x60return' from a function or sourced script"
    return failure
  if sh.dialect = .extended ∧ 1 < arguments.length then
    return ← refuse "return" "too many arguments"
  match ← statusArgument "return" sh.status arguments with
  | .ok n => throw (.returned (n % 256))
  | .error n => throw (.returned n)

/-- End the shell. -/
def exitCommand (arguments : List String) : Run Nat := do
  let sh ← shell
  if sh.dialect = .extended ∧ 1 < arguments.length
    ∧ (arguments.head?.bind String.toInt?).isSome then
    return ← refuse "exit" "too many arguments"
  match ← statusArgument "exit" (sh.trapStatus.getD sh.status) arguments with
  | .ok n => throw (.exit (n % 256))
  | .error n => throw (.exit n)

/-! ### Other scripts -/

/-- Run the arguments as a script. -/
def evalCommand (perform : Perform) (tested : Bool) (arguments : List String) : Run Nat := do
  let arguments := if arguments.head? = some "--" then arguments.drop 1 else arguments
  let sh ← shell
  perform (.script (" ".intercalate arguments) (if sh.dialect = .plain then 1 else sh.line) tested
    false)

/-- The path of a script that is to be run in this shell. -/
def findScript (name : String) : Run (Option String) := do
  if name.contains '/' then return some name
  let isFile (path : String) : Run Bool := do
    match (← tree).locate (← process).folder path with
    | .ok number =>
        match (← tree).content number with
        | .file _ => return true
        | _ => return false
    | .error _ => return false
  for folder in ((← lookup? "PATH").getD "").splitOn ":" do
    let path := if folder = "" then name else Path.join folder name
    if ← isFile path then return some path
  if (← shell).dialect = .extended then return some name
  return none

/-- Run a file as a script in this shell. -/
def sourceCommand (perform : Perform) (command : String) (arguments : List String) : Run Nat := do
  let extended := (← shell).dialect = .extended
  match arguments with
  | [] =>
      if extended then
        warn (command ++ ": filename argument required")
        return ← showUsage command
      return 0
  | name :: rest =>
      match ← findScript name with
      | none => refuse "." (name ++ ": not found")
      | some path =>
          match ← readPath path with
          | .error e =>
              if extended then
                warn (path ++ ": " ++ e.reason)
                return 1
              let reason := if e = .noEntry ∨ e = .notDirectory then "No such file" else e.reason
              refuse "." ("cannot open " ++ path ++ ": " ++ reason)
          | .ok text =>
              let before ← shell
              let given := if extended ∧ !rest.isEmpty then rest else before.arguments
              modifyShell fun sh =>
                { sh with
                  arguments := given
                  calls := sh.calls + 1
                  callers := ⟨"source", sh.line, path, false⟩ :: sh.callers
                  command := if extended then none else some path }
              let restore : Run Unit := modifyShell fun sh =>
                { sh with
                  arguments := if given = before.arguments then sh.arguments else before.arguments
                  calls := before.calls
                  callers := before.callers
                  command := before.command
                  line := before.line }
              try
                let status ← withoutTraps [commandTrap] do
                  try perform (.script text 1 false false)
                  catch e =>
                    match e with
                    | .returned n => pure n
                    | e => throw e
                raiseInner perform returnTrap (← shell).line
                restore
                return status
              catch e =>
                restore
                throw e

/-! ### What names stand for -/

/-- What the name of a command stands for. -/
inductive Resolved where
  | function (f : Function)
  | builtin
  | program (path : String)
  | missing (e : FileError)

/-- Whether a command is one that no function can stand in for. -/
def isSpecial (dialect : Dialect) (name : String) : Bool :=
  dialect = .plain && specialBuiltins.contains name

/-- Whether a name is that of a builtin command that is not passed over. -/
def isBuiltin (sh : ToyLang.Shell) (name : String) : Bool :=
  (builtins sh.dialect).contains name && !sh.disabled.contains name

/-- What the name of a command stands for.  Functions are passed over if `outside` says so. -/
def resolve (outside : Bool) (name : String) : Run Resolved := do
  let sh ← shell
  if isSpecial sh.dialect name then return .builtin
  match (if outside then none else sh.functions.lookup name) with
  | some f => return .function f
  | none =>
      if isBuiltin sh name then return .builtin
      match sh.dialect, sh.known.lookup name with
      | .extended, some (path, _) => return .program path
      | _, _ =>
          match ← Program.lookUp name ((← lookup? "PATH").getD "") with
          | .ok path => return .program path
          | .error e => return .missing e

/-- Remember where a program is that was looked up by its name. -/
def remember (name path : String) (runs : Nat) : Run Unit := do
  if name.contains '/' then return
  modifyShell fun sh =>
    let old := match sh.known.lookup name with
      | some (_, n) => n
      | none => 0
    let entry := (name, path, old + runs)
    { sh with known :=
        if (sh.known.lookup name).isSome then
          sh.known.map fun e => if e.1 = name then entry else e
        else sh.known ++ [entry] }

/-- Describe what a name stands for, at length or briefly. -/
def describe (name : String) (brief outside : Bool) (refusal : String → Run Unit) : Run Nat := do
  let sh ← shell
  let extended := decide (sh.dialect = .extended)
  let say (long short : String) : Run Nat := do
    put ((if brief then short else long) ++ "\n")
    return 0
  let expands := !extended || sh.longOptions.contains "expand_aliases"
  match (if extended && expands then sh.aliases.lookup name else none) with
  | some text =>
      return ← say (name ++ " is aliased to \x60" ++ text ++ "'")
        ("alias " ++ name ++ "=" ++ singleQuoted text)
  | none => pure ()
  if (keywords sh.dialect).contains name then return ← say (name ++ " is a shell keyword") name
  match (if extended then none else sh.aliases.lookup name) with
  | some text =>
      return ← say (name ++ " is an alias for " ++ text)
        ("alias " ++ name ++ "=" ++ showQuoted text)
  | none => pure ()
  match ← resolve outside name with
  | .function f =>
      if extended then
        say (name ++ " is a function\n" ++ String.ofList (printedFunction name f.body).toList.dropLast)
          name
      else say (name ++ " is a shell function") name
  | .builtin =>
      let special := if isSpecial sh.dialect name then "special " else ""
      say (name ++ " is a " ++ special ++ "shell builtin") name
  | .program path =>
      match ← Program.executable path with
      | .ok _ =>
          let known := (sh.known.lookup name).isSome
          if extended then
            let found := if known then " is hashed (" ++ path ++ ")" else " is " ++ path
            return ← say (name ++ found) path
          remember name path 0
          say (name ++ (if known then " is a tracked alias for " else " is ") ++ path) path
      | .error _ =>
          refusal name
          return 1
  | .missing _ =>
      refusal name
      return 1

/-- The paths of all programs with a name. -/
def allPrograms (name : String) : Run (List String) := do
  if name.contains '/' then
    return if (← Program.executable name).toOption.isSome then [name] else []
  let folders := ((← lookup? "PATH").getD "").splitOn ":"
  folders.filterMapM fun folder => do
    let path := if folder = "" then "./" ++ name else Path.join folder name
    return if (← Program.executable path).toOption.isSome then some path else none

/-- Describe everything that a name stands for, in the extended dialect. -/
def describeAll (name : String) (outside kindOnly pathOnly : Bool) : Run Nat := do
  let sh ← shell
  let mut found := false
  let say (long kind : String) : Run Unit := put ((if kindOnly then kind else long) ++ "\n")
  if !pathOnly then
    if sh.longOptions.contains "expand_aliases" then
      if let some text := sh.aliases.lookup name then
        say (name ++ " is aliased to \x60" ++ text ++ "'") "alias"
        found := true
    if (keywords .extended).contains name then
      say (name ++ " is a shell keyword") "keyword"
      found := true
    if !outside then
      if let some f := sh.functions.lookup name then
        let text := (printedFunction name f.body).toList.dropLast
        say (name ++ " is a function\n" ++ String.ofList text) "function"
        found := true
    if isBuiltin sh name then
      say (name ++ " is a shell builtin") "builtin"
      found := true
  for path in ← allPrograms name do
    if pathOnly then put (path ++ "\n") else say (name ++ " is " ++ path) "file"
    found := true
  return if found then 0 else 1

/-- The word for what a name stands for, in the extended dialect. -/
def kindOf? (name : String) (outside : Bool) : Run (Option String) := do
  let sh ← shell
  if sh.longOptions.contains "expand_aliases" ∧ (sh.aliases.lookup name).isSome then
    return some "alias"
  if (keywords .extended).contains name then return some "keyword"
  match ← resolve outside name with
  | .function _ => return some "function"
  | .builtin => return some "builtin"
  | .program path =>
      return if (← Program.executable path).toOption.isSome then some "file" else none
  | .missing _ => return none

/-- Describe what names stand for. -/
def typeCommand (arguments : List String) : Run Nat := do
  if (← shell).dialect = .plain then
    let mut status := 0
    for name in arguments do
      let found ← describe name false false fun name => put (name ++ ": not found\n")
      if found ≠ 0 then status := 127
    return status
  match takeLetters ['a', 'f', 't', 'p', 'P'] arguments with
  | .error c => refuseOption "type" c
  | .ok (letters, names) =>
      let has (c : Char) : Bool := letters.contains c
      let mut status := 0
      for name in names do
        let refusal : Run Unit := do
          if !has 't' && !has 'p' && !has 'P' then warn ("type: " ++ name ++ ": not found")
        if has 'a' then
          if (← describeAll name (has 'f') (has 't') (has 'p' || has 'P')) ≠ 0 then
            refusal
            status := 1
        else if has 't' then
          match ← kindOf? name (has 'f') with
          | some kind => put (kind ++ "\n")
          | none => status := 1
        else if has 'P' || has 'p' then
          let kind ← kindOf? name (has 'f')
          if has 'P' || kind = some "file" then
            match (← allPrograms name).head? with
            | some path => put (path ++ "\n")
            | none => status := 1
          else if kind.isNone then status := 1
        else if (← describe name false (has 'f') fun _ => refusal) ≠ 0 then status := 1
      return status

/-- Describe what names stand for, as the command that passes functions over does. -/
def describeCommand (long : Bool) (arguments : List String) : Run Nat := do
  let extended := (← shell).dialect = .extended
  let mut status := 0
  for name in arguments do
    let found ← describe name (!long) false fun name => do
      if long then
        if extended then warn ("command: " ++ name ++ ": not found")
        else put (name ++ ": not found\n")
    if found ≠ 0 then status := if extended then 1 else 127
  return status

/-- The place among all programs at which the standard shell keeps one. -/
def programPlace (name : String) : Nat :=
  match name.toList with
  | [] => 0
  | c :: cs => (cs.foldl (fun n c => n + c.toNat) (17 * c.toNat)) % 0x8000 % 31

/-- Show where the programs are that were looked up. -/
def showKnown : Run Nat := do
  let sh ← shell
  if sh.dialect = .extended then
    if sh.known.isEmpty then put "hash: hash table empty\n"
    else
      put "hits\tcommand\n"
      for (_, path, runs) in sh.known do
        let count := toString runs
        put (String.ofList (List.replicate (4 - count.length) ' ') ++ count ++ "\t" ++ path ++ "\n")
  else
    for (_, path, _) in sh.known.mergeSort fun a b =>
      decide (programPlace a.1 ≤ programPlace b.1) do
      put (path ++ "\n")
  return 0

/-- Remember where programs are, or show it, in the extended dialect. -/
def hashExtended (arguments : List String) : Run Nat := do
  let (path?, arguments) := match arguments with
    | "-p" :: path :: rest => (some path, rest)
    | all => (none, all)
  match takeLetters ['d', 'l', 'r', 't'] arguments with
  | .error c => refuseOption "hash" c
  | .ok (letters, names) =>
      let has (c : Char) : Bool := letters.contains c
      if has 'r' then modifyShell fun sh => { sh with known := [] }
      if names.isEmpty then
        if has 'l' then
          for (name, path, _) in (← shell).known do
            put ("builtin hash -p " ++ path ++ " " ++ name ++ "\n")
          return 0
        if has 'r' then return 0
        return ← showKnown
      let mut status := 0
      for name in names do
        match path? with
        | some path => remember name path 0
        | none =>
            if has 'd' ∨ has 't' then
              match (← shell).known.lookup name with
              | some (path, _) =>
                  if has 't' then put (path ++ "\n")
                  else modifyShell fun sh =>
                    { sh with known := sh.known.filter fun e => e.1 ≠ name }
              | none => status ← refuse "hash" (name ++ ": not found")
            else match ← resolve false name with
              | .missing _ => status ← refuse "hash" (name ++ ": not found")
              | .program path => remember name path 0
              | _ => pure ()
      return status

/-- Remember where programs are, or show it. -/
def hashCommand (arguments : List String) : Run Nat := do
  if (← shell).dialect = .extended then return ← hashExtended arguments
  if arguments.isEmpty then return ← showKnown
  let options := arguments.takeWhile fun a => a.startsWith "-"
  if options.contains "-r" then modifyShell fun sh => { sh with known := [] }
  let mut status := 0
  for name in arguments.drop options.length do
    match ← resolve false name with
    | .missing _ => status ← (do
        warn (name ++ ": not found")
        return 1)
    | .program path => remember name path 0
    | _ => pure ()
  return status

/-! ### Commands of the extended dialect -/

/-- Evaluate arithmetic expressions. -/
def letCommand (arguments : List String) : Run Nat := do
  let arguments := if arguments.head? = some "--" then arguments.drop 1 else arguments
  if arguments.isEmpty then return ← refuse "let" "expression expected"
  let mut value : Int := 0
  for text in arguments do
    value ← numberOfText text
  return if value = 0 then 1 else 0

/-- Let builtin commands be passed over, or no longer, or show them. -/
def enableCommand (arguments : List String) : Run Nat := do
  match takeLetters ['a', 'n', 'p', 's', 'd'] arguments with
  | .error c => refuseOption "enable" c
  | .ok (letters, names) =>
      let has (c : Char) : Bool := letters.contains c
      let sh ← shell
      if names.isEmpty then
        for name in (builtins .extended).mergeSort fun a b => decide (a ≤ b) do
          let off := sh.disabled.contains name
          if has 'a' || off = has 'n' then
            put ("enable " ++ (if off then "-n " else "") ++ name ++ "\n")
        return 0
      let mut status := 0
      for name in names do
        if (builtins .extended).contains name then
          modifyShell fun sh =>
            let others := sh.disabled.filter (· ≠ name)
            { sh with disabled := if has 'n' then name :: others else others }
        else status ← refuse "enable" (name ++ ": not a shell builtin")
      return status

/-- Show from where the function or the sourced script that runs was called. -/
def callerCommand (arguments : List String) : Run Nat := do
  let sh ← shell
  let chain := callChain sh
  let place? ← match arguments.head? with
    | none => pure (some 0)
    | some text => pure text.toNat?
  match place? with
  | none =>
      discard (refuse "caller" ((arguments.headD "") ++ ": invalid number"))
      showUsage "caller"
  | some n =>
      let line := (chain[n]?).map Caller.line
      let next := chain[n + 1]?
      match arguments, line, next with
      | [], some line, next =>
          put (toString line ++ " " ++ ((next.map Caller.source).getD "NULL") ++ "\n")
          return 0
      | _, some line, some next =>
          put (toString line ++ " " ++ next.name ++ " " ++ next.source ++ "\n")
          return 0
      | [], none, _ =>
          put "0 NULL\n"
          return 0
      | _, _, _ => return 1

/-- Say that a shell which runs a script cannot be stopped. -/
def suspendCommand : Run Nat := refuse "suspend" "cannot suspend: no job control"

/-! ### All of them -/

/-- The truth of a test as a status. -/
def testCommand (name : String) (arguments : List String) : Run Nat := do
  let operands ←
    if name = "[" then
      if arguments.getLast? = some "]" then pure (some arguments.dropLast) else pure none
    else pure (some arguments)
  match operands with
  | none =>
      if (← shell).dialect = .extended then warn "[: missing \x60]'" else warn "missing ]"
      return failure
  | some operands =>
      match ← test (name = "[") operands with
      | .ok true => return 0
      | .ok false => return 1
      | .error text =>
          warn (if (← shell).dialect = .extended then name ++ ": " ++ text else text)
          return failure

/-- Run a builtin command; its failure may be looked at. -/
def runBuiltin (perform : Perform) (tested : Bool) (name : String) (arguments : List String) :
    Run Nat := do
  match name with
  | ":" | "true" => return 0
  | "bg" | "fg" => foregroundCommand name arguments
  | "disown" => disownCommand arguments
  | "enable" => enableCommand arguments
  | "caller" => callerCommand arguments
  | "suspend" => suspendCommand
  | "logout" => refuse "logout" "not login shell: use \x60exit'"
  | "false" => return 1
  | "." | "source" => sourceCommand perform name arguments
  | "[" | "test" => testCommand name arguments
  | "alias" => aliasCommand arguments
  | "unalias" => unaliasCommand arguments
  | "break" => breakCommand "break" .broken arguments
  | "continue" => breakCommand "continue" .continued arguments
  | "cd" | "chdir" => cdCommand arguments
  | "pwd" => pwdCommand arguments
  | "pushd" => pushdCommand arguments
  | "popd" => popdCommand arguments
  | "dirs" => dirsCommand arguments
  | "umask" => umaskCommand arguments
  | "ulimit" => ulimitCommand arguments
  | "echo" => echoCommand arguments
  | "printf" => printfCommand arguments
  | "eval" => evalCommand perform tested arguments
  | "exit" => exitCommand arguments
  | "return" => returnCommand arguments
  | "export" => exportCommand arguments
  | "readonly" => readonlyCommand arguments
  | "local" => localCommand arguments
  | "declare" | "typeset" => declareCommand name arguments
  | "unset" => unsetCommand arguments
  | "set" => setCommand arguments
  | "shift" => shiftCommand arguments
  | "shopt" => shoptCommand arguments
  | "let" => letCommand arguments
  | "read" => readCommand arguments
  | "mapfile" | "readarray" => mapfileCommand perform name arguments
  | "getopts" => getoptsCommand arguments
  | "kill" => killCommand arguments
  | "trap" => trapCommand arguments
  | "wait" => waitCommand perform arguments
  | "jobs" => jobsCommand arguments
  | "type" => typeCommand arguments
  | "hash" => hashCommand arguments
  | "times" => do
      put "0m0.000s 0m0.000s\n0m0.000s 0m0.000s\n"
      return 0
  | _ => return 0

end ToyLang.Shell
