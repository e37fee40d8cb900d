import ToyLang.Shell.Evaluate

/-!
# Starting a shell

A shell gets its script as an argument, from a file, or from its standard input.  The script is
read and run line by line, so that what is wrong with it shows only when it is reached.

## Main definitions

* `runScript` — a text as a script.
* `startShell` — a shell as a program.
-/

namespace ToyLang.Shell

open Run

/-! ### Scripts -/

/-- The status for a script that cannot be read.  The extended shell keeps a failure from before if
the script breaks off within quotes. -/
def refusalStatus (sh : ToyLang.Shell) (flaw : Flaw) : Nat :=
  match sh.dialect, flaw with
  | .extended, .unclosedList _ => 1
  | .extended, .unclosed _ _ =>
      if sh.command.isNone ∧ sh.calls = 0 ∧ sh.status ≠ 0 then sh.status else failure
  | _, _ => failure

/-- Complain about a script that cannot be read, given its text and the number of its first
line. -/
def refuseScript (text : String) (first : Nat) (m : Malformed) : Run Nat := do
  let sh ← shell
  if sh.dialect = .extended then
    let source := ((text.splitOn "\n")[m.line - first]?).getD ""
    let origin := match sh.command with
      | some name => name ++ ": "
      | none => if sh.isGiven && sh.calls = 0 then "-c: " else ""
    for (line, words) in m.extendedTexts source (text.endsWith "\n") do
      complain
        (blamedName sh ++ ": " ++ origin ++ "line " ++ toString line ++ ": " ++ words ++ "\n")
  else complain ((← blame m.line) ++ "Syntax error: " ++ m.flaw.plainText ++ "\n")
  throw (.failed (refusalStatus sh m.flaw))

/-- Run a text as a script, line by line. -/
def runScript (perform : Perform) (text : String) (line : Nat) (tested last : Bool) : Run Nat := do
  let sh ← shell
  let mut reader : Reader := { rest := text.toList, line := line, dialect := sh.dialect }
  let mut status := 0
  for _ in [0:longestScript] do
    let now ← shell
    let before := reader.rest
    let expands := now.dialect = .plain || now.longOptions.contains "expand_aliases"
    let aliases := if expands then now.aliases else []
    let groups := now.dialect = .extended && now.longOptions.contains "extglob"
    match parseLine.run
      { reader with documents := now.documents, aliases := aliases, groups := groups } with
    | .error m after =>
        if ← hasOption 'v' then
          complain (String.ofList (before.take (before.length - after.rest.length)))
        return ← refuseScript text line m
    | .ok none _ => return status
    | .ok (some c) after =>
        reader := { after with warnings := [] }
        if sh.dialect = .extended then
          for (line, words) in after.warnings do
            complain ((← blame line) ++ words ++ "\n")
        let readTo := after.line + 1 - line
        modifyShell fun sh => { sh with documents := after.documents, readTo := readTo }
        if ← hasOption 'v' then
          complain (String.ofList (before.take (before.length - after.rest.length)))
        if !(← hasOption 'n') then
          match c with
          | .nothing => pure ()
          | c =>
              let final := last && after.rest.isEmpty && !text.endsWith "\n"
              let act : Run Nat := perform (.command c tested final)
              status ←
                if sh.dialect = .extended ∧ !sh.isPart then
                  try act
                  catch e =>
                    match e with
                    | .failed n => setStatus n
                    | e => throw e
                else act
  return status

/-! ### Shells -/

/-- What the arguments of a shell ask for. -/
structure Invocation where
  /-- Whether the script is the first argument that is no option. -/
  isGiven : Bool := false
  rest : List String

/-- Refuse to start. -/
def refuseStart {α : Type} (extended plain : String) : Run α := do
  let sh ← shell
  if sh.dialect = .extended then complain (sh.name ++ ": " ++ extended ++ "\n")
  else complain (sh.name ++ ": 0: " ++ plain ++ "\n")
  throw (.exit failure)

/-- The long options of the extended shell, and whether they take a value. -/
def longStartOptions : List (String × Bool) :=
  [("posix", false), ("norc", false), ("noprofile", false), ("login", false), ("restricted", false),
    ("noediting", false), ("rcfile", true), ("init-file", true)]

/-- The version of the extended shell. -/
def extendedVersion : String := "5.2.15(1)-release"

/-- The kind of machine that the extended shell runs on. -/
def machineName : String := "x86_64-pc-linux-gnu"

/-- The version of the extended shell as a list. -/
def versionParts : List String := ["5", "2", "15", "1", "release", machineName]

/-- Take the options of a shell; each step takes one argument at least. -/
def takeStart : (steps : Nat) → Invocation → Run Invocation
  | 0, i => return i
  | steps + 1, i => do
      let extended := (← shell).dialect = .extended
      match i.rest with
      | [] => return i
      | argument :: rest =>
          match argument.toList with
          | ['-'] | ['-', '-'] => return { i with rest := rest }
          | '-' :: '-' :: name =>
              let name := String.ofList name
              if !extended then refuseStart "" "Illegal option --"
              if name = "version" then
                put ("GNU bash, version " ++ extendedVersion ++ " (" ++ machineName ++ ")\n")
                throw (.exit 0)
              if name = "verbose" then setOption 'v' true
              match longStartOptions.lookup name with
              | some valued =>
                  takeStart steps { i with rest := if valued then rest.drop 1 else rest }
              | none =>
                  if name = "verbose" then takeStart steps { i with rest := rest }
                  else refuseStart (argument ++ ": invalid option") ""
          | sign :: c :: cs =>
              if sign ≠ '-' ∧ sign ≠ '+' then return i
              let on := sign = '-'
              let mut rest := rest
              let mut isGiven := i.isGiven
              for letter in c :: cs do
                if letter = 'c' then isGiven := true
                else if letter = 'l' ∨ (letter = 'r' ∧ extended) then pure ()
                else if letter = 'O' ∧ extended then
                  for name in rest.take 1 do
                    setLongOption name on
                  rest := rest.drop 1
                else if letter = 'o' then
                  match rest with
                  | [] => listOptions (!on)
                  | name :: more =>
                      rest := more
                      if !(← setNamedOption name on) then
                        refuseStart (name ++ ": invalid option name")
                          ("Illegal option " ++ String.singleton sign ++ "o " ++ name)
                else if ((optionNames (← shell).dialect).lookup letter).isSome ∨ letter = 's' then
                  setOption letter on
                else
                  refuseStart (String.ofList [sign, letter] ++ ": invalid option")
                    ("Illegal option " ++ String.ofList [sign, letter])
              takeStart steps { i with isGiven := isGiven, rest := rest }
          | _ => return i

/-- The path of the folder that is worked in, as the environment says it, if that is right. -/
def startingPath (environment : List (String × String)) : Run String := do
  let t ← tree
  let p ← process
  match environment.lookup "PWD" with
  | some path =>
      let right := match t.locate p.folder path with
        | .ok number => number = p.folder
        | .error _ => false
      return if Path.isAbsolute path && right then path else t.pathOf p.folder
  | none => return t.pathOf p.folder

/-- Set the variables that every shell has. -/
def setUsualVariables (path : String) : Run Unit := do
  let p ← process
  let extended := (← shell).dialect = .extended
  let set (name text : String) : Run Unit := storeVariable name { value := .text text }
  let default (name text : String) : Run Unit := do
    if (← varOf? name).isNone then set name text
  set "IFS" " \t\n"
  default "PATH" Program.usualFolders
  set "PS1" "# "
  set "PS2" "> "
  set "PS4" "+ "
  set "OPTIND" "1"
  let fixedNumber (name text : String) : Run Unit :=
    storeVariable name { value := .text text, fixed := true, isNumber := true }
  storeVariable "PWD" { value := .text path, exported := true }
  if !extended then set "PPID" (toString (p.ancestors.headD 0))
  if extended then
    fixedNumber "PPID" (toString (p.ancestors.headD 0))
    fixedNumber "UID" "0"
    fixedNumber "EUID" "0"
    let name := (← shell).name
    set "BASH" (if name.contains '/' then name else "/usr/bin/bash")
    set "BASH_VERSION" extendedVersion
    storeVariable "BASH_VERSINFO"
      { value := .list false (entriesOfTexts versionParts), fixed := true }
    set "HOSTTYPE" "x86_64"
    set "MACHTYPE" machineName
    set "OPTERR" "1"
    set "OSTYPE" "linux-gnu"
    let level := ((← lookup? "SHLVL").bind String.toNat?).getD 0
    storeVariable "SHLVL" { value := .text (toString (level + 1)), exported := true }

/-- The script in a file. -/
def scriptIn (path : String) : Run String := do
  let sh ← shell
  match ← readPath path with
  | .ok text => return text
  | .error e =>
      if sh.dialect = .extended then
        if e = .isDirectory then
          complain (path ++ ": " ++ path ++ ": Is a directory\n")
          throw (.exit 126)
        complain (sh.name ++ ": " ++ path ++ ": " ++ e.reason ++ "\n")
        throw (.exit 127)
      if e = .isDirectory then return ""
      let reason := if e = .noEntry ∨ e = .notDirectory then "No such file" else e.reason
      complain (sh.name ++ ": 0: cannot open " ++ path ++ ": " ++ reason ++ "\n")
      throw (.exit failure)

/-- Run a shell, given its arguments with its own name in front. -/
def startShell (perform : Perform) (dialect : Dialect) (arguments : List String) : Run Nat := do
  let p ← process
  let name := arguments.headD "sh"
  let path ← startingPath p.environment
  let startTime := (← tree).now
  let extended := decide (dialect = .extended)
  let last := if extended then p.environment.lookup "_" else none
  let known := p.environment.filter fun (name, _) =>
    isVariableName name && (!extended || name ≠ "_")
  modifyShell fun _ =>
    { dialect := dialect
      name := name
      arguments := []
      vars := known.map fun (name, text) => (name, { value := .text text, exported := true })
      traps := p.ignored.map fun n => (n, "")
      path := path
      number := p.number
      seed := p.number
      started := startTime
      lastWord := last.getD name
      options := if extended then ['h', 'B'] else []
      longOptions := if extended then "interactive-comments" :: usualFurther else [] }
  setUsualVariables path
  if extended then
    for (name, script) in p.environment.filterMap functionIn? do
      discard (perform (.script script 0 true false))
      let share (f : Function) : Function := { f with exported := true }
      modifyShell fun sh =>
        { sh with functions := sh.functions.map fun (other, f) =>
            (other, if other = name then share f else f) }
  endShell perform do
    let i ← takeStart (arguments.length + 1) { rest := arguments.drop 1 }
    if i.isGiven then
      match i.rest with
      | [] => refuseStart "-c: option requires an argument" "-c requires an argument"
      | text :: rest =>
          modifyShell fun sh =>
            { sh with
              name := rest.headD name, arguments := rest.drop 1, line := 1, isGiven := true }
          perform (.script text 1 false true)
    else
      match i.rest with
      | file :: rest =>
          if ← hasOption 's' then
            modifyShell fun sh => { sh with arguments := i.rest }
            standardInput perform
          else
            let text ← scriptIn file
            modifyShell fun sh =>
              { sh with name := file, arguments := rest, line := 1, source := some file }
            perform (.script text 1 false false)
      | [] =>
          setOption 's' true
          standardInput perform
where
  /-- Run the script on standard input. -/
  standardInput (perform : Perform) : Run Nat := do
    match ← readAll 0 with
    | .ok text => perform (.script text 1 false false)
    | .error _ => return 0

end ToyLang.Shell
