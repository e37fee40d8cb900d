import ToyLang.Shell.Quote
import ToyLang.Shell.State

/-!
# Commands on variables

## Main definitions

* `exportCommand`, `readonlyCommand` — marks of variables.
* `declareCommand` — variables and their marks, in the extended dialect.
* `unsetCommand`, `shiftCommand`, `aliasCommand` — variables, functions, arguments and aliases.
-/

namespace ToyLang.Shell

open Run

/-! ### Words of commands -/

/-- A text in single quotes, as the standard shell shows variables. -/
def showQuoted (text : String) : String :=
  "'" ++ "'\"'\"'".intercalate (text.splitOn "'") ++ "'"

/-- An argument that may assign: the name, whether it appends, and the text. -/
structure Argument where
  name : String
  append : Bool := false
  text : Option String := none

/-- The parts of an argument that may assign. -/
def splitArgument (extended : Bool) (argument : String) : Argument :=
  let name := argument.toList.takeWhile (· ≠ '=')
  match argument.toList.drop name.length, name.reverse with
  | [], _ => { name := argument }
  | _ :: value, '+' :: before =>
      if extended then
        { name := String.ofList before.reverse, append := true, text := some (String.ofList value) }
      else { name := String.ofList name, text := some (String.ofList value) }
  | _ :: value, _ => { name := String.ofList name, text := some (String.ofList value) }

/-- The variables of a shell, sorted by their names. -/
def sortedVariables : Run (List (String × Variable)) := do
  return (← shell).vars.mergeSort fun a b => decide (a.1 ≤ b.1)

/-- How a command of the extended shell is used. -/
def usageOf (name : String) : String :=
  match name with
  | "declare" =>
      "declare [-aAfFgiIlnrtux] [name[=value] ...] or declare -p [-aAfFilnrtux] [name ...]"
  | "typeset" =>
      "typeset [-aAfFgiIlnrtux] name[=value] ... or typeset -p [-aAfFilnrtux] [name ...]"
  | "local" => "local [option] name[=value] ..."
  | "export" => "export [-fn] [name[=value] ...] or export -p"
  | "readonly" => "readonly [-aAf] [name[=value] ...] or readonly -p"
  | "unset" => "unset [-f] [-v] [-n] [name ...]"
  | "unalias" => "unalias [-a] name [name ...]"
  | "alias" => "alias [-p] [name[=value] ... ]"
  | "enable" => "enable [-a] [-dnps] [-f filename] [name ...]"
  | "caller" => "caller [expr]"
  | "type" => "type [-afptP] name [name ...]"
  | "cd" => "cd [-L|[-P [-e]] [-@]] [dir]"
  | "pwd" => "pwd [-LP]"
  | "pushd" => "pushd [-n] [+N | -N | dir]"
  | "popd" => "popd [-n] [+N | -N]"
  | "dirs" => "dirs [-clpv] [+N] [-N]"
  | "umask" => "umask [-p] [-S] [mode]"
  | "ulimit" => "ulimit [-SHabcdefiklmnpqrstuvxPRT] [limit]"
  | "hash" => "hash [-lr] [-p pathname] [-dt] [name ...]"
  | "shopt" => "shopt [-pqsu] [-o] [optname ...]"
  | "set" => "set [-abefhkmnptuvxBCEHPT] [-o option-name] [--] [-] [arg ...]"
  | "mapfile" | "readarray" =>
      name ++ " [-d delim] [-n count] [-O origin] [-s count] [-t] [-u fd] [-C callback] "
        ++ "[-c quantum] [array]"
  | "read" =>
      "read [-ers] [-a array] [-d delim] [-i text] [-n nchars] [-N nchars] [-p prompt] "
        ++ "[-t timeout] [-u fd] [name ...]"
  | "command" => "command [-pVv] command [arg ...]"
  | "jobs" => "jobs [-lnprs] [jobspec ...] or jobs -x command [args]"
  | "wait" => "wait [-fn] [-p var] [id ...]"
  | "disown" => "disown [-h] [-ar] [jobspec ... | pid ...]"
  | "trap" => "trap [-lp] [[arg] signal_spec ...]"
  | "printf" => "printf [-v var] format [arguments]"
  | "getopts" => "getopts optstring name [arg ...]"
  | "source" => "source filename [arguments]"
  | "." => ". filename [arguments]"
  | "exec" => "exec [-cl] [-a name] [command [argument ...]] [redirection ...]"
  | name => name

/-- Show how a command of the extended shell is used, and give the status of a failure. -/
def showUsage (name : String) : Run Nat := do
  complain (name ++ ": usage: " ++ usageOf name ++ "\n")
  return failure

/-- Refuse an option. -/
def refuseOption (name : String) (c : Char) : Run Nat := do
  if (← shell).dialect = .extended then
    discard (refuse name ("-" ++ String.singleton c ++ ": invalid option"))
    showUsage name
  else refuse name ("Illegal option -" ++ String.singleton c)

/-- The options of a command, which are letters, and what is left.  The first letter that is not
an option is given instead. -/
def takeLetters (known : List Char) : List String → Except Char (List Char × List String)
  | [] => .ok ([], [])
  | argument :: rest =>
      match argument.toList with
      | ['-', '-'] => .ok ([], rest)
      | '-' :: c :: cs =>
          match (c :: cs).find? fun c => !known.contains c with
          | some c => .error c
          | none => (takeLetters known rest).map fun (more, rest) => (c :: cs ++ more, rest)
      | _ => .ok ([], argument :: rest)

/-- Refuse a name. -/
def refuseName (command argument : String) : Run Nat := do
  if (← shell).dialect = .extended then
    refuse command ("\x60" ++ argument ++ "': not a valid identifier")
  else refuse command (argument ++ ": bad variable name")

/-! ### Exporting and fixing -/

/-- Show the variables of a kind. -/
def showVariables (command : String) (shown : Variable → Bool) : Run Nat := do
  let extended := (← shell).dialect = .extended
  for (name, v) in ← sortedVariables do
    if shown v then
      if extended then put (declaration name v ++ "\n")
      else
        let text := match textOfValue v.value with
          | some s => "=" ++ showQuoted s
          | none => ""
        put (command ++ " " ++ name ++ text ++ "\n")
  return 0

/-- Assign what an argument says. -/
def assignArgument (a : Argument) : Run Unit := do
  match a.text with
  | none => pure ()
  | some text =>
      let v := (← varOf? a.name).getD { value := .unset }
      let full ← if a.append then
          (if v.isNumber then do
            let old ← numberOfText ((← lookup? a.name).getD "")
            pure (toString (old + (← numberOfText text)))
          else do pure ((← lookup? a.name).getD "" ++ text))
        else pure text
      assign a.name full

/-- Change variables, which may be assigned on the way. -/
def markCommand (command : String) (change : Variable → Variable) (arguments : List String) :
    Run Nat := do
  let extended := decide ((← shell).dialect = .extended)
  let mut status := 0
  for argument in arguments do
    let a := splitArgument extended argument
    if !isVariableName a.name then
      status ← refuseName command (if extended then argument else a.name)
    else
      let worked ←
        try
          assignArgument a
          pure true
        catch e =>
          match extended, e with
          | true, .failed _ => pure false
          | _, e => throw e
      if worked then
        let base := (← aim a.name).1
        let v := (← itself? base).getD { value := .unset }
        storeVariable base (change v)
      else status := 1
  return status

/-- Mark functions. -/
def markFunctions (command : String) (change : Function → Function) (names : List String) :
    Run Nat := do
  let mut status := 0
  for name in names do
    match (← shell).functions.lookup name with
    | some f =>
        modifyShell fun sh => { sh with functions := sh.functions.map fun entry =>
          if entry.1 = name then (name, change f) else entry }
    | none => status ← refuse command (name ++ ": not a function")
  return status

/-- Make variables visible to programs. -/
def exportCommand (arguments : List String) : Run Nat := do
  let extended := (← shell).dialect = .extended
  match takeLetters (if extended then ['f', 'n', 'p'] else ['p']) arguments with
  | .error c => refuseOption "export" c
  | .ok (letters, names) =>
      let on := !letters.contains 'n'
      if letters.contains 'f' then
        markFunctions "export" (fun f => { f with exported := on }) names
      else if names.isEmpty then showVariables "export" fun v => v.exported
      else markCommand "export" (fun v => { v with exported := on }) names

/-- Keep variables from being changed. -/
def readonlyCommand (arguments : List String) : Run Nat := do
  let extended := (← shell).dialect = .extended
  match takeLetters (if extended then ['a', 'A', 'f', 'p'] else ['p']) arguments with
  | .error c => refuseOption "readonly" c
  | .ok (letters, names) =>
      if letters.contains 'f' then markFunctions "readonly" id names
      else if names.isEmpty then showVariables "readonly" fun v => v.fixed
      else markCommand "readonly" (fun v => { v with fixed := true }) names

/-! ### Declaring -/

/-- What a declaration asks for. -/
structure Declaring where
  command : String
  /-- The letters of the marks to set, and of those to take away. -/
  on : List Char := []
  off : List Char := []
  names : List String := []

/-- The letters that a declaration knows. -/
def declaringLetters : List Char := "aAcfFgiIlnprtux".toList

/-- Take the options of a declaration. -/
def takeDeclaring (command : String) : List String → Declaring → Except Char Declaring
  | [], d => .ok { d with command := command }
  | argument :: rest, d =>
      match argument.toList with
      | ['-', '-'] => .ok { d with command := command, names := rest }
      | sign :: c :: cs =>
          if sign ≠ '-' ∧ sign ≠ '+' then
            .ok { d with command := command, names := argument :: rest }
          else match (c :: cs).find? fun c => !declaringLetters.contains c with
            | some c => .error c
            | none =>
                takeDeclaring command rest
                  (if sign = '-' then { d with on := d.on ++ (c :: cs) }
                  else { d with off := d.off ++ (c :: cs) })
      | _ => .ok { d with command := command, names := argument :: rest }

/-- Show functions: what they do, or only their names. -/
def showFunctions (bare : Bool) (names : List String) : Run Nat := do
  let sh ← shell
  if names.isEmpty then
    for (name, f) in sh.functions.mergeSort fun a b => decide (a.1 ≤ b.1) do
      put (if bare then "declare -f " ++ name ++ "\n" else printedFunction name f.body)
    return 0
  let mut status := 0
  for name in names do
    match sh.functions.lookup name with
    | some f => put (if bare then name ++ "\n" else printedFunction name f.body)
    | none => status := 1
  return status

/-- Whether a variable has the marks with some letters. -/
def hasMarks (v : Variable) (marks : List Char) : Bool :=
  (marks.filter fun c => "aAilnrtux".toList.contains c).all (letters v).toList.contains

/-- Show variables as declarations. -/
def showDeclarations (d : Declaring) : Run Nat := do
  if d.names.isEmpty then
    let sh ← shell
    let here := match d.command, sh.frames with
      | "local", frame :: _ => some (frame.map Prod.fst)
      | _, _ => none
    for (name, v) in ← sortedVariables do
      if hasMarks v d.on ∧ here.all (·.contains name) then put (declaration name v ++ "\n")
    return 0
  let mut status := 0
  for name in d.names do
    match ← itself? name with
    | some v => put (declaration name v ++ "\n")
    | none =>
        match ← ownValue? name with
        | some value => put (declaration name { value := value } ++ "\n")
        | none => status ← refuse d.command (name ++ ": not found")
  return status

/-- A variable with other marks. -/
def remarked (d : Declaring) (v : Variable) : Variable :=
  let on (c : Char) : Bool := d.on.contains c
  let off (c : Char) : Bool := d.off.contains c
  let value := match v.value with
    | .list keyed entries => Value.list keyed entries
    | .text s =>
        if on 'A' then .list true [("0", s)] else if on 'a' then .list false [("0", s)]
        else .text s
    | .unset => if on 'A' then .list true [] else if on 'a' then .list false [] else .unset
  { v with
    value := value
    isBare := v.isBare || (v.value matches .unset)
    isNumber := (v.isNumber || on 'i') && !off 'i'
    exported := (v.exported || on 'x') && !off 'x'
    isTraced := (v.isTraced || on 't') && !off 't'
    upper := if on 'u' then some true else if on 'l' then some false
      else if off 'u' ∨ off 'l' then none else v.upper }

/-- Why the marks of a variable cannot be changed, if they cannot. -/
def markTrouble? (d : Declaring) (name : String) (v : Variable) (assigns : Bool) :
    Option String :=
  if d.off.contains 'r' ∧ v.fixed then some (name ++ ": readonly variable")
  else if v.fixed ∧ assigns then some (name ++ ": readonly variable")
  else match v.value with
    | .list keyed _ =>
        if d.off.contains 'a' ∨ d.off.contains 'A' then
          some (name ++ ": cannot destroy array variables in this way")
        else if d.on.contains 'A' ∧ !keyed then
          some (name ++ ": cannot convert indexed to associative array")
        else if d.on.contains 'a' ∧ keyed then
          some (name ++ ": cannot convert associative to indexed array")
        else none
    | _ => none

/-- Store a variable as the one that all functions see which have none of their own. -/
def storeOutside (name : String) (v : Variable) : Run Unit := do
  let frames := (← shell).frames
  let outer := (frames.zipIdx.filter fun f => (f.1.lookup name).isSome).getLast?
  match outer with
  | none => storeVariable name v
  | some (_, place) =>
      let changed (frame : List (String × Option Variable)) : List (String × Option Variable) :=
        frame.map fun entry => if entry.1 = name then (name, some v) else entry
      modifyShell fun sh => { sh with frames := sh.frames.modify place changed }

/-- Declare one variable. -/
def declareOne (d : Declaring) (isLocal : Bool) (argument : String) : Run Nat := do
  let a := splitArgument true argument
  let (name, index) := splitIndexed a.name
  if !isVariableName name then return ← refuseName d.command argument
  if isLocal then
    let old ← itself? name
    if old.any (·.fixed) ∧ (((← shell).frames.head?).bind fun f => f.lookup name).isNone then
      return ← refuse d.command (name ++ ": readonly variable")
    if ← keepLocal name then
      storeVariable name { value := .unset, exported := old.any (·.exported) }
  let refers := d.on.contains 'n'
  if refers ∨ d.off.contains 'n' then
    let v := (← itself? name).getD { value := .unset }
    let target := a.text <|> textOfValue v.value
    if refers ∧ target = some name then
      return ← refuse d.command (name ++ ": nameref variable self references not allowed")
    let value := match target with
      | some s => Value.text s
      | none => .unset
    storeVariable name { v with value := value, isReference := refers }
    return 0
  let (base, _) ← if isLocal then pure (name, none) else aim name
  if d.on.contains 'g' ∧ !(← shell).frames.isEmpty then
    match a.text with
    | some text =>
        let v := remarked d { value := .unset }
        let text ← Variable.accept v text
        storeOutside base { v with value := .text text, fixed := d.on.contains 'r' }
        return 0
    | none => pure ()
  let v := (← itself? base).getD { value := .unset }
  match markTrouble? d base v a.text.isSome with
  | some text => refuse d.command text
  | none =>
      let new := remarked d v
      let new := if index.isSome ∧ !(new.value matches .list _ _) then
          remarked { d with on := ['a'] } new
        else new
      storeVariable base new
      match index, a.text with
      | some index, some text => assignAt base index text
      | _, _ => assignArgument { a with name := base }
      if d.on.contains 'c' then
        let text := (← lookup? base).getD ""
        match (Text.widen text).toList with
        | c :: cs =>
            storeText base (Text.narrow (String.ofList (Text.upper c :: cs.map Text.lower)))
        | [] => pure ()
      if d.on.contains 'r' then
        let v := (← itself? base).getD { value := .unset }
        storeVariable base { v with fixed := true }
      return 0

/-- Declare variables, in the extended dialect. -/
def declareCommand (command : String) (arguments : List String) : Run Nat := do
  match takeDeclaring command arguments { command := command } with
  | .error c => refuseOption command c
  | .ok d =>
      if d.on.contains 'f' ∨ d.on.contains 'F' then
        if d.names.isEmpty ∨ !d.on.contains 'x' then
          return ← showFunctions (d.on.contains 'F') d.names
        return ← markFunctions command (fun f => { f with exported := true }) d.names
      if d.on.contains 'p' then return ← showDeclarations d
      if d.names.isEmpty then
        if d.on.isEmpty ∧ d.off.isEmpty ∧ command ≠ "local" then
          for (name, v) in ← sortedVariables do
            match assignedText v.value with
            | some text => put (name ++ "=" ++ text ++ "\n")
            | none => pure ()
          return ← showFunctions false []
        return ← showDeclarations d
      let isLocal := !(← shell).frames.isEmpty && !d.on.contains 'g'
      let mut status := 0
      for argument in d.names do
        if (← declareOne d isLocal argument) ≠ 0 then status := 1
      return status

/-- Make variables local to the function that runs. -/
def localCommand (arguments : List String) : Run Nat := do
  let sh ← shell
  if sh.dialect = .extended then
    if !sh.callers.any (·.isFunction) then
      return ← refuse "local" "can only be used in a function"
    return ← declareCommand "local" arguments
  if sh.frames.isEmpty then return ← refuse "local" "not in a function"
  for argument in arguments do
    if argument.startsWith "-" then pure ()
    else
      let a := splitArgument false argument
      if !isVariableName a.name then
        return ← refuse "local" (a.name ++ ": bad variable name")
      discard (keepLocal a.name)
      match a.text with
      | some text => assign a.name text
      | none => pure ()
  return 0

/-! ### Forgetting -/

/-- Forget a function. -/
def forgetFunction (name : String) : Run Unit :=
  modifyShell fun sh =>
    { sh with functions := sh.functions.filter fun entry => entry.1 ≠ name }

/-- Forget a variable, or a place in a list, in the extended dialect; a function of the name is
forgotten if there is no such variable, and the flag does not forbid that. -/
def unsetExtended (onlyVariables : Bool) (name : String) : Run Nat := do
  match splitIndexed name with
  | (base, some index) =>
      if !isVariableName base then
        if onlyVariables then return ← refuseName "unset" name
        return 0
      let base := (← aim base).1
      match ← itself? base with
      | none => return 0
      | some v =>
          if v.fixed then return ← refuse "unset" (base ++ ": cannot unset: readonly variable")
          if v.value matches .list _ _ then
            if index = "@" ∨ index = "*" then
              forget base
              return 0
            if ← forgetAt base index then return 0
            return ← refuse "unset" ("[" ++ index ++ "]: bad array subscript")
          if (← placeOf? base index) = some "0" then
            forget base
            return 0
          refuse "unset" (base ++ ": not an array variable")
  | (_, none) =>
      if !isVariableName name then
        if onlyVariables then return ← refuseName "unset" name
        forgetFunction name
        return 0
      match ← varOf? name with
      | none =>
          if !onlyVariables then forgetFunction name
          return 0
      | some v =>
          if v.fixed then return ← refuse "unset" (name ++ ": cannot unset: readonly variable")
          unsetVariable name
          return 0

/-- Forget variables or functions. -/
def unsetCommand (arguments : List String) : Run Nat := do
  let extended := (← shell).dialect = .extended
  match takeLetters (if extended then ['f', 'v', 'n'] else ['f', 'v']) arguments with
  | .error c => refuseOption "unset" c
  | .ok (letters, names) =>
      let mut status := 0
      for name in names do
        if letters.contains 'f' then forgetFunction name
        else if letters.contains 'n' then forget name
        else if extended then
          if (← unsetExtended (letters.contains 'v') name) ≠ 0 then status := 1
        else if isVariableName name then unsetVariable name
        else return ← refuse "unset" (name ++ ": bad variable name")
      return status

/-! ### Arguments -/

/-- Drop the first arguments of the script. -/
def shiftCommand (arguments : List String) : Run Nat := do
  let sh ← shell
  let extended := decide (sh.dialect = .extended)
  let count : Except Nat Nat ← match arguments with
    | [] => pure (.ok 1)
    | text :: _ =>
        if extended then
          match text.toInt? with
          | some n =>
              if n < 0 then
                pure (.error (← refuse "shift" (text ++ ": shift count out of range")))
              else pure (.ok n.toNat)
          | none => pure (.error (← refuse "shift" (text ++ ": numeric argument required")))
        else match plainNumber? text with
          | some n => pure (.ok n)
          | none => pure (.error (← refuse "shift" ("Illegal number: " ++ text)))
  match count with
  | .error status => return status
  | .ok n =>
      if sh.arguments.length < n then
        if extended then return 1
        refuse "shift" "can't shift that many"
      else
        modifyShell fun sh => { sh with arguments := sh.arguments.drop n }
        return 0

/-! ### Aliases -/

/-- The place at which the standard shell keeps an alias. -/
def aliasPlace (name : String) : Nat :=
  match name.toList with
  | [] => 0
  | c :: cs => (cs.foldl (fun n c => n + c.toNat) (17 * c.toNat)) % 39

/-- Show an alias. -/
def showAlias (name text : String) : Run Unit := do
  if (← shell).dialect = .extended then
    put ("alias " ++ name ++ "=" ++ singleQuoted text ++ "\n")
  else put (name ++ "=" ++ showQuoted text ++ "\n")

/-- Let words stand for other text. -/
def aliasCommand (arguments : List String) : Run Nat := do
  let extended := decide ((← shell).dialect = .extended)
  let arguments := if extended ∧ arguments.head? = some "-p" then arguments.drop 1 else arguments
  if arguments.isEmpty then
    let ordered := (← shell).aliases.reverse.mergeSort fun a b =>
      if extended then decide (a.1 ≤ b.1) else decide (aliasPlace a.1 ≤ aliasPlace b.1)
    for (name, text) in ordered do
      showAlias name text
    return 0
  let mut status := 0
  for argument in arguments do
    match splitArgument false argument with
    | { name := name, text := some text, .. } =>
        if extended ∧ name.toList.any fun c => endsWord c || c = '/' || c = '$' then
          status ← refuse "alias" ("\x60" ++ name ++ "': invalid alias name")
        else
          modifyShell fun sh =>
            { sh with aliases := (name, text) :: sh.aliases.filter fun entry => entry.1 ≠ name }
    | { name := name, .. } =>
        match (← shell).aliases.lookup name with
        | some text => showAlias name text
        | none =>
            if extended then status ← refuse "alias" (name ++ ": not found")
            else
              complain ("alias: " ++ name ++ " not found\n")
              status := 1
  return status

/-- Forget aliases. -/
def unaliasCommand (arguments : List String) : Run Nat := do
  let extended := decide ((← shell).dialect = .extended)
  if arguments.isEmpty ∧ extended then return ← showUsage "unalias"
  if arguments.head? = some "-a" then
    modifyShell fun sh => { sh with aliases := [] }
    return 0
  let mut status := 0
  for name in arguments do
    if ((← shell).aliases.lookup name).isSome then
      modifyShell fun sh => { sh with aliases := sh.aliases.filter fun entry => entry.1 ≠ name }
    else if extended then status ← refuse "unalias" (name ++ ": not found")
    else
      complain ("unalias: " ++ name ++ " not found\n")
      status := 1
  return status

end ToyLang.Shell
