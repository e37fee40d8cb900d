import ToyLang.Shell.Builtin.Variable

/-!
# Commands on options

An option of a shell has a letter, or only a name.  The extended dialect has further ones, which a
command of their own sets.

## Main definitions

* `setOption`, `setNamedOption` — one option.
* `takeOptions` — options among arguments.
* `setCommand`, `shoptCommand` — the commands.
-/

namespace ToyLang.Shell

open Run

/-- Set an option or take it back. -/
def setOption (c : Char) (on : Bool) : Run Unit :=
  modifyShell fun sh =>
    let others := sh.options.filter (· ≠ c)
    { sh with options := if on then c :: others else others }

/-- Set an option that has no letter, or take it back. -/
def setLongOption (name : String) (on : Bool) : Run Unit :=
  modifyShell fun sh =>
    let others := sh.longOptions.filter (· ≠ name)
    { sh with longOptions := if on then name :: others else others }

/-- Set an option by its name; the answer says whether there is such an option. -/
def setNamedOption (name : String) (on : Bool) : Run Bool := do
  let dialect := (← shell).dialect
  match (optionNames dialect).find? fun entry => entry.2 = name with
  | some (c, _) =>
      setOption c on
      return true
  | none =>
      if !(bareOptionNames dialect).contains name then return false
      if dialect = .extended ∧ on then
        if name = "vi" then setLongOption "emacs" false
        if name = "emacs" then setLongOption "vi" false
      setLongOption name on
      return true

/-- The names of the options in the order in which they are listed. -/
def listedOptions (dialect : Dialect) : List String :=
  let names := (optionNames dialect).map Prod.snd ++ bareOptionNames dialect
  if dialect = .plain then names else names.mergeSort fun a b => decide (a ≤ b)

/-- A name with blanks behind it, up to a width. -/
def padded (width : Nat) (name : String) : String :=
  name ++ String.ofList (List.replicate (width - name.length) ' ')

/-- A line that says whether an option is set, in the extended dialect. -/
def optionLine (name : String) (on : Bool) : String :=
  padded 15 name ++ "\t" ++ (if on then "on" else "off") ++ "\n"

/-- List the options. -/
def listOptions (asCommands : Bool) : Run Unit := do
  let dialect := (← shell).dialect
  if !asCommands ∧ dialect = .plain then put "Current option settings\n"
  for name in listedOptions dialect do
    let on ← isOptionOn name
    if asCommands then put ("set " ++ (if on then "-o " else "+o ") ++ name ++ "\n")
    else if dialect = .extended then put (optionLine name on)
    else put (padded 16 name ++ (if on then "on" else "off") ++ "\n")

/-- Set options from arguments; what is left are the arguments of the script, and the flag says
whether any are to be set. -/
def takeOptions (refusal : String → Run Nat) :
    (limit : Nat) → List String → Run (Except Nat (Bool × List String))
  | 0, arguments => return .ok (false, arguments)
  | _, [] => return .ok (false, [])
  | limit + 1, argument :: rest => do
      let dialect := (← shell).dialect
      match argument.toList with
      | ['-'] => do
          setOption 'x' false
          setOption 'v' false
          return .ok (!rest.isEmpty, rest)
      | '-' :: '-' :: [] => return .ok (true, rest)
      | sign :: c :: cs =>
          if sign ≠ '-' ∧ sign ≠ '+' then return .ok (true, argument :: rest)
          let on := sign = '-'
          let mut rest := rest
          for letter in c :: cs do
            if letter = 'o' then
              match rest with
              | [] => listOptions (!on)
              | name :: more =>
                  rest := more
                  if !(← setNamedOption name on) then
                    if dialect = .extended then
                      discard (refusal (name ++ ": invalid option name"))
                      return .error failure
                    return .error
                      (← refusal ("Illegal option " ++ String.singleton sign ++ "o " ++ name))
            else if ((optionNames dialect).lookup letter).isSome then setOption letter on
            else if dialect = .extended then
              discard (refusal (String.singleton sign ++ String.singleton letter
                ++ ": invalid option"))
              return .error (← showUsage "set")
            else
              return .error (← refusal
                ("Illegal option " ++ String.singleton sign ++ String.singleton letter))
          takeOptions refusal limit rest
      | _ => return .ok (true, argument :: rest)

/-- Set options and arguments, or show the variables. -/
def setCommand (arguments : List String) : Run Nat := do
  if arguments.isEmpty then
    let extended := (← shell).dialect = .extended
    for (name, v) in ← sortedVariables do
      if extended then
        match assignedText v.value with
        | some text => put (name ++ "=" ++ text ++ "\n")
        | none => pure ()
      else
        match textOfValue v.value with
        | some s => put (name ++ "=" ++ showQuoted s ++ "\n")
        | none => pure ()
    if extended then return ← showFunctions false []
    return 0
  match ← takeOptions (refuse "set") (arguments.length + 1) arguments with
  | .error status => return status
  | .ok (given, rest) =>
      if given then modifyShell fun sh => { sh with arguments := rest }
      return 0

/-! ### Further options -/

/-- The further options of the extended dialect, and whether they are set at first. -/
def furtherOptions : List (String × Bool) :=
  [("autocd", false), ("assoc_expand_once", false), ("cdable_vars", false), ("cdspell", false),
    ("checkhash", false), ("checkjobs", false), ("checkwinsize", true), ("cmdhist", true),
    ("compat31", false), ("compat32", false), ("compat40", false), ("compat41", false),
    ("compat42", false), ("compat43", false), ("compat44", false), ("complete_fullquote", true),
    ("direxpand", false), ("dirspell", false), ("dotglob", false), ("execfail", false),
    ("expand_aliases", false), ("extdebug", false), ("extglob", false), ("extquote", true),
    ("failglob", false), ("force_fignore", true), ("globasciiranges", true),
    ("globskipdots", true), ("globstar", false), ("gnu_errfmt", false), ("histappend", false),
    ("histreedit", false), ("histverify", false), ("hostcomplete", true), ("huponexit", false),
    ("inherit_errexit", false), ("interactive_comments", true), ("lastpipe", false),
    ("lithist", false), ("localvar_inherit", false), ("localvar_unset", false),
    ("login_shell", false), ("mailwarn", false), ("no_empty_cmd_completion", false),
    ("nocaseglob", false), ("nocasematch", false), ("noexpand_translation", false),
    ("nullglob", false), ("patsub_replacement", true), ("progcomp", true),
    ("progcomp_alias", false), ("promptvars", true), ("restricted_shell", false),
    ("shift_verbose", false), ("sourcepath", true), ("varredir_close", false),
    ("xpg_echo", false)]

/-- The further options that are set at first. -/
def usualFurther : List String := (furtherOptions.filter Prod.snd).map Prod.fst

/-- Set or show the further options, or those that the other command sets. -/
def shoptCommand (arguments : List String) : Run Nat := do
  match takeLetters ['s', 'u', 'p', 'q', 'o'] arguments with
  | .error c => refuseOption "shopt" c
  | .ok (flags, names) =>
      let has (c : Char) : Bool := flags.contains c
      if has 's' && has 'u' then
        return ← refuse "shopt" "cannot set and unset shell options simultaneously"
      let known := if has 'o' then listedOptions .extended else furtherOptions.map Prod.fst
      let isOn (name : String) : Run Bool := do
        if has 'o' then isOptionOn name else return (← shell).longOptions.contains name
      let setTo (name : String) (on : Bool) : Run Unit := do
        if has 'o' then discard (setNamedOption name on) else setLongOption name on
      let line (name : String) (on : Bool) : String :=
        if has 'p' then
          if has 'o' then "set " ++ (if on then "-o " else "+o ") ++ name ++ "\n"
          else "shopt " ++ (if on then "-s " else "-u ") ++ name ++ "\n"
        else optionLine name on
      if names.isEmpty then
        for name in known do
          let on ← isOn name
          if (!has 's' || on) && (!has 'u' || !on) then put (line name on)
        return 0
      let mut status := 0
      for name in names do
        if !known.contains name then
          status ← refuse "shopt" (name ++ ": invalid shell option name")
        else if has 's' then setTo name true
        else if has 'u' then setTo name false
        else
          let on ← isOn name
          if !has 'q' then put (line name on)
          if !on then status := 1
      return status

end ToyLang.Shell
