import ToyLang.Process.Machine
import ToyLang.Shell.Arithmetic
import ToyLang.Text.LetterCase

/-!
# Variables and complaints

What a shell remembers by name, and how it complains.

## Main definitions

* `Task`, `Perform` — what running a part of a script may ask for.
* `fail`, `warn` — complaints.
* `lookup?`, `assign` — variables.
* `refuse` — a complaint of a builtin command.
* `wholeNumber?`, `plainNumber?` — the number that a text is, or an argument of a command.
-/

namespace ToyLang.Shell

open Run

/-- What is to be run. -/
inductive Task where
  /-- A command in this shell; the flags say that its failure is looked at, and that nothing is
  done behind it. -/
  | command (c : Command) (tested last : Bool)
  /-- A text as a script in this shell, with the number of its first line. -/
  | script (text : String) (line : Nat) (tested last : Bool)
  /-- A program in this process: what it is, and its arguments with its own name in front. -/
  | program (kind : String) (arguments : List String)
  /-- The job with a number. -/
  | job (number : Nat)

/-- A way to run things. -/
abbrev Perform := Task → Run Nat

/-! ### Complaints -/

/-- The name under which a shell complains: that of the script which holds what runs. -/
def blamedName (sh : ToyLang.Shell) : String :=
  match sh.dialect with
  | .plain => sh.name
  | .extended => (sh.callers.head?.map Caller.source).getD sh.name

/-- What a complaint of the shell begins with.  The standard shell also names the builtin command
that runs. -/
def blame (line : Nat) : Run String := do
  let sh ← shell
  if sh.dialect = .extended then return blamedName sh ++ ": line " ++ toString line ++ ": "
  let command := match sh.command with
    | some name => name ++ ": "
    | none => ""
  return sh.name ++ ": " ++ toString line ++ ": " ++ command

/-- Complain, and go on. -/
def warn (text : String) : Run Unit := do
  complain ((← blame (← shell).line) ++ text ++ "\n")

/-- The status of a shell that gives up. -/
def failure : Nat := 2

/-- Complain, and give up. -/
def fail {α : Type} (text : String) : Run α := do
  warn text
  throw (.failed (if (← shell).dialect = .extended then 1 else failure))

/-! ### Processes of a shell -/

/-- The signals whose effect on a process is not worth a word. -/
def unnoticed : List Nat := [2, Signal.brokenPipe]

/-- The signal that ends the shell, if it has arrived. -/
def deadlySignal? : Run (Option Nat) := do
  let m ← get
  let isHeld (signal : Nat) : Bool :=
    Signal.harmless.contains signal || m.process.ignored.contains signal
      || (m.shell.traps.lookup signal).isSome
  let isDeadly (entry : Nat × Nat) : Bool :=
    entry.1 = m.process.number && (Signal.uncaught.contains entry.2 || !isHeld entry.2)
  return (m.sent.find? isDeadly).map Prod.snd

/-- Say how a process ended that this shell has waited for, if a signal has ended it.  A shell that
the signal has reached too is ended by it. -/
def noticeEnding : Ending → Run Unit
  | .exited _ => pure ()
  | .signalled signal => do
      match ← deadlySignal? with
      | some deadly => throw (.killed deadly)
      | none => pure ()
      if unnoticed.contains signal then return
      if (← shell).dialect = .extended then
        complain ((← blame (← shell).line) ++ toString ((← get).lastProcess) ++ " "
          ++ Signal.description signal ++ "\n")
      else complain (Signal.description signal ++ "\n")

/-- Run the jobs that wait. -/
def runJobs (perform : Perform) : Run Unit := do
  for j in (← get).jobs do
    if j.ending.isNone then discard (perform (.job j.number))

/-- An open file that holds nothing. -/
def openNullInput : Run (Option Nat) := do
  match ← openPath "/dev/null" .reading with
  | .ok index => return some index
  | .error _ => return none

/-- Put a command aside as a job with some streams, and give its number. -/
def startJob (c : Command) (listed : Bool) (streams : List (Nat × Option Nat)) : Run Nat := do
  let m ← get
  let number := m.lastProcess + 1
  let changed := streams.filterMap fun (k, index) => index.map fun index => (k, index)
  let kept := m.process.streams.filter fun s => !streams.any fun t => t.1 = s.1
  let process :=
    { m.process with
      number := number
      ancestors := m.process.number :: m.process.ancestors
      streams := changed ++ kept }
  let shell := { m.shell with level := m.shell.level + 1 }
  let slots := (m.jobs.filter Job.isListed).map Job.slot
  let slot := match m.shell.dialect with
    | .plain => ((List.range (slots.length + 1)).map (· + 1)).find? (!slots.contains ·)
    | .extended => some (slots.foldl max 0 + 1)
  let job : Job :=
    { number := number
      slot := slot.getD 1
      process := process
      shell := shell
      command := c
      isListed := listed }
  modify fun m =>
    { m with
      lastProcess := number
      jobs := m.jobs ++ [job]
      shell := { m.shell with lastJob := some number } }
  return number

/-! ### What a shell knows by itself -/

/-- The entries of a list in their order. -/
def entriesOfTexts (texts : List String) : List (String × String) :=
  texts.zipIdx.map fun (text, i) => (toString i, text)

/-- The step of the sequence of random numbers. -/
def nextSeed (seed : Nat) : Nat :=
  let seed := if seed = 0 then 123459876 else seed
  16807 * seed % 0x7fffffff

/-- The random number that a seed stands for. -/
def randomOf (seed : Nat) : Nat := ((seed / 0x10000) ^^^ (seed % 0x10000)) % 0x8000

/-- The callers of what runs, with the script itself behind them. -/
def callChain (sh : ToyLang.Shell) : List Caller :=
  sh.callers ++ match sh.source with
    | some path => [⟨"main", 0, path, false⟩]
    | none => []

/-- The letters of the options with their names. -/
def optionNames : Dialect → List (Char × String)
  | .plain =>
      [('e', "errexit"), ('f', "noglob"), ('I', "ignoreeof"), ('i', "interactive"), ('m', "monitor"),
        ('n', "noexec"), ('s', "stdin"), ('x', "xtrace"), ('v', "verbose"), ('V', "vi"),
        ('E', "emacs"), ('C', "noclobber"), ('a', "allexport"), ('b', "notify"), ('u', "nounset"),
        ('p', "privileged")]
  | .extended =>
      [('a', "allexport"), ('B', "braceexpand"), ('e', "errexit"), ('E', "errtrace"),
        ('T', "functrace"), ('h', "hashall"), ('H', "histexpand"), ('k', "keyword"),
        ('m', "monitor"), ('C', "noclobber"), ('n', "noexec"), ('f', "noglob"), ('b', "notify"),
        ('u', "nounset"), ('t', "onecmd"), ('P', "physical"), ('p', "privileged"),
        ('v', "verbose"), ('x', "xtrace")]

/-- The names of the options that have no letter. -/
def bareOptionNames : Dialect → List String
  | .plain => ["nolog", "debug"]
  | .extended => ["emacs", "history", "ignoreeof", "interactive-comments", "nolog", "pipefail",
      "posix", "vi"]

/-- The names of the options that are set, of those with a command of their own or of the others. -/
def namedOptions (sh : ToyLang.Shell) (further : Bool) : String :=
  let known := (optionNames sh.dialect).filter fun entry => sh.options.contains entry.1
  let (bare, others) := sh.longOptions.partition (bareOptionNames sh.dialect).contains
  let found := if further then others else known.map Prod.snd ++ bare
  ":".intercalate (found.mergeSort fun a b => decide (a ≤ b))

/-- A number of nanoseconds in seconds. -/
def secondsOf (nanoseconds : Int) : Int := nanoseconds / (tenTo 9 : Nat)

/-- What the extended shell knows by itself under a name. -/
def ownValue? (name : String) : Run (Option Value) := do
  let sh ← shell
  let text (s : String) : Run (Option Value) := return some (.text s)
  let list (texts : List String) : Run (Option Value) :=
    return some (.list false (entriesOfTexts texts))
  match name with
  | "LINENO" => text (toString sh.line)
  | "SECONDS" => text (toString (secondsOf ((← tree).now - sh.started)))
  | "EPOCHSECONDS" => text (toString (secondsOf (← tree).now))
  | "RANDOM" =>
      let seed := nextSeed sh.seed
      modifyShell fun sh => { sh with seed := seed }
      text (toString (randomOf seed))
  | "FUNCNAME" =>
      if sh.callers.any Caller.isFunction then list ((callChain sh).map Caller.name) else return none
  | "BASH_SOURCE" => list ((callChain sh).map Caller.source)
  | "BASH_LINENO" => list ((callChain sh).map fun c => toString c.line)
  | "BASH_COMMAND" => text sh.written
  | "BASHPID" => text (toString (← process).number)
  | "BASH_SUBSHELL" => text (toString sh.level)
  | "BASH_ARGV0" => text sh.name
  | "DIRSTACK" => list (sh.path :: sh.folders)
  | "PIPESTATUS" => list (sh.pipeStatuses.map toString)
  | "GROUPS" => list ["0"]
  | "SHELLOPTS" => text (namedOptions sh false)
  | "BASHOPTS" => text (namedOptions sh true)
  | "_" => text sh.lastWord
  | _ => return none

/-! ### Variables -/

/-- The first text of a list. -/
def firstOf (entries : List (String × String)) : Option String := entries.lookup "0"

/-- The text of a value; that of a list is its first one. -/
def textOfValue : Value → Option String
  | .unset => none
  | .text s => some s
  | .list _ entries => firstOf entries

/-- The name and the index that a text spells. -/
def splitIndexed (text : String) : String × Option String :=
  let base := text.toList.takeWhile (· ≠ '[')
  match (text.toList.drop base.length).reverse with
  | ']' :: index => (String.ofList base, some (String.ofList (index.reverse.drop 1)))
  | _ => (text, none)

/-- How many references may follow one another. -/
def longestChain : Nat := 8

/-- Where a name leads past references: to a variable, or to a place in a list. -/
def aimWithin : (steps : Nat) → (name : String) → Run (String × Option String)
  | 0, name => return (name, none)
  | steps + 1, name => do
      match (← shell).vars.lookup name with
      | some { isReference := true, value := .text target, .. } =>
          match splitIndexed target with
          | (base, some index) => return (base, some index)
          | (base, none) => aimWithin steps base
      | _ => return (name, none)

/-- Where a name leads past references. -/
def aim (name : String) : Run (String × Option String) := aimWithin longestChain name

/-- The variable itself that has a name. -/
def itself? (name : String) : Run (Option Variable) := return (← shell).vars.lookup name

/-- The variable that a name leads to. -/
def varOf? (name : String) : Run (Option Variable) := do
  itself? (← aim name).1

/-- The value that a name leads to, as a list has it: whether it has names for indices, and its
entries. -/
def entriesOf (name : String) : Run (Bool × List (String × String)) := do
  let value ← match (← itself? name).map Variable.value with
    | some value => pure (some value)
    | none => if (← shell).dialect = .extended then ownValue? name else pure none
  match value with
  | some (.list keyed entries) => return (keyed, entries)
  | some (.text s) => return (false, [("0", s)])
  | _ => return (false, [])

/-- Store a variable; a new one comes last. -/
def storeVariable (name : String) (v : Variable) : Run Unit :=
  modifyShell fun sh =>
    let known := sh.vars.any fun entry => entry.1 = name
    { sh with vars :=
        if known then sh.vars.map fun entry => if entry.1 = name then (name, v) else entry
        else sh.vars ++ [(name, v)] }

/-- The variable itself to change, if it may be. -/
def changeable (name : String) : Run Variable := do
  let v := (← itself? name).getD { value := .unset }
  if v.fixed then
    if (← shell).dialect = .extended then fail (name ++ ": readonly variable")
    else fail (name ++ ": is read only")
  return v

/-- The place at which a list keeps the entry of a name. -/
def keyPlace (name : String) : Nat :=
  let mixed := name.toList.foldl
    (fun (h : UInt32) c => (h * 16777619) ^^^ UInt32.ofNat c.toNat) 2166136261
  mixed.toNat % 1024

/-- Order the entries of a list by their indices, which may be names. -/
def sortEntries (keyed : Bool) (entries : List (String × String)) : List (String × String) :=
  let place (e : String × String) : Nat := if keyed then keyPlace e.1 else e.1.toNat?.getD 0
  entries.mergeSort fun a b => decide (place a ≤ place b)

/-- Entries with a text at a place. -/
def placeEntry (keyed : Bool) (entries : List (String × String)) (place text : String) :
    List (String × String) :=
  if entries.any fun e => e.1 = place then
    entries.map fun e => if e.1 = place then (place, text) else e
  else if !keyed && (entries.getLast?.bind fun e => e.1.toNat?).all fun last =>
      decide (last < place.toNat?.getD 0) then entries ++ [(place, text)]
  else sortEntries keyed ((place, text) :: entries)

/-- Do what comes with a new text of some variables of the shell itself. -/
def noteAssigned (name text : String) : Run Unit := do
  match name with
  | "OPTIND" =>
      modifyShell fun sh =>
        { sh with optionPlace := 0, optionNext := max 1 (text.toNat?.getD 1) }
  | "PATH" => modifyShell fun sh => { sh with known := [] }
  | "RANDOM" => modifyShell fun sh => { sh with seed := text.toNat?.getD 0 }
  | "SECONDS" =>
      let start : Int := (tenTo 9 : Nat) * (text.toInt?.getD 0)
      let now := (← tree).now
      modifyShell fun sh => { sh with started := now - start }
  | _ => pure ()

/-- The variables of the extended shell that keep their own values. -/
def selfMade : List String :=
  ["RANDOM", "SECONDS", "LINENO", "FUNCNAME", "BASH_SOURCE", "BASH_LINENO", "BASHPID",
    "BASH_SUBSHELL", "BASH_COMMAND", "PIPESTATUS", "GROUPS", "DIRSTACK", "EPOCHSECONDS"]

/-- Store a text in a variable itself, as it is. -/
def storeText (name text : String) : Run Unit := do
  let v ← changeable name
  noteAssigned name text
  if (← shell).dialect = .extended ∧ selfMade.contains name then return
  let exported := v.exported || (← shell).options.contains 'a'
  let value := match v.value with
    | .list keyed entries => .list keyed (placeEntry keyed entries "0" text)
    | _ => .text text
  storeVariable name { v with value := value, exported := exported, isBare := false }

/-- Store a text at a place in a list, as it is. -/
def storeAt (name place text : String) : Run Unit := do
  let v ← changeable name
  let (keyed, entries) := match v.value with
    | .list keyed entries => (keyed, entries)
    | .text s => (false, [("0", s)])
    | .unset => (false, [])
  storeVariable name
    { v with value := .list keyed (placeEntry keyed entries place text), isBare := false }

/-- Complain about an expression, and give up. -/
def failSum {α : Type} (f : SumFault) : Run α := do
  let sh ← shell
  let command := match sh.dialect, sh.command with
    | .extended, some name => name ++ ": "
    | _, _ => ""
  fail (command ++ f.message sh.dialect)

/-- The place of an index among entries; a negative one counts from the end. -/
def placeOfNumber (entries : List (String × String)) (n : Int) : Option String :=
  if 0 ≤ n then some (toString n)
  else
    let size : Nat := ((entries.getLast?.bind fun e => e.1.toNat?).map (· + 1)).getD 0
    let place := (size : Int) + n
    if place < 0 then none else some (toString place)

/-- Complain about an index that leads nowhere, and give up. -/
def failIndex {α : Type} (name : String) : Run α := fail (name ++ ": bad array subscript")

/-- The value of a text as an expression; `depth` bounds how deep indices nest. -/
def numberWithin : (depth : Nat) → (text : String) → Run Int64
  | 0, text => failSum ⟨.tooDeep text, text⟩
  | depth + 1, text => do
      let sh ← shell
      let dialect := sh.dialect
      -- Where a name leads, with the place if it is one in a list.
      let spot (name : String) : Run (String × Option String) := do
        let (base, index) := splitIndexed name
        let (base, index) ← match index with
          | some index => do pure ((← aim base).1, some index)
          | none => aim base
        match index with
        | none => return (base, none)
        | some index =>
            let (keyed, entries) ← entriesOf base
            if keyed then return (base, some index)
            match placeOfNumber entries (← numberWithin depth index).toInt with
            | some place => return (base, some place)
            | none => failIndex name
      let lookup (name : String) : Run (Option String) := do
        if dialect = .plain then
          return (← itself? name).bind fun v => textOfValue v.value
        let (base, place) ← spot name
        let found := (← entriesOf base).2.lookup (place.getD "0")
        if found.isNone ∧ sh.options.contains 'u' then
          warn (name ++ ": unbound variable")
          throw (.exit (if sh.isGiven then 127 else 1))
        return found
      let assign (name : String) (n : Int64) : Run Unit := do
        match ← spot name with
        | (base, none) => storeText base (toString n.toInt)
        | (base, some place) => storeAt base place (toString n.toInt)
      match ← (sumValue dialect lookup assign sumDepth text).run with
      | .ok n => return n
      | .error f => failSum f
where
  /-- How often the text of a variable may name another one. -/
  sumDepth : Nat := 100

/-- How deep indices may nest. -/
def indexDepth : Nat := 100

/-- The number that a text is as an expression. -/
def numberOfText (text : String) : Run Int := return (← numberWithin indexDepth text).toInt

/-- The place that an index of a variable means, if there may be one. -/
def placeOf? (name index : String) : Run (Option String) := do
  let (keyed, entries) ← entriesOf name
  if keyed then return if index = "" then none else some index
  if index.toList.all isSumBlank then return none
  return placeOfNumber entries (← numberOfText index)

/-- The text at an index of a list. -/
def textAt (name index : String) : Run (Option String) := do
  let base := (← aim name).1
  match ← placeOf? base index with
  | some place => return (← entriesOf base).2.lookup place
  | none =>
      warn (name ++ ": bad array subscript")
      return none

/-- The text that a name leads to. -/
def lookup? (name : String) : Run (Option String) := do
  match ← aim name with
  | (base, some index) => textAt base index
  | (base, none) =>
      match ← itself? base with
      | some v => return textOfValue v.value
      | none =>
          if (← shell).dialect = .plain then return none
          return (← ownValue? base).bind textOfValue

/-- The text that a variable gets if some text is assigned to it. -/
def Variable.accept (v : Variable) (text : String) : Run String := do
  let text ← if v.isNumber then do pure (toString (← numberOfText text)) else pure text
  return match v.upper with
    | none => text
    | some upper =>
        Text.narrow ((Text.widen text).map fun c => if upper then Text.upper c else Text.lower c)

/-- Assign a text to a place in a list. -/
def assignAt (name index text : String) : Run Unit := do
  let base := (← aim name).1
  let v ← changeable base
  match ← placeOf? base index with
  | some place => storeAt base place (← Variable.accept v text)
  | none => failIndex (name ++ "[" ++ index ++ "]")

/-- Assign a text to a variable. -/
def assign (name text : String) : Run Unit := do
  match ← aim name with
  | (base, some index) => assignAt base index text
  | (base, none) =>
      let v ← changeable base
      if v.isReference then storeVariable base { v with value := .text text }
      else storeText base (← Variable.accept v text)

/-- Assign a text to what is written like a variable or like a place in a list. -/
def assignTo (target text : String) : Run Unit :=
  match splitIndexed target with
  | (name, some index) => assignAt name index text
  | (name, none) => assign name text

/-- Whether a text can be assigned to. -/
def isTarget (extended : Bool) (text : String) : Bool :=
  match splitIndexed text with
  | (name, some index) => extended && isVariableName name && index ≠ ""
  | (name, none) => isVariableName name

/-- Make a variable one that programs get to see. -/
def exportVariable (name : String) : Run Unit := do
  let name := (← aim name).1
  let v := (← itself? name).getD { value := .unset }
  storeVariable name { v with exported := true }

/-- Forget a variable itself. -/
def forget (name : String) : Run Unit := do
  discard (changeable name)
  modifyShell fun sh => { sh with vars := sh.vars.filter fun entry => entry.1 ≠ name }

/-- Forget what a list holds at an index; the answer says whether the index may be one. -/
def forgetAt (name index : String) : Run Bool := do
  let v ← changeable name
  match v.value with
  | .list keyed entries =>
      match ← placeOf? name index with
      | some place =>
          storeVariable name
            { v with value := .list keyed (entries.filter fun e => e.1 ≠ place) }
          return true
      | none => return false
  | _ =>
      match ← placeOf? name index with
      | some "0" =>
          forget name
          return true
      | _ => return false

/-- Forget what a name leads to. -/
def unsetVariable (name : String) : Run Unit := do
  match ← aim name with
  | (base, none) => forget base
  | (base, some index) => discard (forgetAt base index)

/-- Keep a variable for the function that runs, so that it is restored behind it.  The answer says
whether that is new. -/
def keepLocal (name : String) : Run Bool := do
  let old ← itself? name
  match (← shell).frames with
  | frame :: frames =>
      if (frame.lookup name).isSome then return false
      modifyShell fun sh => { sh with frames := ((name, old) :: frame) :: frames }
      return true
  | [] => return false

/-- Restore the variables of the function that ends. -/
def dropFrame : Run Unit := do
  match (← shell).frames with
  | frame :: frames =>
      modifyShell fun sh =>
        let vars := frame.foldl (fun vars (name, old) =>
          let others := vars.filter fun entry => entry.1 ≠ name
          match old with
          | some v => (name, v) :: others
          | none => others) sh.vars
        { sh with frames := frames, vars := vars }
  | [] => pure ()

/-- Begin to keep variables for a function. -/
def pushFrame : Run Unit := modifyShell fun sh => { sh with frames := [] :: sh.frames }

/-- Whether an option is set. -/
def hasOption (c : Char) : Run Bool := return (← shell).options.contains c

/-- Whether the option of a name is set. -/
def isOptionOn (name : String) : Run Bool := do
  let sh ← shell
  return (optionNames sh.dialect).any (fun (c, n) => n = name && sh.options.contains c)
    || sh.longOptions.contains name

/-- The characters at which values are split. -/
def separators : Run (List Char) := return ((← lookup? "IFS").getD " \t\n").toList

/-! ### Arguments of builtin commands -/

/-- Complain as a builtin command.  In the standard shell this is the end of the command. -/
def refuse (name text : String) : Run Nat := do
  if (← shell).dialect = .extended then
    warn (name ++ ": " ++ text)
    return 1
  warn text
  throw (.failed failure)

/-- The whole number that a text is, with blanks around it; it may have to fit into a word. -/
def wholeNumber? (bounded : Bool) (text : String) : Option Int :=
  let blank (c : Char) : Bool := c = ' ' || ('\t' ≤ c && c ≤ '\r')
  let cs := text.toList.dropWhile blank
  let (negative, cs) := match cs with
    | '-' :: cs => (true, cs)
    | '+' :: cs => (false, cs)
    | cs => (false, cs)
  let digits := cs.takeWhile Char.isDigit
  if digits.isEmpty || !(cs.drop digits.length).all blank then none
  else
    let n : Int := numberOf 10 digits
    let n := if negative then -n else n
    if !bounded ∨ (-(twoTo 63 : Int) ≤ n ∧ n < (twoTo 63 : Int)) then some n else none

/-- The largest number that commands of the standard shell take as an argument. -/
def largestArgument : Nat := twoTo 31 - 1

/-- The number that an argument of a command of the standard shell is. -/
def plainNumber? (text : String) : Option Nat :=
  match wholeNumber? true text with
  | some n => if 0 ≤ n ∧ n ≤ (largestArgument : Int) then some n.toNat else none
  | none => none

end ToyLang.Shell
