import ToyLang.Tools.Started

/-!
# Environments

Each process has an environment, which the programs that it starts get to see.

## Main definitions

* `cutText` — a text that is cut into the words of a command.
* `Surroundings`, `env` — a program in another environment.
* `printenv` — variables of the environment.
-/

namespace ToyLang.Tools

open Run
open Shell (Perform)

/-! ### Entries -/

/-- Set a variable of an environment; a new one comes last. -/
def setEntry (environment : List (String × String)) (name value : String) :
    List (String × String) :=
  if environment.any fun entry => entry.1 = name then
    environment.map fun entry => if entry.1 = name then (name, value) else entry
  else environment ++ [(name, value)]

/-- The name and the value of an assignment. -/
def assigned? (text : String) : Option (String × String) :=
  if text.contains '=' then
    let name := text.toList.takeWhile (· ≠ '=')
    some (String.ofList name, String.ofList (text.toList.drop (name.length + 1)))
  else none

/-! ### Words within one argument -/

/-- Words that are cut from a text: those so far, and what is to be told about them. -/
structure Cutting where
  /-- The words, the last one first, each with its last letter first. -/
  words : List (List Char) := []
  /-- Whether the next letter begins a word. -/
  between : Bool := true
  told : List String := []

/-- Begin a word unless one has begun. -/
def Cutting.begun (s : Cutting) : Cutting :=
  if s.between then { s with words := [] :: s.words, between := false } else s

/-- Put letters behind the word. -/
def Cutting.add (s : Cutting) (cs : List Char) : Cutting :=
  let s := s.begun
  { s with words := (cs.reverse ++ s.words.headD []) :: s.words.drop 1 }

/-- The words in order. -/
def Cutting.found (s : Cutting) : List String :=
  s.words.reverse.map fun word => String.ofList word.reverse

/-- The name between the braces that follow a dollar sign. -/
def bracedName? (cs : List Char) : Option String :=
  let isLetter (c : Char) : Bool := c.isAlpha || c = '_'
  match cs with
  | '\x7b' :: c :: rest =>
      let name := c :: rest.takeWhile fun c => isLetter c || c.isDigit
      if isLetter c && (rest.drop (name.length - 1)).head? = some '\x7d' then
        some (String.ofList name)
      else none
  | _ => none

/-- What a letter behind a backslash stands for. -/
def cutEscape? (quote? : Option Char) (c : Char) : Option Char :=
  match c with
  | '"' | '#' | '$' | '\'' | '\\' => some c
  | '_' => if quote?.isSome then some ' ' else none
  | 'f' => some '\x0c'
  | 'n' => some '\n'
  | 'r' => some '\x0d'
  | 't' => some '\t'
  | 'v' => some '\x0b'
  | _ => none

/-- Whether a letter parts words. -/
def cutsWords (c : Char) : Bool := [' ', '\t', '\n', '\x0b', '\x0c', '\x0d'].contains c

/-- Go on cutting a text into words.  Quotes hold words together, and names in braces stand for
variables; `skipping` says that such a name is passed over.  If the text is wrong, the answer says
why. -/
def cutText (lookUp : String → Option String) :
    (quote? : Option Char) → (skipping : Bool) → Cutting → List Char → Cutting × Option String
  | quote?, _, s, [] =>
      (s, if quote?.isSome then some "no terminating quote in -S string" else none)
  | quote?, true, s, c :: cs => cutText lookUp quote? (c ≠ '\x7d') s cs
  | quote?, false, s, '\\' :: cs =>
      match cs with
      | [] =>
          if quote? = some '\'' then cutText lookUp quote? false (s.add ['\\']) []
          else (s, some "invalid backslash at end of string in -S")
      | c :: rest =>
          if quote? = some '\'' then
            if c = '\\' ∨ c = '\'' then cutText lookUp quote? false (s.add [c]) rest
            else cutText lookUp quote? false (s.add ['\\']) (c :: rest)
          else match cutEscape? quote? c with
            | some letter => cutText lookUp quote? false (s.add [letter]) rest
            | none =>
                if c = '_' then cutText lookUp quote? false { s with between := true } rest
                else if c = 'c' then
                  (s, if quote?.isSome then
                    some "'\\c' must not appear in double-quoted -S string" else none)
                else (s, some ("invalid sequence '\\" ++ String.singleton c ++ "' in -S"))
  | quote?, false, s, c :: cs =>
      if (c = '\'' ∨ c = '"') ∧ (quote?.isNone ∨ quote? = some c) then
        cutText lookUp (if quote?.isNone then some c else none) false s.begun cs
      else if cutsWords c ∧ quote?.isNone then
        cutText lookUp quote? false { s with between := true } cs
      else if c = '#' ∧ s.between then (s, none)
      else if c = '$' ∧ quote? ≠ some '\'' then
        match bracedName? cs with
        | none =>
            (s, some ("only $\x7bVARNAME\x7d expansion is supported, error at: "
              ++ String.ofList (c :: cs)))
        | some name =>
            let shown := "$\x7b" ++ name ++ "\x7d"
            match lookUp name with
            | some value =>
                let s := s.add value.toList
                cutText lookUp quote? true
                  { s with told := s.told ++ ["expanding " ++ shown ++ " into " ++ mentioned value] }
                  cs
            | none =>
                cutText lookUp quote? true
                  { s with told := s.told ++ ["replacing " ++ shown ++ " with null string"] } cs
      else cutText lookUp quote? false (s.add [c]) cs
termination_by _ _ _ cs => cs.length

/-! ### Another environment -/

/-- What becomes of a signal. -/
inductive SignalFate where
  | usual
  | ignored
  | blocked
  deriving DecidableEq

/-- What is to be different for a program. -/
structure Surroundings where
  isCleared : Bool := false
  dropped : List String := []
  folder : Option String := none
  /-- Whether entries of the environment end with a zero. -/
  endsWithZero : Bool := false
  /-- Whether each step is told. -/
  isTold : Bool := false
  /-- Whether the signals that are not handled as usual are listed. -/
  listsSignals : Bool := false
  /-- What becomes of signals, and whether failures to bring that about count. -/
  fates : List (Nat × SignalFate × Bool) := []

/-- The options of `env`. -/
def envOptions : OptionTable :=
  { flags := "i0v", valued := "uCS", inOrder := true
    long := [("ignore-environment", 'i', .none), ("null", '0', .none), ("unset", 'u', .required),
      ("chdir", 'C', .required), ("split-string", 'S', .required), ("debug", 'v', .none),
      ("default-signal", 'd', .optional), ("ignore-signal", 'n', .optional),
      ("block-signal", 'b', .optional), ("list-signal-handling", 'l', .none)] }

/-- The signals that an option names, which are all of them if it names none. -/
def namedSignals (text : String) : Except String (List Nat × Bool) :=
  if text = "" then
    .ok ((List.range Signal.highest).map (· + 1) |>.filter fun n => (signalName? n).isSome, false)
  else
    let name (found : List Nat) (part : String) : Except String (List Nat) :=
      match operandSignal? part with
      | some 0 | none => .error part
      | some n => .ok (n :: found)
    (((text.splitOn ",").filter (· ≠ "")).foldlM name []).map fun found => (found, true)

/-- Take an option of `env`. -/
def Surroundings.take (s : Surroundings) (option : Char × String) : Except String Surroundings :=
  let fate (f : SignalFate) : Except String Surroundings :=
    (namedSignals option.2).map fun (found, counts) =>
      let kept := s.fates.filter fun entry =>
        !found.contains entry.1 || ((entry.2.1 = .blocked) != (f = .blocked))
      { s with fates := kept ++ found.map fun n => (n, f, counts) }
  match option.1 with
  | 'i' => .ok { s with isCleared := true }
  | '0' => .ok { s with endsWithZero := true }
  | 'v' => .ok { s with isTold := true }
  | 'l' => .ok { s with listsSignals := true }
  | 'u' => .ok { s with dropped := s.dropped ++ [option.2] }
  | 'C' => .ok { s with folder := some option.2 }
  | 'd' => fate .usual
  | 'n' => fate .ignored
  | 'b' => fate .blocked
  | _ => .ok s

/-- Tell a step if steps are told. -/
def Surroundings.tell (s : Surroundings) (text : String) : Run Unit := do
  if s.isTold then complain (text ++ "\n")

/-- Read the arguments of `env`, in which a text stands for the words that it is cut into.  The
answer is a status if they are wrong. -/
def readSurroundings (name : String) (arguments : List String) :
    Run (Except Nat (Surroundings × List String)) := do
  let mut s : Surroundings := {}
  let mut rest := arguments
  let wrong (text : String) : Run (Except Nat (Surroundings × List String)) := do
    blame name text
    if cutsWords ((text.toList.reverse.drop 1).headD '-') then
      blame name "use -[v]S to pass options in shebang lines"
    return .error (← askForHelp name ownFailure)
  for _ in [0:rounds] do
    let step : Except String (Option (List (Char × String)) × List String) :=
      match rest with
      | [] => .ok (none, [])
      | argument :: others => match argument.toList with
          | ['-', '-'] => .ok (none, others)
          | '-' :: '-' :: long =>
              (readLong envOptions (String.ofList long) others).map fun (o, others) =>
                (some [o], others)
          | '-' :: c :: cs =>
              (readLetters envOptions (c :: cs) others).map fun (found, others) =>
                (some found, others)
          | _ => .ok (none, rest)
    match step with
    | .error text => return ← wrong text
    | .ok (none, others) => return .ok (s, others)
    | .ok (some options, others) =>
        rest := others
        for option in options do
          if option.1 = 'S' then
            let environment := (← process).environment
            let (cut, fault) :=
              cutText (fun name => environment.lookup name) none false {} option.2.toList
            for text in cut.told do s.tell text
            if let some text := fault then
              blame name text
              return .error ownFailure
            let words := cut.found
            if !words.isEmpty then
              s.tell ("split -S:  " ++ mentioned option.2)
              s.tell (" into:    " ++ mentioned (words.headD ""))
              for word in words.drop 1 do s.tell ("     &    " ++ mentioned word)
            rest := words ++ rest
          else
            match s.take option with
            | .ok changed => s := changed
            | .error part =>
                return ← wrong (mentioned part ++ ": invalid signal")
  return .ok (s, rest)

/-- Let signals have their fates.  The answer is a signal whose fate cannot be changed. -/
def Surroundings.setFates (s : Surroundings) : Run (Option Nat) := do
  let fates := s.fates.mergeSort fun a b => decide (a.1 ≤ b.1)
  for (signal, fate, counts) in fates.filter fun entry => entry.2.1 ≠ .blocked do
    let fails := Signal.uncaught.contains signal
    if fails && counts then return some signal
    s.tell ("Reset signal " ++ signalName signal ++ " (" ++ toString signal ++ ") to "
      ++ (if fate = .usual then "DEFAULT" else "IGNORE")
      ++ (if fails then " (failure ignored)" else ""))
    if !fails then
      modifyProcess fun p =>
        let others := p.ignored.filter (· ≠ signal)
        { p with ignored := if fate = .usual then others else signal :: others }
  return none

/-- List the signals that are not handled as usual. -/
def Surroundings.listFates (s : Surroundings) : Run Unit := do
  let ignored := (← process).ignored
  let blocked := (s.fates.filter fun entry =>
    entry.2.1 = .blocked && !Signal.uncaught.contains entry.1).map Prod.fst
  for n in (List.range Signal.highest).map (· + 1) do
    let fates := (if blocked.contains n then ["BLOCK"] else [])
      ++ (if ignored.contains n then ["IGNORE"] else [])
    if !fates.isEmpty then
      complain (padRight 10 (signalName n) ++ " (" ++ padLeft 2 (toString n) ++ "): "
        ++ ",".intercalate fates ++ "\n")

/-- Show the environment. -/
def showEnvironment (stop : String) : Run Nat := do
  for (entry, value) in (← process).environment do
    put (entry ++ "=" ++ value ++ stop)
  return 0

/-- Change the environment as asked, by some assignments in the end.  The answer says what cannot be
done. -/
def Surroundings.changeEntries (s : Surroundings) (assigned : List String) :
    Run (Option String) := do
  if s.isCleared then
    s.tell "cleaning environ"
    modifyProcess fun p => { p with environment := [] }
  else
    for entry in s.dropped do
      s.tell ("unset:    " ++ entry)
      if entry = "" || entry.contains '=' then
        return some ("cannot unset " ++ mentioned entry ++ ": Invalid argument")
      modifyProcess fun p => { p with environment := p.environment.filter (·.1 ≠ entry) }
  for text in assigned do
    s.tell ("setenv:   " ++ text)
    if let some (entry, value) := assigned? text then
      modifyProcess fun p => { p with environment := setEntry p.environment entry value }
  return none

/-- Work in the folder that a path leads to. -/
def workIn (path : String) : Run (Except FileError Unit) := do
  match ← locatePath path true with
  | .error e => return .error e
  | .ok number =>
      if !(← tree).isFolder number then return .error .notDirectory
      modifyProcess fun p => { p with folder := number }
      return .ok ()

/-- Run a program with another environment, or show the environment. -/
def env (perform : Perform) : Tool := fun name arguments => do
  match ← readSurroundings name arguments with
  | .error status => return status
  | .ok (s, operands) =>
      let (s, operands) : Surroundings × List String :=
        if operands.head? = some "-" then ({ s with isCleared := true }, operands.drop 1)
        else (s, operands)
      let assigned := operands.takeWhile fun a => (assigned? a).isSome
      let words := operands.drop assigned.length
      if let some text ← s.changeEntries assigned then
        blame name text
        return ownFailure
      if s.endsWithZero && !words.isEmpty then
        return ← misused name "cannot specify --null (-0) with command" ownFailure
      if s.folder.isSome && words.isEmpty then
        return ← misused name "must specify command with --chdir (-C)" ownFailure
      if words.isEmpty then return ← showEnvironment (if s.endsWithZero then "\x00" else "\n")
      if let some signal ← s.setFates then
        blame name ("failed to set signal action for signal " ++ toString signal
          ++ ": Invalid argument")
        return ownFailure
      if s.listsSignals then s.listFates
      if let some folder := s.folder then
        s.tell ("chdir:    " ++ quoted folder)
        if let .error e ← workIn folder then
          blame name ("cannot change directory to " ++ quoted folder ++ ": " ++ e.reason)
          return ownFailure
      s.tell ("executing: " ++ words.headD "")
      for (word, n) in words.zipIdx do
        s.tell ("   arg[" ++ toString n ++ "]= " ++ mentioned word)
      match ← startWords perform words with
      | .ok status => return status
      | .error e =>
          let program := words.headD ""
          blame name (mentioned program ++ ": " ++ e.reason)
          if e = .noEntry ∧ program.contains ' ' then
            blame name "use -[v]S to pass options in shebang lines"
          return startStatus e

/-- Show variables of the environment. -/
def printenv : Tool := fun name arguments =>
  withOptions name { flags := "0", long := [("null", '0', .none)], inOrder := true } arguments
    (fun g => do
      let stop := if g.has '0' then "\x00" else "\n"
      if g.operands.isEmpty then return ← showEnvironment stop
      let entries := (← process).environment
      forOperands g fun entry => do
        match entries.lookup entry with
        | some value =>
            put (value ++ stop)
            return true
        | none => return false) 2

end ToyLang.Tools
