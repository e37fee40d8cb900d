import ToyLang.Format.Number
import ToyLang.Tools.Environment

/-!
# Circumstances

A program can be run in circumstances of its own: with signals that it does not notice, yielding
to others, in a session of its own, with other buffers, or for a limited time.

## Main definitions

* `nohup`, `nice`, `setsid`, `stdbuf`, `chroot` — a program in its circumstances.
* `sleep`, `timeout` — programs and time.
-/

namespace ToyLang.Tools

open Run
open Shell (Perform)

/-! ### Signals and niceness -/

/-- Run a program that is not ended together with its terminal. -/
def nohup (perform : Perform) : Tool := fun name arguments =>
  withOptions name { inOrder := true } arguments (fun g => do
    if g.operands.isEmpty then return ← missingOperand name [] ownFailure
    modifyProcess fun p => { p with ignored := 1 :: p.ignored.filter (· ≠ 1) }
    startOr perform name "failed to run command " g.operands quoted) ownFailure

/-- Whether an argument is an adjustment by itself. -/
def isAdjustment (argument : String) : Bool :=
  match argument.toList with
  | '-' :: cs => (if cs.head? = some '-' ∨ cs.head? = some '+' then cs.drop 1 else cs).head?.any
      Char.isDigit
  | _ => false

/-- The adjustment that was given last, and the command. -/
def readAdjustment : (steps : Nat) → (given : Option String) → List String →
    Except String (Option String × List String)
  | 0, given, rest => .ok (given, rest)
  | _, given, [] => .ok (given, [])
  | steps + 1, given, argument :: rest =>
      let t : OptionTable :=
        { valued := "n", long := [("adjustment", 'n', .required)], inOrder := true }
      let go (found : List (Char × String)) (rest : List String) :
          Except String (Option String × List String) :=
        readAdjustment steps ((found.getLast?).map Prod.snd <|> given) rest
      if isAdjustment argument then
        readAdjustment steps (some (String.ofList (argument.toList.drop 1))) rest
      else match argument.toList with
        | ['-', '-'] => .ok (given, rest)
        | '-' :: '-' :: long =>
            (readLong t (String.ofList long) rest).bind fun (o, rest) => go [o] rest
        | '-' :: c :: cs => (readLetters t (c :: cs) rest).bind fun (found, rest) => go found rest
        | _ => .ok (given, argument :: rest)

/-- The number that a text is as an adjustment. -/
def adjustment? (text : String) : Option Int :=
  let cs := text.toList.dropWhile fun c => cutsWords c
  let digits := if cs.head? = some '-' ∨ cs.head? = some '+' then cs.drop 1 else cs
  if digits.isEmpty || !digits.all Char.isDigit then none
  else
    let n : Int := Nat.ofDigitChars 10 digits 0
    some (if cs.head? = some '-' then -n else n)

/-- The least and the greatest niceness. -/
def nicenesses : Int × Int := (-20, 19)

/-- Run a program that yields to others, or tell how much this one yields. -/
def nice (perform : Perform) : Tool := fun name arguments => do
  match readAdjustment (arguments.length + 1) none arguments with
  | .error text => misused name text ownFailure
  | .ok (given, words) =>
      match given.map fun text => (text, adjustment? text) with
      | some (text, none) =>
          blame name ("invalid adjustment " ++ mentioned text)
          return ownFailure
      | found =>
          if words.isEmpty then
            if given.isSome then
              return ← misused name "a command must be given with an adjustment" ownFailure
            put (toString (← process).niceness ++ "\n")
            return 0
          let change : Int := (found.bind Prod.snd).getD 10
          let (least, greatest) := nicenesses
          modifyProcess fun p =>
            { p with niceness := max least (min greatest (p.niceness + change)) }
          startOr perform name "" words

/-! ### Sessions, buffers and roots -/

/-- Run a program in a session of its own. -/
def setsid (perform : Perform) : Tool := fun name arguments =>
  withOptions name
    { flags := "cfw", inOrder := true
      long := [("ctty", 'c', .none), ("fork", 'f', .none), ("wait", 'w', .none)] }
    arguments fun g => do
      if g.operands.isEmpty then return ← misused name "no command specified"
      let run : Run Nat := startOr perform name "failed to execute " g.operands id
      if !g.has 'f' then return ← run
      match ← asChild run with
      | .exited status => return if g.has 'w' then status else 0
      | .signalled n => return if g.has 'w' then n else 0

/-- Run a program that buffers its streams in another way, which its environment tells. -/
def stdbuf (perform : Perform) : Tool := fun name arguments =>
  withOptions name
    { valued := "ioe", inOrder := true
      long := [("input", 'i', .required), ("output", 'o', .required), ("error", 'e', .required)] }
    arguments (fun g => do
      let modes := g.options.map fun (c, text) =>
        (c, String.ofList (text.toList.dropWhile fun c => cutsWords c))
      for (c, mode) in modes do
        if c = 'i' ∧ mode.startsWith "L" then
          return ← misused name "line buffering stdin is meaningless" ownFailure
        if mode ≠ "L" then
          let fault? := match sizeOf? mode with
            | none => some ""
            | some n =>
                if n < twoTo 64 then none else some ": Value too large for defined data type"
          if let some reason := fault? then
            blame name ("invalid mode " ++ mentioned mode ++ reason)
            return ownFailure
      if g.operands.isEmpty then return ← missingOperand name [] ownFailure
      if modes.isEmpty then
        return ← misused name "you must specify a buffering mode option" ownFailure
      for c in ['i', 'o', 'e'] do
        if let some mode := ((modes.filter fun m => m.1 = c).getLast?).map Prod.snd then
          let size := if mode = "L" then mode else toString ((sizeOf? mode).getD 0)
          modifyProcess fun p =>
            { p with environment :=
                setEntry p.environment ("_STDBUF_" ++ String.singleton c.toUpper) size }
      let library := "/usr/libexec/coreutils/libstdbuf.so"
      modifyProcess fun p =>
        let earlier := (p.environment.lookup "LD_PRELOAD").map fun list => list ++ ":" ++ library
        { p with environment := setEntry p.environment "LD_PRELOAD" (earlier.getD library) }
      startOr perform name "failed to run command " g.operands) ownFailure

/-- Run a program that finds its files under another root.  Only the root that there is has
programs. -/
def chroot (perform : Perform) : Tool := fun name arguments =>
  withOptions name
    { inOrder := true
      long := [("userspec", 'u', .required), ("groups", 'g', .required),
        ("skip-chdir", 's', .none)] }
    arguments (fun g => do
      match g.operands with
      | [] => missingOperand name [] ownFailure
      | folder :: words =>
          let fail (e : FileError) : Run Nat := do
            blame name ("cannot change root directory to " ++ quoted folder ++ ": " ++ e.reason)
            return ownFailure
          match ← locatePath folder true with
          | .error e => fail e
          | .ok number =>
              let t ← tree
              if !t.isFolder number then return ← fail .notDirectory
              let root := (t.locate number "/" true).toOption
              let shell := ((← process).environment.lookup "SHELL").getD scriptProgram
              let words := if words.isEmpty then [shell, "-i"] else words
              if some number = root then
                modifyProcess fun p => { p with folder := number }
                startOr perform name "failed to run command " words
              else
                blame name ("failed to run command " ++ mentioned (words.headD "") ++ ": "
                  ++ FileError.noEntry.reason)
                return 127) ownFailure

/-! ### Time -/

/-- The milliseconds of a time that does not end. -/
def endless : Nat := tenTo 15

/-- The milliseconds that a text stands for, rounded up. -/
def duration? (text : String) : Option Nat :=
  let r := Format.readNearest .extended text
  let unit? : Option Nat := match r.rest with
    | [] | ['s'] => some 1
    | ['m'] => some 60
    | ['h'] => some 3600
    | ['d'] => some 86400
    | _ => none
  if !r.found then none
  else unit?.bind fun unit => match r.value with
    | .finite negative n d =>
        if negative && n ≠ 0 then none else some (min endless ((n * unit * 1000 + d - 1) / d))
    | .infinite false => some endless
    | _ => none

/-- Let time pass. -/
def sleep : Tool := fun name arguments =>
  withOptions name {} arguments fun g => do
    if arguments.isEmpty then return ← missingOperand name []
    let bad := g.operands.filter fun a => (duration? a).isNone
    for a in bad do
      blame name ("invalid time interval " ++ mentioned a)
    if !bad.isEmpty then return ← askForHelp name 1
    pass ((g.operands.filterMap duration?).foldl (· + ·) 0)
    return 0

/-- The status of a program that has taken too long. -/
def tooLong : Nat := 124

/-- Run a program for a limited time. -/
def timeout (perform : Perform) : Tool := fun name arguments =>
  withOptions name
    { flags := "v", valued := "ks", inOrder := true
      long := [("signal", 's', .required), ("kill-after", 'k', .required),
        ("foreground", '/', .none), ("preserve-status", '=', .none), ("verbose", 'v', .none)] }
    arguments (fun g => do
      let signal? : Option Nat := match g.value? 's' with
        | some text => operandSignal? text
        | none => some Signal.usual
      match signal?, g.operands with
      | none, _ =>
          misused name (mentioned ((g.value? 's').getD "") ++ ": invalid signal") ownFailure
      | some _, [] | some _, [_] => askForHelp name ownFailure
      | some signal, limit :: words =>
          let after? := g.value? 'k'
          match duration? limit, after?.map fun text => (text, duration? text) with
          | _, some (text, none) =>
              misused name ("invalid time interval " ++ mentioned text) ownFailure
          | none, _ => misused name ("invalid time interval " ++ mentioned limit) ownFailure
          | some limit, after =>
              let m ← get
              let time := m.tree.now + nanosecondsPerMillisecond * limit
              let last : Option Int := match after with
                | some (_, some (delay + 1)) =>
                    some (time + nanosecondsPerMillisecond * (delay + 1))
                | _ => none
              let deadline : Deadline :=
                { time := time, signal := signal, owner := m.process.number, last := last }
              let ending ← asChild do
                if 0 < limit then modifyProcess fun p => { p with deadline := some deadline }
                startOr perform name "failed to run command " words
              let now := (← tree).now
              let late := 0 < limit && decide (deadline.time ≤ now)
              let tell (signal : Nat) : Run Unit := do
                blame name ("sending signal " ++ signalName signal ++ " to command "
                  ++ mentioned (words.headD ""))
              if late && g.has 'v' then
                tell signal
                if last.any fun time => decide (time ≤ now) then tell Signal.kill
              match ending with
              | .exited status => return if late && !g.has '=' then tooLong else status
              | .signalled n =>
                  if !late then throw (.killed n)
                  if n = Signal.kill ∧ !g.has '/' then throw (.killed n)
                  if n = Signal.kill ∨ g.has '=' then return 128 + n
                  return tooLong) ownFailure

end ToyLang.Tools
