import ToyLang.Files.Access
import ToyLang.Tools.Started

/-!
# Facts about the host

Programs that tell who runs a process, and on what.

## Main definitions

* `userIds`, `userName`, `groupNames` — the user and the groups.
* `uname`, `arch`, `nproc`, `hostname`, `tty`, `sync` — the system.
* `which` — where programs are.
-/

namespace ToyLang.Tools

open Run

/-- Do something without operands. -/
def withoutOperands (name : String) (t : OptionTable) (arguments : List String)
    (act : Given → Run Nat) (status : Nat := 1) : Run Nat :=
  withOptions name t arguments (fun g =>
    match g.operands with
    | [] => act g
    | extra :: _ => extraOperand name extra status) status

/-- Show a text, and be done. -/
def tellText (text : String) : Run Nat := do
  put (text ++ "\n")
  return 0

/-! ### Users -/

/-- The user that a text names, by name or by number. -/
def userNamed? (text : String) : Option Nat :=
  let number := if text.startsWith "+" then String.ofList (text.toList.drop 1) else text
  (if number = text then Owner.number? false text else none) <|>
    (Owner.read? false number).filter fun n => (Owner.name? false n).isSome

/-- What `id` tells of a user. -/
def userFacts (g : Given) (user : Nat) (isListed : Bool) : String :=
  let group := Owner.firstGroup user
  let named (kind : String) (forGroup : Bool) (n : Nat) : String :=
    kind ++ "=" ++ toString n
      ++ ((Owner.name? forGroup n).map fun name => "(" ++ name ++ ")").getD ""
  let shown (forGroup : Bool) (n : Nat) : String :=
    if g.has 'n' then Owner.shown forGroup n else toString n
  let stop := if !g.has 'z' then "\n"
    else if g.has 'G' && isListed then "\x00\x00" else "\x00"
  (if g.has 'u' then shown false user
  else if g.has 'g' ∨ g.has 'G' then shown true group
  else " ".intercalate
    [named "uid" false user, named "gid" true group, named "groups" true group]) ++ stop

/-- Tell who a user is. -/
def userIds : Tool := fun name arguments =>
  withOptions name
    { flags := "agGnruzZ"
      long := [("user", 'u', .none), ("group", 'g', .none), ("groups", 'G', .none),
        ("name", 'n', .none), ("real", 'r', .none), ("zero", 'z', .none),
        ("context", 'Z', .none)] }
    arguments fun g => do
      let fail (text : String) : Run Nat := do
        blame name text
        return 1
      if g.has 'Z' then
        return ← fail "--context (-Z) works only on an SELinux-enabled kernel"
      let choices := ['u', 'g', 'G'].filter g.has
      if 1 < choices.length then
        return ← fail "cannot print \"only\" of more than one choice"
      if choices.isEmpty && (g.has 'r' || g.has 'n') then
        return ← fail "cannot print only names or real IDs in default format"
      if choices.isEmpty && g.has 'z' then
        return ← fail "option --zero not permitted in default format"
      if g.operands.isEmpty then
        put (userFacts g 0 false)
        return 0
      forOperands g fun operand => do
        match userNamed? operand with
        | none => giveUp name (mentioned operand ++ ": no such user")
        | some user =>
            put (userFacts g user (1 < g.operands.length))
            return true

/-- Tell the name of the user. -/
def userName : Tool := fun name arguments =>
  withoutOperands name {} arguments fun _ => tellText (Owner.shown false 0)

/-- Tell the groups of users. -/
def groupNames : Tool := fun name arguments =>
  withOptions name {} arguments fun g => do
    if g.operands.isEmpty then return ← tellText (Owner.shown true (Owner.firstGroup 0))
    forOperands g fun operand => do
      match Owner.number? false operand with
      | none => giveUp name (mentioned operand ++ ": no such user")
      | some user =>
          put (operand ++ " : " ++ Owner.shown true (Owner.firstGroup user) ++ "\n")
          return true

/-- Tell who has logged in: nobody has. -/
def logname : Tool := fun name arguments =>
  withoutOperands name {} arguments fun _ => do
    blame name "no login name"
    return 1

/-- Tell the names of those who have logged in. -/
def users : Tool := fun name arguments =>
  withOptions name {} arguments fun g =>
    match g.operands with
    | [] | [_] => return 0
    | _ :: extra :: _ => extraOperand name extra

/-- Tell who has logged in, and from where. -/
def who : Tool := fun name arguments =>
  withOptions name
    { flags := "abdlmpqrstuwHT"
      long := [("all", 'a', .none), ("boot", 'b', .none), ("count", 'q', .none),
        ("dead", 'd', .none), ("heading", 'H', .none), ("login", 'l', .none),
        ("lookup", 'o', .none), ("message", 'T', .none), ("mesg", 'T', .none),
        ("process", 'p', .none), ("runlevel", 'r', .none), ("short", 's', .none),
        ("time", 't', .none), ("users", 'u', .none), ("writable", 'T', .none)] }
    arguments fun g => do
      if let some extra := g.operands[2]? then return ← extraOperand name extra
      if g.has 'q' then return ← tellText "\n# users=0"
      if g.has 'H' then put "NAME     LINE         TIME             COMMENT\n"
      return 0

/-! ### The system -/

/-- What there is to tell of a system, by the letters of options. -/
def systemFacts : List (Char × String) :=
  [('s', "Linux"), ('n', "localhost"), ('r', "6.1.0"), ('v', "#1 SMP"), ('m', "x86_64"),
    ('p', "unknown"), ('i', "unknown"), ('o', "GNU/Linux")]

/-- Tell what the system is. -/
def uname : Tool := fun name arguments =>
  withoutOperands name
    { flags := "asnrvmpio"
      long := [("all", 'a', .none), ("kernel-name", 's', .none), ("sysname", 's', .none),
        ("nodename", 'n', .none), ("kernel-release", 'r', .none), ("release", 'r', .none),
        ("kernel-version", 'v', .none), ("machine", 'm', .none), ("processor", 'p', .none),
        ("hardware-platform", 'i', .none), ("operating-system", 'o', .none)] }
    arguments fun g => do
      let isWanted (fact : Char × String) : Bool :=
        if g.has 'a' then fact.2 ≠ "unknown"
        else g.has fact.1 || (g.options.isEmpty && fact.1 = 's')
      tellText (" ".intercalate ((systemFacts.filter isWanted).map Prod.snd))

/-- Tell what the machine is. -/
def arch : Tool := fun name arguments =>
  withoutOperands name {} arguments fun _ => tellText ((systemFacts.lookup 'm').getD "")

/-- How many programs can run at the same time. -/
def processors : Nat := 4

/-- Tell how many programs can run at the same time. -/
def nproc : Tool := fun name arguments =>
  withoutOperands name
    { long := [("all", 'a', .none), ("ignore", 'i', .required)] } arguments fun g => do
      match wholeNumber "number" 0 ((g.value? 'i').getD "0") with
      | .error text =>
          blame name text
          return 1
      | .ok left =>
          let environment := (← process).environment
          let named? (entry : String) : Option Nat :=
            (environment.lookup entry).bind fun text =>
              let cs := text.toList.dropWhile fun c => c = ' '
              let digits := cs.takeWhile Char.isDigit
              let rest := (cs.drop digits.length).dropWhile fun c => c = ' '
              let n := Nat.ofDigitChars 10 digits 0
              if !digits.isEmpty && n ≠ 0 && (rest.isEmpty || rest.head? = some ',') then some n
              else none
          let count := if g.has 'a' then processors
            else
              let wanted := (named? "OMP_NUM_THREADS").getD processors
              (named? "OMP_THREAD_LIMIT").elim wanted (min wanted)
          tellText (toString (max 1 (count - left)))

/-- Tell the name of the host. -/
def hostname : Tool := fun _ arguments =>
  if (arguments.filter fun a => !a.startsWith "-").isEmpty then
    tellText ((systemFacts.lookup 'n').getD "")
  else return 0

/-- Tell the number of the host. -/
def hostid : Tool := fun name arguments =>
  withoutOperands name {} arguments fun _ => tellText "00000000"

/-- Tell the terminal: there is none. -/
def tty : Tool := fun name arguments =>
  withoutOperands name
    { flags := "s", long := [("silent", 's', .none), ("quiet", 's', .none)] } arguments
    (fun g => do
      if !g.has 's' then put "not a tty\n"
      return 1) 2

/-- Tell how the terminal is set up: there is none. -/
def stty : Tool := fun name _ => do
  blame name ("'standard input': Inappropriate ioctl for device")
  return 1

/-- Write files to where they are kept. -/
def sync : Tool := fun name arguments =>
  withOptions name
    { flags := "df", long := [("data", 'd', .none), ("file-system", 'f', .none)] }
    arguments fun g => do
      if g.has 'd' && g.has 'f' then
        blame name "cannot specify both --data and --file-system"
        return 1
      if g.has 'd' && g.operands.isEmpty then
        blame name "--data needs at least one argument"
        return 1
      forOperands g fun path => do
        match ← locatePath path true with
        | .ok _ => return true
        | .error e => giveUp name ("error opening " ++ quoted path ++ ": " ++ e.reason)

/-! ### Programs -/

/-- The folders in which scripts look programs up if the environment names none. -/
def manyFolders : String := "/usr/local/sbin:/usr/local/bin:/usr/sbin:/usr/bin:/sbin:/bin"

/-- Read the letters in front of the operands of `which`.  The answer is a letter that it does not
know. -/
def whichOptions : List String → Except Char (List Char × List String)
  | [] => .ok ([], [])
  | argument :: rest =>
      match argument.toList with
      | ['-', '-'] => .ok ([], rest)
      | '-' :: c :: cs =>
          match (c :: cs).find? fun c => c ≠ 'a' && c ≠ 's' with
          | some unknown => .error unknown
          | none => (whichOptions rest).map fun (found, rest) => (c :: cs ++ found, rest)
      | _ => .ok ([], argument :: rest)

/-- Show where programs are. -/
def which : Tool := fun name arguments => do
  match whichOptions arguments with
  | .error c =>
      complain ("Illegal option -" ++ String.singleton c ++ "\n")
      let path := if name.contains '/' then name else "/usr/bin/" ++ name
      put ("Usage: " ++ path ++ " [-as] args\n")
      return 2
  | .ok (letters, programs) =>
      let listed := ((← process).environment.lookup "PATH").getD manyFolders
      let folders := if listed = "" then [] else listed.splitOn ":"
      let mut status := if programs.isEmpty then 1 else 0
      for program in programs do
        let paths := if program.contains '/' then [program]
          else folders.map fun folder => (if folder = "" then "." else folder) ++ "/" ++ program
        let mut isFound := false
        for path in paths do
          if !isFound || letters.contains 'a' then
            if (← Program.executable path).toOption.isSome then
              isFound := true
              if !letters.contains 's' then put (path ++ "\n")
        if !isFound then status := 1
      return status

end ToyLang.Tools
