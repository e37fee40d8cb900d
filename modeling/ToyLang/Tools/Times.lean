import ToyLang.Format.DateText
import ToyLang.Tools.Basic

/-!
# Points in time

Programs that show points in time, and that set the times of files.

## Main definitions

* `standardDate?` — the standard forms of a date and time.
* `date` — a point in time.
* `GivenTimes`, `givenTimes` — the points in time that are asked for.
* `touch` — the times of files.
-/

namespace ToyLang.Tools

open Run

/-! ### The time now -/

/-- The format of a date and time of standard form, for the precision that is asked for. -/
def standardDate? (gap : String) (precision : String) : Option String :=
  if precision = "" then some "%Y-%m-%d"
  else
    let place? :=
      ["date", "hours", "minutes", "seconds", "ns"].findIdx? fun name => name.startsWith precision
    let fraction := if gap = "T" then "%H:%M:%S,%N%:z" else "%H:%M:%S.%N%:z"
    place?.map fun n =>
      if n = 0 then "%Y-%m-%d"
      else "%Y-%m-%d" ++ gap
        ++ ["", "%H%:z", "%H:%M%:z", "%H:%M:%S%:z", fraction].getD n ""

/-- Show a point in time. -/
def date : Tool := fun name arguments =>
  withOptions name
    { flags := "uR", valued := "dr", optional := "I"
      long := [("utc", 'u', .none), ("universal", 'u', .none), ("date", 'd', .required),
        ("iso-8601", 'I', .optional), ("rfc-email", 'R', .none), ("rfc-3339", '3', .required),
        ("reference", 'r', .required)] }
    arguments fun g => do
    let standard? := match g.value? '3' with
      | some precision => standardDate? " " precision
      | none => (g.value? 'I').bind (standardDate? "T")
    let format ← match g.operands with
      | [] =>
          pure (if g.has 'R' then "%a, %d %b %Y %H:%M:%S %z"
            else standard?.getD "%a %b %e %H:%M:%S %Z %Y")
      | [operand] =>
          match operand.toList with
          | '+' :: cs => pure (String.ofList cs)
          | _ =>
              if (g.value? 'd').isSome then
                return ← misused name ("the argument " ++ mentioned operand
                  ++ " lacks a leading '+';\n"
                  ++ "when using an option to specify date(s), any non-option\n"
                  ++ "argument must be a format string beginning with '+'")
              blame name ("invalid date " ++ mentioned operand)
              return 1
      | _ :: extra :: _ => return ← extraOperand name extra
    let shown (time : Int) : Run Nat := do
      put ((Format.Moment.ofNanoseconds time).text format ++ "\n")
      return 0
    match g.value? 'r', g.value? 'd' with
    | some path, _ =>
        match ← locatePath path true with
        | .ok number => shown ((← tree).node number).time
        | .error e =>
            blame name (path ++ ": " ++ e.reason)
            return 1
    | none, some text =>
        match Format.readMoment? (← tree).now text with
        | some time => shown time
        | none =>
            blame name ("invalid date " ++ mentioned text)
            return 1
    | none, none => shown (← tree).now

/-! ### The times of files -/

/-- The points in time that files are given. -/
structure GivenTimes where
  /-- When the content was used; none if that stays as it is. -/
  used : Option Int
  /-- When the content was changed. -/
  changed : Option Int

/-- Give a node points in time. -/
def GivenTimes.give (g : GivenTimes) (t : FileTree) (number : Nat) : FileTree :=
  t.alter number fun n =>
    { n with used := g.used.getD n.used, time := g.changed.getD n.time }

/-- The words for the point in time that is set. -/
def timeWords : List (List String × Char) :=
  [(["atime", "access", "use"], 'a'), (["mtime", "modify"], 'm')]

/-- The points in time that options ask for; a status if they cannot be had. -/
def givenTimes (name : String) (g : Given) : Run (Except Nat GivenTimes) := do
  let now := (← tree).now
  let refuse (text : String) : Run (Except Nat GivenTimes) := do
    blame name text
    return .error 1
  let mut letters : List Char := []
  for (letter, word) in g.options do
    if letter = 'a' ∨ letter = 'm' then letters := letter :: letters
    if letter = '/' then
      match choice? timeWords word with
      | .ok letter => letters := letter :: letters
      | .error isStart =>
          complainOfChoice name "--time" word timeWords isStart
          return .error (← askForHelp name 1)
    if letter = 't' ∧ (Format.stampMoment? now word).isNone then
      return ← refuse ("invalid date format " ++ mentioned word)
  let times (used changed : Int) : GivenTimes :=
    { used := if letters.isEmpty || letters.contains 'a' then some used else none
      changed := if letters.isEmpty || letters.contains 'm' then some changed else none }
  if g.has 't' ∧ (g.has 'r' ∨ g.has 'd') then
    return .error (← misused name "cannot specify times from more than one source")
  let described (start : Int) : Option Int := match g.value? 'd' with
    | some text => Format.readMoment? start text
    | none => some start
  let wrong := "invalid date format " ++ mentioned ((g.value? 'd').getD "")
  match g.value? 'r', g.value? 't' with
  | some path, _ =>
      match ← locatePath path (!g.has 'h') with
      | .error e => refuse ("failed to get attributes of " ++ quoted path ++ ": " ++ e.reason)
      | .ok number =>
          let n := (← tree).node number
          match described n.used, described n.time with
          | some used, some changed => return .ok (times used changed)
          | _, _ => refuse wrong
  | none, some text =>
      let time := (Format.stampMoment? now text).getD now
      return .ok (times time time)
  | none, none =>
      match described now with
      | some time => return .ok (times time time)
      | none => refuse wrong

/-- Give points in time to the file at a path, and make it if it is not there. -/
def touchPath (name : String) (g : Given) (times : GivenTimes) (path : String) : Run Bool := do
  let notSet (e : FileError) : Run Bool :=
    giveUp name ("setting times of " ++ quoted path ++ ": " ++ e.reason)
  if path = "-" then
    match ← openFile? 1 with
    | some (_, { target := .node number, .. }) => modifyTree fun t => times.give t number
    | _ => pure ()
    return true
  let makes := !g.has 'c' && !g.has 'h'
  match (← tree).find (← process).folder path (!g.has 'h') with
  | .ok (.node number _) =>
      modifyTree fun t => times.give t number
      return true
  | .ok (.vacant folder base slash) =>
      if makes && !slash then
        let mode ← masked newFileMode
        modifyTree fun t =>
          let (number, t) := t.add folder base (.file ByteArray.empty) mode
          times.give t number
        return true
      if g.has 'c' then return true
      notSet .noEntry
  | .error e =>
      if g.has 'c' && e = .noEntry then return true
      if !makes || (path.endsWith "/" && e = .notDirectory) then notSet e
      else giveUp name ("cannot touch " ++ quoted path ++ ": " ++ e.reason)

/-- Make files that are not there, and give points in time to those that are. -/
def touch : Tool := fun name arguments =>
  withOptions name
    { flags := "acfhm", valued := "drt"
      long := [("no-create", 'c', .none), ("date", 'd', .required), ("reference", 'r', .required),
        ("time", '/', .required), ("no-dereference", 'h', .none)] }
    arguments fun g => do
      match ← givenTimes name g with
      | .error status => return status
      | .ok times =>
          if g.operands.isEmpty then return ← misused name "missing file operand"
          forOperands g (touchPath name g times)

end ToyLang.Tools
