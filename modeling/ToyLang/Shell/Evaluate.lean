import ToyLang.Shell.Assignment
import ToyLang.Shell.Builtin.Test
import ToyLang.Shell.Loop
import ToyLang.Shell.Pipeline
import ToyLang.Text.RegexSyntax

/-!
# Running commands

## Main definitions

* `holds` — the truth of a condition between double brackets.
* `runSubshell`, `runRedirected` — commands around others.
* `evaluate` — any command.
-/

namespace ToyLang.Shell

open Run

/-! ### Conditions -/

/-- A pattern as a trace shows it: what was quoted has backslashes. -/
def tracePattern (cs : List Marked) : String :=
  String.ofList (cs.flatMap fun (c, quoted) => if quoted then ['\\', c] else [c])

/-- Whether a regular expression, which a word spells, matches a part of a text; the parts that
its groups match are put into a list. -/
def matchesRegex (perform : Perform) (w : Word) (text : String) : Run Bool := do
  let marked := markedOfAtoms (← expand perform .field w)
  let pattern := String.ofList ((widenMarked marked).flatMap fun (c, quoted) =>
    if quoted ∧ !(c.isAlphanum) ∧ c.toNat < 0x80 then ['\\', c] else [c])
  match Text.Regex.ofText? { extended := true, strict := true } pattern with
  | .error _ => throw (.failed failure)
  | .ok (r, groups) =>
      let chars := (Text.widen text).toList.toArray
      let fold := (← shell).longOptions.contains "nocasematch"
      match r.find? { text := chars, fold := fold, wide := true } 0 with
      | none =>
          storeVariable "BASH_REMATCH" { value := .list false [] }
          return false
      | some (start, stop, found) =>
          let part (i j : Nat) : String :=
            Text.narrow (String.ofList (chars.extract i j).toList)
          let texts := (List.range (groups + 1)).map fun n =>
            if n = 0 then part start stop
            else match found.lookup n with
              | some (i, j) => part i j
              | none => ""
          storeVariable "BASH_REMATCH" { value := .list false (entriesOfTexts texts) }
          return true

/-- The truth of a condition between double brackets; the flag says that a trace shows it as
negated. -/
def holds (perform : Perform) (negated : Bool) : Condition → Run Bool
  | .word w => do
      let text ← expandText perform w
      show_ ["-n", shown text]
      return text ≠ ""
  | .not c => do
      let direct := match c with
        | .word _ | .unary _ _ | .binary _ _ _ => true
        | _ => false
      return !(← holds perform (direct && !negated) c)
  | .both a b => do
      if ← holds perform false a then holds perform false b else return false
  | .either a b => do
      if ← holds perform false a then return true else holds perform false b
  | .unary op w => do
      let text ← expandText perform w
      show_ [op, shown text]
      match op with
      | "-o" => isOptionOn text
      | "-a" => fileTest "-e" text
      | op => unaryTest op text
  | .binary op lhs rhs => do
      let a ← expandText perform lhs
      let compare (test : Int → Int → Bool) : Run Bool := do
        let b ← expandText perform rhs
        show_ [shown a, op, shown b]
        return test (← numberOfText a) (← numberOfText b)
      let withText (test : String → Run Bool) : Run Bool := do
        let b ← expandText perform rhs
        show_ [shown a, op, shown b]
        test b
      let showPattern : Run Unit := do
        if ← hasOption 'x' then
          show_ [shown a, op, shown (tracePattern (markedOfAtoms (← expand perform .field rhs)))]
      match op with
      | "=" | "==" => do
          showPattern
          matchesWord perform true rhs a
      | "!=" => do
          showPattern
          return !(← matchesWord perform true rhs a)
      | "=~" => do
          showPattern
          matchesRegex perform rhs a
      | "<" => withText fun b => return a < b
      | ">" => withText fun b => return b < a
      | "-eq" => compare (· == ·)
      | "-ne" => compare (· != ·)
      | "-lt" => compare fun m n => decide (m < n)
      | "-le" => compare fun m n => decide (m ≤ n)
      | "-gt" => compare fun m n => decide (m > n)
      | "-ge" => compare fun m n => decide (m ≥ n)
      | "-ef" => withText (sameFile a)
      | "-nt" => withText (newerFile .extended a)
      | "-ot" => withText fun b => newerFile .extended b a
      | _ => return false
where
  /-- A text as a trace of a condition shows it. -/
  shown (text : String) : String := if text = "" then "''" else text
  /-- Show a part of the condition in a trace. -/
  show_ (texts : List String) : Run Unit := do
    trace perform ((← process).streams.lookup 2)
      (["[["] ++ (if negated then ["!"] else []) ++ texts ++ ["]]"])

/-! ### Commands -/

/-- Run a simple command that begins in a line. -/
def evaluateSimple (perform : Perform) (tested last : Bool) (line : Nat) (written : String)
    (assigns : List Assign) (words : List Word) (redirects : List Redirect) : Run Nat := do
  beginCommand perform line written
  let status ←
    try
      keepingChannels (underName none (runSimple perform tested last assigns words redirects))
    catch e =>
      match e with
      | .failed n =>
          discard (setStatus n)
          throw e
      | e => throw e
  settleAlone perform tested status

/-- Run commands in a shell of their own, or in this one if nothing is left to do. -/
def runSubshell (perform : Perform) (tested last : Bool) (body : Command) : Run Nat := do
  let deeper : Run Nat := do
    modifyShell fun sh => { sh with level := sh.level + 1 }
    perform (.command body tested true)
  if last ∧ (← shell).traps.isEmpty ∧ (← get).jobs.isEmpty then
    let status ← endShell perform deeper
    throw (.exit status)
  let ending ← asPart perform deeper
  noticeEnding ending
  return ending.status

/-- Run a command under redirections. -/
def runRedirected (perform : Perform) (tested : Bool) (line : Nat) (body : Command)
    (redirects : List Redirect) : Run Nat := do
  if line ≠ 0 then modifyShell fun sh => { sh with line := line }
  keepingChannels (withRedirects perform redirects fun worked => do
    if worked then perform (.command body tested false)
    else return if (← shell).dialect = .extended then 1 else failure)

/-- Define a function. -/
def defineFunction (name : String) (line : Nat) (body : Command) : Run Unit :=
  modifyShell fun sh =>
    let source := ((sh.callers.head?.map Caller.source) <|> sh.source).getD "environment"
    let exported := (sh.functions.lookup name).any Function.exported
    let f : Function := { line := line, source := source, body := body, exported := exported }
    { sh with functions := (name, f) :: sh.functions.filter fun entry => entry.1 ≠ name }

/-- The words of a loop, which are the arguments if there are none. -/
def loopTexts (perform : Perform) : Option (List Word) → Run (List String)
  | some words => expandFields perform words
  | none => return (← shell).arguments

/-- Run a command.  The flags say that its failure is looked at, and that nothing is done behind
it. -/
def evaluate (perform : Perform) (tested last : Bool) : Command → Run Nat
  | .nothing => return (← shell).status
  | .simple line written assigns words redirects =>
      evaluateSimple perform tested last line written assigns words redirects
  | .pipeline stages => do settle perform tested (← runPipeline perform tested stages)
  | .negated c => do
      let status ← perform (.command c true false)
      setStatus (if status = 0 then 1 else 0)
  | .both a b => do
      let status ← perform (.command a true false)
      if status ≠ 0 then return status
      perform (.command b tested last)
  | .either a b => do
      let status ← perform (.command a true false)
      if status = 0 then return status
      perform (.command b tested last)
  | .sequence a b => do
      discard (perform (.command a tested false))
      perform (.command b tested last)
  | .background c => do
      discard (startJob c true [(0, ← openNullInput)])
      setStatus 0
  | .subshell body => do settleAlone perform tested (← runSubshell perform tested last body)
  | .grouped body => perform (.command body tested last)
  | .redirected line _ body redirects => do
      setStatus (← runRedirected perform tested line body redirects)
  | .branch test body otherwise => do
      let status ← perform (.command test true false)
      if status = 0 then perform (.command body tested last)
      else match otherwise with
        | some c => perform (.command c tested last)
        | none => setStatus 0
  | .loop whileFails test body => do
      setStatus (← runLoop perform tested whileFails test body)
  | .each line name written words body => do
      modifyShell fun sh => { sh with line := line }
      if !(← acceptsName name) then return ← setStatus 1
      setStatus (← keepingChannels do
        runEach perform tested line name written (← loopTexts perform words) body)
  | .select line name written words body => do
      modifyShell fun sh => { sh with line := line }
      if !(← acceptsName name) then return ← setStatus 1
      setStatus (← keepingChannels do
        runSelect perform tested line name written (← loopTexts perform words) body)
  | .choose line written subject cases => do
      modifyShell fun sh => { sh with line := line }
      let head := "case " ++ written ++ " in"
      traceHead perform head
      beginCommand perform line (head ++ " ")
      let text ← expandText perform subject
      setStatus (← runCases perform tested last text cases false)
  | .define name line body => do
      defineFunction name line body
      setStatus 0
  | .holds line written c => do
      beginCommand perform line ("[[ " ++ written ++ " ]]")
      let status ←
        try
          let truth ← keepingChannels (underName (some "[[") (holds perform false c))
          pure (if truth then 0 else 1)
        catch e =>
          match e with
          | .failed n => pure n
          | e => throw e
      settleAlone perform tested status
  | .compute line written expression => do
      beginCommand perform line ("((" ++ written ++ "))")
      let n ← commandSum perform expression
      settleAlone perform tested (if n.any (· ≠ 0) then 0 else 1)
  | .count line written start test step body => do
      setStatus (← runCount perform tested line written start test step body)
  | .timed brief c => do
      let start := (← tree).now
      let status ← perform (.command c tested false)
      reportTimes brief start
      return status
  | .coprocess name body => do
      runCoprocess name body
      setStatus 0

end ToyLang.Shell
