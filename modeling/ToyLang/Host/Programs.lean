import ToyLang.Shell.Start
import ToyLang.Tools.Batch
import ToyLang.Tools.Blocks
import ToyLang.Tools.Checksum
import ToyLang.Tools.Circumstance
import ToyLang.Tools.Columns
import ToyLang.Tools.Compare
import ToyLang.Tools.Copy
import ToyLang.Tools.Streams
import ToyLang.Tools.Cut
import ToyLang.Tools.Dump
import ToyLang.Tools.Edit
import ToyLang.Tools.Expression
import ToyLang.Tools.Facts
import ToyLang.Tools.Find
import ToyLang.Tools.Install
import ToyLang.Tools.Joined
import ToyLang.Tools.Leads
import ToyLang.Tools.Letters
import ToyLang.Tools.Links
import ToyLang.Tools.Listing
import ToyLang.Tools.Names
import ToyLang.Tools.Numbering
import ToyLang.Tools.Numbers
import ToyLang.Tools.Order
import ToyLang.Tools.Pages
import ToyLang.Tools.Paragraphs
import ToyLang.Tools.Parts
import ToyLang.Tools.Permission
import ToyLang.Tools.Pieces
import ToyLang.Tools.Records
import ToyLang.Tools.Removal
import ToyLang.Tools.Repeated
import ToyLang.Tools.Replaced
import ToyLang.Tools.Scaled
import ToyLang.Tools.Sections
import ToyLang.Tools.Selected
import ToyLang.Tools.Started
import ToyLang.Tools.Sizes
import ToyLang.Tools.Sort
import ToyLang.Tools.Special
import ToyLang.Tools.Status
import ToyLang.Tools.Times
import ToyLang.Tools.Usage

/-!
# The programs of a host

The programs that every host has besides its shells, by their names, and what becomes of a program
that a script runs.

## Main definitions

* `tools` — the programs.
* `runTool` — one of them.
* `performWithin` — what a shell asks for, within a budget.
* `perform` — the same within the budget that a host has.
-/

namespace ToyLang.Host

open Run Tools
open Shell (Perform Dialect)

/-- The programs that start no others. -/
def plainTools : List (String × Tool) :=
  [("cat", cat), ("tac", tac), ("rev", rev), ("tee", tee), ("nl", nl), ("head", head),
    ("tail", tail), ("wc", wc), ("sort", sort), ("uniq", uniq), ("comm", comm), ("cut", cut),
    ("paste", paste), ("fold", fold), ("expand", expand), ("unexpand", unexpand),
    ("fmt", fmt), ("tsort", tsort), ("shuf", shuf), ("numfmt", numfmt), ("grep", grep),
    ("egrep", grepAs 'E'), ("fgrep", grepAs 'F'), ("tr", tr), ("od", od),
    ("base64", base64), ("base32", base32), ("basenc", basenc), ("seq", seq), ("expr", expr),
    ("factor", factor), ("echo", echo), ("printf", printf), ("du", du), ("pathchk", pathchk),
    ("mkfifo", mkfifo), ("mknod", mknod),
    ("test", testTool false), ("[", testTool true), ("true", idle 0), ("false", idle 1),
    ("sync", sync), ("basename", basename), ("dirname", dirname), ("readlink", readlink),
    ("realpath", realpath), ("pwd", pwd), ("mktemp", mktemp), ("cp", cp), ("mv", mv), ("ln", ln),
    ("install", install), ("rm", rm), ("rmdir", rmdir), ("unlink", unlink), ("link", link),
    ("mkdir", mkdir), ("touch", touch), ("truncate", truncate), ("chmod", chmod),
    ("chown", chown), ("chgrp", chgrp), ("ls", ls), ("dir", dir), ("vdir", vdir),
    ("stat", stat),
    ("printenv", printenv), ("sleep", sleep), ("kill", kill), ("yes", yes), ("id", userIds),
    ("whoami", userName), ("groups", groupNames), ("logname", logname), ("users", users),
    ("who", who), ("arch", arch), ("nproc", nproc), ("hostname", hostname), ("hostid", hostid),
    ("tty", tty), ("stty", stty), ("uname", uname), ("which", which), ("date", date),
    ("cmp", cmp), ("diff", diff),
    ("cksum", cksum), ("sum", sum), ("md5sum", digestTool "md5"), ("sha1sum", digestTool "sha1"),
    ("sha224sum", digestTool "sha224"), ("sha256sum", digestTool "sha256"),
    ("sha384sum", digestTool "sha384"), ("sha512sum", digestTool "sha512"),
    ("b2sum", digestTool "blake2b"), ("dd", dd), ("split", split), ("join", join), ("csplit", csplit), ("pr", pr)]

/-- The programs of the host. -/
def tools (perform : Perform) : List (String × Tool) :=
  plainTools ++
    [("env", env perform), ("nohup", nohup perform), ("nice", nice perform),
      ("setsid", setsid perform), ("stdbuf", stdbuf perform), ("chroot", chroot perform),
      ("timeout", timeout perform), ("xargs", xargs perform), ("find", find perform),
      ("sed", sed perform), ("awk", awk perform), ("mawk", awk perform), ("nawk", awk perform)]

/-- The names of the programs. -/
def toolNames : List String := (tools fun _ => return 0).map Prod.fst

/-- What a program says of output that got lost, line by line, and its status then. -/
def lossOf (name reason : String) : List String × Nat :=
  match (name.splitOn "/").getLast?.getD name with
  | "wc" | "cksum" | "sum" | "md5sum" | "sha1sum" | "sha224sum" | "sha256sum" | "sha384sum"
  | "sha512sum" | "b2sum" | "du" => (["write error"], 1)
  | "sort" => (["fflush failed: 'standard output': " ++ reason, "write error"], 2)
  | "tee" => (["'standard output': " ++ reason], 1)
  | "find" => (["‘standard output’: " ++ reason, "write error"], 1)
  | "sed" => (["couldn't flush stdout: " ++ reason], 4)
  | "diff" => (["standard output: " ++ reason], 2)
  | "yes" => (["standard output: " ++ reason], 1)
  | "awk" | "mawk" | "nawk" =>
      (["write failure (" ++ reason ++ ")", "close failure on file /dev/stdout"], 2)
  | "grep" | "egrep" | "fgrep" | "ls" | "dir" | "printenv" => (["write error: " ++ reason], 2)
  | "expr" | "tty" => (["write error: " ++ reason], 3)
  | "env" | "nice" => (["write error: " ++ reason], 125)
  | _ => (["write error: " ++ reason], 1)

/-- Run a program with its own name in front of its arguments.  Output that got lost is a failure
in the end. -/
def runTool (tool : Tool) (arguments : List String) : Run Nat := do
  let name := arguments.headD ""
  modifyProcess fun p => { p with lost := none }
  let status ← tool name (arguments.drop 1)
  match (← process).lost with
  | some e =>
      let (texts, failure) := lossOf name e.reason
      let shown := if ["egrep", "fgrep"].contains name then "grep" else name
      for text in texts do blame shown text
      return if status = 0 || failure ≠ 1 then failure else status
  | none => return status

/-! ### Running programs

A script runs programs, and some of these are shells that run scripts in turn.  How deep this may
go is bounded by a budget, of which each step down takes one. -/

/-- The shells by the names of their programs. -/
def shells : List (String × Dialect) :=
  [("sh", .plain), ("dash", .plain), ("bash", .extended), ("rbash", .extended)]

/-- The signal that ends a process which has gone too deep. -/
def overflowSignal : Nat := 11

/-- The status for a program that cannot be run. -/
def notRunnable : Nat := 126

/-- What a shell asks for, within a budget. -/
def performWithin : (budget : Nat) → Perform
  | 0 => fun _ => throw (.killed overflowSignal)
  | budget + 1 => fun task =>
      let perform := performWithin budget
      match task with
      | .command c tested last => Shell.evaluate perform tested last c
      | .script text line tested last => Shell.runScript perform text line tested last
      | .job number => Shell.runJob perform number
      | .program kind arguments =>
          match shells.lookup kind with
          | some dialect => Shell.startShell perform dialect arguments
          | none =>
              match (tools perform).lookup kind with
              | some tool => runTool tool arguments
              | none => return notRunnable

/-- How deep scripts may go. -/
def budget : Nat := 2000

/-- What a shell asks for. -/
def perform : Perform := performWithin budget

end ToyLang.Host
