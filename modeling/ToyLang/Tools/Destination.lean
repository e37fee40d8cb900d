import ToyLang.Files.Tree
import ToyLang.Tools.Basic

/-!
# Destinations and backups

Programs that copy, move and link take sources and a destination.  If the destination is a folder,
each source gets its own name in it.  A program that is about to replace a file may keep the old
one under another name, which is made with a suffix or with a number.

## Main definitions

* `Aim` — where sources go.
* `aimOf` — what operands and options say about that.
* `BackupKind`, `Backup` — how old files are kept.
* `Backup.nameOf` — the name that an old file gets.
* `givenBackup` — what options ask for.
-/

namespace ToyLang.Tools

open Run

/-! ### Destinations -/

/-- Where sources go. -/
inductive Aim where
  | inside (folder : String) (sources : List String)
  | onto (source target : String)

/-- The options about where the destination is. -/
def aimOptions : List (String × Char × Arity) :=
  [("target-directory", 't', .required), ("no-target-directory", 'T', .none)]

/-- The path that the last name of a source gets in a folder. -/
def pathInside (folder source : String) : String := Path.join folder (Path.base source)

/-- Why a path leads to no folder; nothing if it does. -/
def notFolder? (path : String) (follow : Bool := true) : Run (Option FileError) := do
  match ← locatePath path follow with
  | .error e => return some e
  | .ok number => return if (← tree).isFolder number then none else some .notDirectory

/-- Complain about a destination and refuse to go on. -/
def refuseAim (name text : String) : Run (Except Nat Aim) := do
  blame name text
  return .error 1

/-- Complain about operands and refuse to go on. -/
def misuseAim (name text : String) : Run (Except Nat Aim) := do
  return .error (← misused name text)

/-- Where sources go.  What is said about the folder that is named by an option may be different
from program to program. -/
def aimOf (name : String) (g : Given) (complaint : String → FileError → String := fun path e =>
    "target directory " ++ quoted path ++ ": " ++ e.reason) : Run (Except Nat Aim) := do
  if 1 < (g.values 't').length then return ← refuseAim name "multiple target directories specified"
  let folder? := g.value? 't'
  match g.operands with
  | [] => misuseAim name "missing file operand"
  | first :: others =>
      if others.isEmpty ∧ folder?.isNone then
        return ← misuseAim name ("missing destination file operand after " ++ quoted first)
      if g.has 'T' then
        if folder?.isSome then
          return ← refuseAim name ("cannot combine --target-directory (-t) "
            ++ "and --no-target-directory (-T)")
        match others with
        | [target] => return .ok (.onto first target)
        | _ => return ← misuseAim name ("extra operand " ++ quoted ((others.drop 1).headD ""))
      match folder? with
      | some folder =>
          match ← notFolder? folder with
          | none => return .ok (.inside folder g.operands)
          | some e => refuseAim name (complaint folder e)
      | none =>
          let last := others.getLastD ""
          match ← notFolder? last, others with
          | none, _ => return .ok (.inside last g.operands.dropLast)
          | some _, [target] => return .ok (.onto first target)
          | some e, _ => refuseAim name ("target " ++ quoted last ++ ": " ++ e.reason)

/-! ### Backups -/

/-- How old files are named. -/
inductive BackupKind where
  | none
  /-- With a suffix. -/
  | simple
  /-- With a number if there is one with a number already, else with a suffix. -/
  | existing
  | numbered
  deriving DecidableEq

/-- The words for how old files are named. -/
def backupWords : List (List String × BackupKind) :=
  [(["none", "off"], .none), (["simple", "never"], .simple), (["existing", "nil"], .existing),
    (["numbered", "t"], .numbered)]

/-- How old files are kept. -/
structure Backup where
  kind : BackupKind := .none
  suffix : String := "~"

namespace Backup

/-- The number in a name that was made of another one, if there is one. -/
def numberIn? (base name : String) : Option Nat :=
  let cs := name.toList
  let start := base.toList ++ ['.', '~']
  let digits := (cs.drop start.length).takeWhile Char.isDigit
  if cs.take start.length = start ∧ cs.drop (start.length + digits.length) = ['~']
      ∧ digits.head?.any (· ≠ '0') then
    some (Nat.ofDigitChars 10 digits 0)
  else none

/-- The highest number in the names that were made of another one, among some names. -/
def highest (base : String) (names : List String) : Nat :=
  (names.filterMap (numberIn? base)).foldl max 0

/-- The name that the file at a path gets, among the names in its folder. -/
def nameOf (b : Backup) (path : String) (names : List String) : String :=
  let path := Path.trimSlashes path
  let last := highest (Path.base path) names
  if b.kind = .numbered || (b.kind = .existing && 0 < last) then
    path ++ ".~" ++ toString (last + 1) ++ "~"
  else path ++ b.suffix

/-- Keep the file at a path under another name, which is given back. -/
def keep (b : Backup) (path : String) : Run (Except FileError String) := do
  let t ← tree
  let names := match t.locate (← process).folder (Path.parent path) with
    | .ok folder => (t.entries folder).map Prod.fst
    | .error _ => []
  let name := b.nameOf path names
  match ← change fun t f => t.move f path name with
  | .ok () => return .ok name
  | .error e => return .error e

end Backup

/-- The options about backups. -/
def backupOptions : List (String × Char × Arity) :=
  [("backup", 'b', .optional), ("suffix", 'S', .required)]

/-- How options and the environment ask for old files to be kept; a status if that is not clear. -/
def givenBackup (name : String) (g : Given) : Run (Except Nat Backup) := do
  let environment := (← process).environment
  let suffix := (g.value? 'S' <|> environment.lookup "SIMPLE_BACKUP_SUFFIX").getD "~"
  let suffix := if suffix = "" || suffix.contains '/' then "~" else suffix
  if !(g.has 'b' || g.has 'S') then return .ok { suffix := suffix }
  let asked := ((g.values 'b').filter (· ≠ "")).getLast?
  let (origin, word) := match asked with
    | some word => ("backup type", word)
    | none => ("$VERSION_CONTROL", (environment.lookup "VERSION_CONTROL").getD "")
  if word = "" then return .ok { kind := .existing, suffix := suffix }
  match choice? backupWords word with
  | .ok kind => return .ok { kind := kind, suffix := suffix }
  | .error isStart =>
      complainOfChoice name origin word backupWords isStart
      return .error (← askForHelp name 1)

end ToyLang.Tools
