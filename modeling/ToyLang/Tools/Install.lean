import ToyLang.Files.Access
import ToyLang.Tools.Copying
import ToyLang.Tools.Destination
import ToyLang.Tools.Special

/-!
# The program that installs

It copies files in place of old ones, and gives the copies a mode and an owner.

## Main definitions

* `Installing` — how files are installed.
* `install` — the program.
-/

namespace ToyLang.Tools

open Run

/-- How files are installed. -/
structure Installing where
  copying : Copying
  /-- The mode of files, and that of folders. -/
  mode : Nat
  folderMode : Nat
  owner? : Option Nat
  group? : Option Nat
  /-- Whether a file that is there already in the same form is left alone. -/
  compares : Bool
  /-- Whether the names of a program are taken out of the copy. -/
  strips : Bool

namespace Installing

variable (i : Installing)

/-- Give what a path leads to a mode, and the owner that is asked for. -/
def finish (path : String) (mode : Nat) : Run Unit := do
  if let .ok number := ← locatePath path true then
    modifyTree fun t => t.alter number fun n =>
      { n with
        owner := i.owner?.getD n.owner
        group := i.group?.getD n.group
        mode := mode }

/-- Whether a file is there already in the form that it would be installed in. -/
def isInstalled (source target : String) : Run Bool := do
  let t ← tree
  match ← locatePath source false, ← locatePath target false with
  | .ok src, .ok dst =>
      let (s, d) := (t.node src, t.node dst)
      match s.content, d.content with
      | .file bytes, .file bytes' =>
          return i.mode < 0o1000 && s.mode < 0o1000 && d.mode = i.mode
            && d.owner = i.owner?.getD 0 && d.group = i.group?.getD 0
            && bytes.toList = bytes'.toList
      | _, _ => return false
  | _, _ => return false

/-- Install a file. -/
def installFile (source target : String) : Copier Bool := do
  let c := i.copying
  if c.keepsTimes then
    if let .error e := ← Copier.lift (locatePath source true) then
      return ← Copier.lift (giveUp c.name ("cannot stat " ++ quoted source ++ ": " ++ e.reason))
  let same ← if i.compares then Copier.lift (i.isInstalled source target) else pure false
  let well ← if same then pure true else c.copyOne none source target
  if !well then return false
  if i.strips then
    Copier.lift (blame c.name ("cannot run " ++ quoted "strip" ++ ": "
      ++ FileError.noEntry.reason))
    Copier.lift (blame c.name "strip process terminated abnormally")
    discard (Copier.lift (change fun t f => t.removeName f target))
    return false
  Copier.lift (i.finish target i.mode)
  return true

/-- Install files in a folder. -/
def installInside (folder : String) (sources : List String) : Copier Nat := do
  let mut status := 0
  for source in sources do
    if !(← i.installFile source (pathInside folder source)) then status := 1
  return status

/-- Make folders as they are installed. -/
def installFolders (words : Option String) (paths : List String) : Run Nat := do
  let mut status := 0
  for path in paths do
    if ← makeFolders i.copying.name words FileTree.folderMode FileTree.folderMode path then
      i.finish path i.folderMode
    else status := 1
  return status

end Installing

/-- The options of `install`. -/
def installTable : OptionTable :=
  { flags := "bcCdDpsTvZ", valued := "gmotS"
    long := aimOptions ++ backupOptions ++ [("directory", 'd', .none), ("mode", 'm', .required),
      ("group", 'g', .required), ("owner", 'o', .required), ("verbose", 'v', .none),
      ("strip", 's', .none), ("strip-program", '6', .required), ("compare", 'C', .none),
      ("preserve-timestamps", 'p', .none), ("context", 'Z', .optional),
      ("preserve-context", '7', .none)] }

/-- The number of an owner that is asked for, or a status. -/
def givenOwner (name : String) (forGroup : Bool) (text? : Option String) :
    Run (Except Nat (Option Nat)) := do
  match text? with
  | none => return .ok none
  | some text =>
      match Owner.read? forGroup text with
      | some number => return .ok (some number)
      | none =>
          blame name ("invalid " ++ (if forGroup then "group " else "user ") ++ quoted text)
          return .error 1

/-- Copy files with a mode, in place of old ones. -/
def install : Tool := fun name arguments =>
  withOptions name installTable arguments fun g => do
    let fail (text : String) : Run Nat := do
      blame name text
      return 1
    if g.has 'd' ∧ g.has 's' then
      return ← fail "the strip option may not be used when installing a directory"
    if g.has 'd' ∧ g.has 't' then
      return ← fail "target directory not allowed when installing a directory"
    let backup ← match ← givenBackup name g with
      | .ok backup => pure backup
      | .error status => return status
    let words := if g.has 'v' then some "creating directory" else none
    let makeAll (path : String) : Run Bool :=
      makeFolders name words FileTree.folderMode FileTree.folderMode path
    if g.has 'D' ∧ !g.has 'd' ∧ !g.operands.isEmpty then
      if let some folder := g.value? 't' then
        if !(← isThere folder true) ∧ !(← makeAll folder) then return 1
    let aim ←
      if g.has 'd' then
        if g.operands.isEmpty then return ← misused name "missing file operand"
        pure (Except.ok (Aim.inside "" g.operands))
      else aimOf name g fun path e => "failed to access " ++ quoted path ++ ": " ++ e.reason
    let aim ← match aim with
      | .ok aim => pure aim
      | .error status => return status
    let written := (g.value? 'm').getD "755"
    match Mode.ofText? written 0 false 0, Mode.ofText? written 0 true 0 with
    | some mode, some folderMode =>
        if g.has 'C' ∧ g.has 's' then
          return ← misused name "options --compare (-C) and --strip are mutually exclusive"
        if g.has 'C' ∧ 0o1000 ≤ mode then
          blame name ("the --compare (-C) option is ignored when you specify a mode"
            ++ " with non-permission bits")
        match ← givenOwner name false (g.value? 'o'), ← givenOwner name true (g.value? 'g') with
        | .ok owner?, .ok group? =>
            let i : Installing :=
              { copying :=
                  { name := name
                    clears := true
                    keepsTimes := g.has 'p'
                    mode? := some mode
                    installs := true
                    backup := backup
                    verbose := g.has 'v' }
                mode := mode
                folderMode := folderMode
                owner? := owner?
                group? := group?
                compares := g.has 'C'
                strips := g.has 's' }
            match aim with
            | .inside folder sources =>
                if g.has 'd' then i.installFolders words sources
                else
                  let i := { i with copying.several := true }
                  asking ((i.installInside folder sources).run' {})
            | .onto source target =>
                if g.has 'D' then
                  if !(← makeAll (Path.parent target)) then return 1
                let well ← asking ((i.installFile source target).run' {})
                return if well then 0 else 1
        | .error status, _ | _, .error status => return status
    | _, _ => fail ("invalid mode " ++ mentioned written)

end ToyLang.Tools
