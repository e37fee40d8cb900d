import ToyLang.Tools.Destination
import ToyLang.Tools.Leads
import ToyLang.Tools.Basic

/-!
# Programs that link

## Main definitions

* `Linking` — how links are made.
* `ln`, `link` — the programs.
-/

namespace ToyLang.Tools

open Run

/-- How links are made. -/
structure Linking where
  /-- The name of the program. -/
  name : String
  /-- Whether the links stand for paths, and whether these start at the folder of the link. -/
  soft : Bool
  relative : Bool
  /-- Whether a further name is made for what a link leads to. -/
  logical : Bool
  /-- Whether folders may get further names as far as it goes. -/
  folders : Bool
  force : Bool
  asks : Bool
  backup : Backup
  verbose : Bool
  /-- Whether what was made for an earlier operand is kept. -/
  keepsMade : Bool := false

/-- What was made for earlier operands: paths with their nodes. -/
abbrev Linker := StateT (List (String × Nat)) Asking

namespace Linking

variable (l : Linking)

/-- Make the link itself. -/
def make (source target : String) : Run (Except FileError Unit) := do
  if l.soft then change fun t f => t.makeLink f source target
  else match ← locatePath source l.logical with
    | .ok number => change fun t f => t.makeName f number target
    | .error e => return .error e

/-- Make the link in place of what is there. -/
def replace (source target : String) : Run (Except FileError Unit) := do
  let same : Bool := match ← locatePath source l.logical, ← locatePath target false with
    | .ok number, .ok old => !l.soft && number = old
    | _, _ => false
  if same then return .ok ()
  match ← change fun t f => t.removeName f target with
  | .ok () | .error .noEntry => l.make source target
  | .error e => return .error e

/-- A path as it is reached from the folder of another one. -/
def fromFolderOf (target source : String) : Run String := do
  match ← canonicalPath .nothing (Path.parent target), ← canonicalPath .nothing source with
  | .ok folder, .ok path => return relativePath folder path
  | _, _ => return source

/-- Why a link was not made. -/
def failure (source target : String) (e : FileError) : String :=
  "failed to create "
    ++ (if l.soft then "symbolic link " ++ quoted target
        ++ (if e = .nameTooLong ∨ source = "" then " -> " ++ quoted source else "")
      else "hard link " ++ quoted target
        ++ (if e = .alreadyThere ∨ e = .noSpace then "" else " => " ++ quoted source))
    ++ ": " ++ e.reason

/-- Make room at a destination that is there.  The answer is whether the link is to be made, and the
name of the old file if it was kept; no answer is a failure, or a success without a link. -/
def makeRoom (source target : String) (old : Nat) (blocked : Bool) :
    Linker (Except Bool (Option String)) := do
  let fail (text : String) : Linker (Except Bool (Option String)) := do
    liftM (m := Run) (blame l.name text)
    return .error false
  let t ← liftM (m := Run) tree
  if t.isFolder old then
    return ← fail (quotedIfNeeded target ++ ": cannot overwrite directory")
  if l.keepsMade && (← get).contains (target, old) then
    return ← fail ("will not overwrite just-created " ++ quoted target ++ " with " ++ quoted source)
  let number? := (← liftM (m := Run) (locatePath source (l.soft || l.logical))).toOption
  if number? = some old then
    let sameFolder : Run Bool := do
      return (← locatePath (Path.parent source) true).toOption
        = (← locatePath (Path.parent target) true).toOption
    let same ← liftM (m := Run) sameFolder
    if t.nameCount old ≤ 1 || (same && Path.base source = Path.base target) then
      return ← fail (quoted source ++ " and " ++ quoted target ++ " are the same file")
  if !blocked then return .ok none
  if l.asks then
    let agreed ← liftM (m := Asking)
      (Asking.agrees (l.name ++ ": replace " ++ quoted target ++ "? "))
    if !agreed then return .error true
  if l.backup.kind = .none then return .ok none
  match ← liftM (m := Run) (l.backup.keep target) with
  | .ok path => return .ok (some path)
  | .error .noEntry => return .ok none
  | .error e => fail ("cannot backup " ++ quoted target ++ ": " ++ e.reason)

/-- Make one link; an attempt may have been made already. -/
def linkOne (tried? : Option (Except FileError Unit)) (source target : String) : Linker Bool := do
  let run {α : Type} (act : Run α) : Linker α := liftM act
  let fail (text : String) : Linker Bool := run (giveUp l.name text)
  let tried? ← match tried? with
    | some tried => pure (some tried)
    | none => if l.relative then pure none else some <$> run (l.make source target)
  let well := tried? matches some (.ok ())
  let number? ← run (locatePath source l.logical)
  if !l.soft && (!well || l.keepsMade) then
    if let .error e := number? then
      return ← fail ("failed to access " ++ quoted source ++ ": " ++ e.reason)
  let mut shown := source
  let mut kept? : Option String := none
  let mut made : Except FileError Unit := .ok ()
  if !well then
    let isFolder ← match number? with
      | .ok number => run (return (← tree).isFolder number)
      | .error _ => pure false
    if !l.soft && !l.folders && isFolder then
      return ← fail (quotedIfNeeded source ++ ": hard link not allowed for directory")
    if l.relative then shown ← run (fromFolderOf target source)
    let blocked := match tried? with
      | none | some (.error .alreadyThere) => true
      | _ => false
    let mut replaces := false
    if l.force || l.asks || l.backup.kind ≠ .none then
      match ← run (locatePath target false) with
      | .error .noEntry => pure ()
      | .error e => return ← fail ("failed to access " ++ quoted target ++ ": " ++ e.reason)
      | .ok old =>
          match ← l.makeRoom shown target old blocked with
          | .error done => return done
          | .ok kept =>
              kept? := kept
              replaces := true
    made ← match tried? with
      | some (.error e) =>
          if replaces && blocked then run (l.replace shown target) else pure (.error e)
      | _ => if replaces then run (l.replace shown target) else run (l.make shown target)
  match made with
  | .ok () =>
      if l.keepsMade then
        if let .ok number := ← run (locatePath target false) then
          modify fun found => (target, number) :: found
      if l.verbose then
        let front := match kept? with
          | some path => quoted path ++ " ~ "
          | none => ""
        run (put (front ++ quoted target ++ (if l.soft then " -> " else " => ") ++ quoted shown
          ++ "\n"))
      return true
  | .error e =>
      run (blame l.name (l.failure shown target e))
      if let some path := kept? then discard (run (change fun t f => t.move f path target))
      return false

/-- Make links in a folder. -/
def linkInside (folder : String) (sources : List String) : Linker Nat := do
  let mut status := 0
  for source in sources do
    if !(← l.linkOne none source (pathInside folder source)) then status := 1
  return status

end Linking

/-- The options of `ln`. -/
def linkTable : OptionTable :=
  { flags := "bdfFiLnPrsTv", valued := "tS"
    long := aimOptions ++ backupOptions ++ [("directory", 'F', .none), ("symbolic", 's', .none),
      ("force", 'f', .none), ("no-dereference", 'n', .none), ("relative", 'r', .none),
      ("verbose", 'v', .none), ("interactive", 'i', .none), ("logical", 'L', .none),
      ("physical", 'P', .none)] }

/-- Make links and further names. -/
def ln : Tool := fun name arguments =>
  withOptions name linkTable arguments fun g => do
    let fail (text : String) : Run Nat := do
      blame name text
      return 1
    let folder? := g.value? 't'
    if 1 < (g.values 't').length then return ← fail "multiple target directories specified"
    if let some folder := folder? then
      match ← notFolder? folder with
      | none => pure ()
      | some .notDirectory => return ← fail ("target " ++ quoted folder ++ " is not a directory")
      | some e => return ← fail ("failed to access " ++ quoted folder ++ ": " ++ e.reason)
    let asked := g.last? ['f', 'i']
    let l : Linking :=
      { name := name
        soft := g.has 's'
        relative := g.has 'r'
        logical := g.last? ['L', 'P'] = some 'L'
        folders := g.has 'd' || g.has 'F'
        force := asked = some 'f'
        asks := asked = some 'i'
        backup := {}
        verbose := g.has 'v' }
    if g.operands.isEmpty then return ← misused name "missing file operand"
    if l.relative ∧ !l.soft then return ← fail "cannot do --relative without --symbolic"
    let first := g.operands.headD ""
    let others := g.operands.drop 1
    if g.has 'T' then
      if folder?.isSome then
        return ← fail "cannot combine --target-directory and --no-target-directory"
      if others.isEmpty then
        return ← misused name ("missing destination file operand after " ++ quoted first)
      if 1 < others.length then
        return ← misused name ("extra operand " ++ quoted ((others.drop 1).headD ""))
    let tried? : Option (Except FileError Unit) ←
      match g.has 'T' || folder?.isSome || l.relative, others with
      | false, [target] => some <$> l.make first target
      | _, _ => pure none
    let looks := !g.has 'T' && match tried? with
      | none | some (.error .alreadyThere) | some (.error .notDirectory)
      | some (.error .invalid) => true
      | _ => false
    let last := others.getLastD ""
    let aim : Aim ←
      match folder?, others with
      | some folder, _ => pure (.inside folder g.operands)
      | none, [] => pure (.inside "." g.operands)
      | none, _ =>
          if looks then
            match ← notFolder? last (!g.has 'n'), others with
            | none, _ => pure (.inside last g.operands.dropLast)
            | some _, [target] => pure (.onto first target)
            | some e, _ => return ← fail ("target " ++ quoted last ++ ": " ++ e.reason)
          else pure (.onto first last)
    match ← givenBackup name g with
    | .error status => return status
    | .ok backup =>
        let l := { l with backup := backup }
        match aim with
        | .inside folder sources =>
            let keepsMade := 1 < sources.length && l.force && !l.soft && backup.kind ≠ .numbered
            let l := { l with keepsMade := keepsMade }
            asking ((l.linkInside folder sources).run' [])
        | .onto source target =>
            let well ← asking ((l.linkOne tried? source target).run' [])
            return if well then 0 else 1

/-- Make one further name. -/
def link : Tool := fun name arguments =>
  withOptions name {} arguments fun g => do
    match g.operands with
    | [] => missingOperand name []
    | [one] => missingOperand name [one]
    | _ :: _ :: extra :: _ => extraOperand name extra
    | [source, target] =>
        let made ← match ← locatePath source false with
          | .ok number => change fun t f => t.makeName f number target
          | .error e => pure (.error e)
        match made with
        | .ok () => return 0
        | .error e =>
            blame name ("cannot create link " ++ quoted target ++ " to " ++ quoted source ++ ": "
              ++ e.reason)
            return 1

end ToyLang.Tools
