import ToyLang.Tools.Destination
import ToyLang.Tools.FileFacts
import ToyLang.Tools.Basic
import ToyLang.Tools.Special

/-!
# Copies

What programs that copy and move have in common: one walk through a source and its destination,
with many ways to treat what is there already.

## Main definitions

* `Copying` — how things are copied or moved.
* `Copier` — a run that remembers what was copied.
* `Copying.sameFile` — whether a file may be copied onto itself.
* `Copying.copyPath` — the walk.
-/

namespace ToyLang.Tools

open Run

/-- Which links are copied as what they lead to. -/
inductive LinkUse where
  | all
  /-- Those that are named as operands. -/
  | named
  | none
  deriving DecidableEq

/-- What is done about files that are there already. -/
inductive Existing where
  | replace
  | ask
  | leave
  deriving DecidableEq

/-- How things are copied or moved. -/
structure Copying where
  /-- The name of the program. -/
  name : String
  moves : Bool := false
  recursive : Bool := false
  follow : LinkUse := .all
  existing : Existing := .replace
  /-- Whether files that are there are left alone unless they are older. -/
  update : Bool := false
  /-- Whether a further name is made instead of a copy. -/
  hard : Bool := false
  /-- Whether a link is made instead of a copy. -/
  soft : Bool := false
  /-- Whether what is there is removed first. -/
  clears : Bool := false
  /-- Whether what is there is removed if it cannot be written to. -/
  clearsBlocked : Bool := false
  /-- Whether the contents of what is no file are copied too. -/
  asRegular : Bool := true
  keepsMode : Bool := false
  keepsTimes : Bool := false
  keepsOwner : Bool := false
  /-- Whether names of one file become names of one copy. -/
  keepsNames : Bool := false
  /-- Whether modes are the usual ones. -/
  usualMode : Bool := false
  /-- The mode that all copies get. -/
  mode? : Option Nat := Option.none
  /-- Whether contents are copied. -/
  withData : Bool := true
  /-- Whether contents have to be shared, which is not possible. -/
  shares : Bool := false
  /-- Whether folders are never copied. -/
  installs : Bool := false
  backup : Backup := {}
  verbose : Bool := false
  /-- Whether there are several sources. -/
  several : Bool := false

/-- What is remembered of copies. -/
structure Copied where
  /-- The sources that were met, with the paths of their copies. -/
  copies : List (Nat × String) := []
  /-- The sources that were named, with their places. -/
  sources : List (Nat × Option (Nat × String)) := []
  /-- The paths of what was made for those, with the nodes. -/
  made : List (String × Nat) := []

/-- A run that remembers what was copied, and may ask. -/
abbrev Copier := StateT Copied Asking

/-- Where the walk for one operand has begun. -/
structure Top where
  source : String
  target : String

/-- What has become of a source. -/
inductive Fate where
  | done
  | failed
  /-- The copy would go into the source. -/
  | inside
  deriving DecidableEq

namespace Copier

/-- Do something to files. -/
def lift {α : Type} (act : Run α) : Copier α := liftM act

/-- Complain, and give up on a source. -/
def fail (name text : String) : Copier Fate := do
  lift (blame name text)
  return .failed

/-- The folder and the name by which a path is reached. -/
def placeOf (path : String) : Copier (Option (Nat × String)) := do
  match ← lift (locatePath (Path.parent path) true) with
  | .ok folder => return some (folder, Path.base path)
  | .error _ => return none

/-- Whether two paths are the same name in the same folder. -/
def sameName (path other : String) : Copier Bool := do
  match ← placeOf path, ← placeOf other with
  | some place, some place' => return decide (place = place')
  | _, _ => return false

/-- The path of the copy of a source that was met before. -/
def earlier? (number : Nat) : Copier (Option String) := do
  return (← get).copies.lookup number

/-- Remember the path of the copy of a source, unless it was met before. -/
def remember (number : Nat) (target : String) : Copier (Option String) := do
  match ← earlier? number with
  | some path => return some path
  | none =>
      modify fun s => { s with copies := (number, target) :: s.copies }
      return none

/-- Whether what a path leads to was made for an earlier operand. -/
def wasMade (path : String) (number : Nat) : Copier Bool := do
  return (← get).made.contains (path, number)

/-- Remember what was made at a path. -/
def noteMade (path : String) : Copier Unit := do
  match ← lift (locatePath path false) with
  | .ok number => modify fun s => { s with made := (path, number) :: s.made }
  | .error _ => return

end Copier

open Copier

/-- Say what goes where, with the name under which an old file was kept. -/
def arrow (source target : String) (kept? : Option String := none) : String :=
  quoted source ++ " -> " ++ quoted target
    ++ (match kept? with
      | some path => " (backup: " ++ quoted path ++ ")"
      | none => "") ++ "\n"

/-- Whether a node is a link. -/
def isLink (t : FileTree) (number : Nat) : Bool :=
  match t.content number with
  | .link _ => true
  | _ => false

/-- Whether a node is a file. -/
def isPlainFile (t : FileTree) (number : Nat) : Bool :=
  match t.content number with
  | .file _ => true
  | _ => false

/-- Let a name take the place of another one, which may be there already if it is to be
replaced. -/
def renamePath (replaces : Bool) (source target : String) : Run (Except FileError Unit) := do
  match ← locatePath (Path.trimSlashes source) false with
  | .error e => return .error e
  | .ok _ =>
      let isFixed (path : String) : Bool := ["", ".", "..", "/"].contains (Path.base path)
      if isFixed source then return .error .busy
      if !replaces then
        if ← isThere (Path.trimSlashes target) false then return .error .alreadyThere
      if target = "" then return .error .noEntry
      if isFixed target then return .error .busy
      change fun t f => t.move f source target

namespace Copying

variable (c : Copying)

/-- Whether links are followed at a place of the walk. -/
def follows (named : Bool) : Bool := c.follow = .all || (named && c.follow = .named)

/-- Whether a source may be copied to a destination that is there, and whether nothing is left to
do.  They may be names of one file, or links that lead to it. -/
def sameFile (source target : String) (src dst : Nat) : Copier (Bool × Bool) := do
  let t ← lift tree
  let keepsOld := c.backup.kind ≠ .none
  if src = dst && c.hard then return (true, true)
  let mut srcItself := src
  let mut dstItself := dst
  if c.follow = .none then
    if isLink t src && isLink t dst then
      if ← sameName source target then return (false, false)
      if keepsOld then return (true, false)
      return if src = dst then (!c.moves, true) else (true, false)
  else
    if src ≠ dst then return (true, false)
    match ← lift (locatePath source false), ← lift (locatePath target false) with
    | .ok s, .ok d =>
        srcItself := s
        dstItself := d
    | _, _ => return (true, false)
    if isLink t srcItself && isLink t dstItself && c.clears then return (true, false)
  let sameItself := srcItself = dstItself
  if keepsOld then
    if sameItself then return (!(← sameName source target), false)
    return (c.moves || c.follow = .none || !isLink t srcItself || isLink t dstItself, false)
  let many := 1 < linkCount t dstItself
  if c.moves || c.clears then
    if isLink t dstItself then return (true, false)
    if sameItself && many then
      if !(← sameName source target) then return (!c.moves, false)
  if !isLink t srcItself && !isLink t dstItself then
    if !sameItself then return (true, false)
    if c.hard then return (true, true)
  if c.moves && isLink t src && many then
    match ← lift (locatePath source true), ← placeOf target with
    | .ok number, some (folder, base) =>
        return ((t.entries folder).lookup base ≠ some number, false)
    | _, _ => return (true, false)
  if c.soft && isLink t dstItself then return (true, false)
  if c.follow = .none then
    match ← lift (locatePath source true), ← lift (locatePath target true) with
    | .ok s, .ok d =>
        if s ≠ d then return (true, false)
        if c.hard then return (true, !isLink t dstItself)
    | _, _ => return (true, false)
  return (false, false)

/-- Make a further name for a node. -/
def makeHard (number : Nat) (shown target : String) (replaces tells : Bool) : Copier Fate := do
  let make : Run (Except FileError Unit) := change fun t f => t.makeName f number target
  let made ← lift make
  let (made, replaced) ←
    if made matches .error .alreadyThere then
      if replaces then do
        let same := (← lift (locatePath target false)).toOption = some number
        if !same then discard (lift (change fun t f => t.removeName f target))
        pure (← if same then pure (.ok ()) else lift make, true)
      else pure (made, false)
    else pure (made, false)
  match made with
  | .ok () =>
      if replaced && tells then lift (put ("removed " ++ quoted target ++ "\n"))
      return .done
  | .error e =>
      fail c.name ("cannot create hard link " ++ quoted target ++ " to " ++ quoted shown ++ ": "
        ++ e.reason)

/-- Make a link. -/
def makeSoft (text target : String) : Run (Except FileError Unit) := do
  let make : Run (Except FileError Unit) := change fun t f => t.makeLink f text target
  match ← make with
  | .error .alreadyThere =>
      if c.clearsBlocked then
        match ← change fun t f => t.removeName f target with
        | .ok () => make
        | .error e => return .error e
      else return .error .alreadyThere
  | made => return made

/-- Give a copy what is kept of its source; a mode that is not kept is another one. -/
def finish (src dst : Nat) (mode? : Option Nat) : Run Unit := do
  let n := (← tree).node src
  modifyTree fun t => t.alter dst fun copy =>
    { copy with
      time := if c.keepsTimes then n.time else copy.time
      used := if c.keepsTimes then n.used else copy.used
      owner := if c.keepsOwner then n.owner else copy.owner
      group := if c.keepsOwner then n.group else copy.group
      mode := if c.keepsMode then n.mode else mode?.getD copy.mode }

/-- The mode of a new copy. -/
def newMode (old usual : Nat) : Run Nat := do
  match c.mode? with
  | some mode => return mode
  | none => masked (if c.usualMode then usual else old % 0o1000)

/-- Copy the contents of a file; the destination may be new. -/
def copyContents (number : Nat) (source target : String) (isNew : Bool) : Copier Fate := do
  let text ← match ← lift (readPath source) with
    | .ok text => pure text
    | .error e => return ← fail c.name ("cannot open " ++ quoted source ++ " for reading: " ++ e.reason)
  let t ← lift tree
  let itself := (← lift (locatePath target false)).toOption
  if isNew && itself.any (isLink t) then
    return ← fail c.name ("not writing through dangling symlink " ++ quoted target)
  let how : Opening := if c.withData then .writing else .appending
  let opened ← lift (writePath target "" how)
  if let .error e := opened then
    let e := if e = .isDirectory ∧ target.endsWith "/" then .notDirectory else e
    return ← fail c.name ("cannot create regular file " ++ quoted target ++ ": " ++ e.reason)
  if c.withData && c.shares then
    return ← fail c.name ("failed to clone " ++ quoted target ++ " from " ++ quoted source ++ ": "
      ++ FileError.unsupported.reason)
  if c.withData then
    if let .error e := ← lift (writePath target text) then
      return ← fail c.name ("error writing " ++ quoted target ++ ": " ++ e.reason)
  let mode ← lift (c.newMode (t.node number).mode newFileMode)
  if let .ok copy := ← lift (locatePath target true) then
    if ← lift (return (← tree).isFolder copy) then return .done
    lift (c.finish number copy (if isNew || c.mode?.isSome then some mode else none))
  return .done

/-- Whether a link of one operand may be made: one that does not start at the root only in the
folder that is worked in. -/
def mayLink (source target : String) : Run Bool := do
  if Path.isAbsolute source then return true
  match ← locatePath (Path.parent target) true with
  | .ok folder => return folder = (← process).folder
  | .error _ => return true

/-- Copy what is no folder, and not a name to be moved either. -/
def copySingle (number : Nat) (named : Bool) (source target : String) (isNew : Bool) :
    Copier Fate := do
  let t ← lift tree
  if c.soft then
    if !(← lift (mayLink source target)) then
      return ← fail c.name (quotedIfNeeded target
        ++ ": can make relative symbolic links only in current directory")
    match ← lift (c.makeSoft source target) with
    | .ok () => return .done
    | .error e =>
        return ← fail c.name ("cannot create symbolic link " ++ quoted target ++ " to "
          ++ quoted source ++ ": " ++ e.reason)
  if c.hard then
    let linked := (← lift (locatePath source (c.follows named))).toOption.getD number
    return ← c.makeHard linked source target (c.clearsBlocked || c.existing = .ask) false
  match t.content number with
  | .link text =>
      match ← lift (c.makeSoft text target) with
      | .error e =>
          fail c.name ("cannot create symbolic link " ++ quoted target ++ ": " ++ e.reason)
      | .ok () =>
          if let .ok copy := ← lift (locatePath target false) then
            lift ({ c with keepsMode := false }.finish number copy none)
          return .done
  | .device d =>
      if c.asRegular then return ← c.copyContents number source target isNew
      let (d, kind) ← match d with
        | .pipe _ | .stream _ =>
            let pipe ← lift (addPipe ByteArray.empty false)
            pure (Device.pipe pipe, "fifo ")
        | d => pure (d, "special file ")
      let mode ← lift (c.newMode (t.node number).mode newFileMode)
      match ← lift (change fun t f => t.makeDevice f d target mode) with
      | .error e => fail c.name ("cannot create " ++ kind ++ quoted target ++ ": " ++ e.reason)
      | .ok () =>
          if let .ok copy := ← lift (locatePath target false) then
            lift (c.finish number copy none)
          return .done
  | _ => c.copyContents number source target isNew

/-- Ask whether a file that is there may be replaced. -/
def mayReplace (target : String) : Copier Bool :=
  liftM (m := Asking) (Asking.agrees (c.name ++ ": overwrite " ++ quoted target ++ "? "))

/-- Move a source to a destination; an old one is replaced. -/
def moveOnto (number : Nat) (named : Bool) (top : Top) (source target : String)
    (renamed : Except FileError Unit) (kept? : Option String) : Copier Fate := do
  let renamed ← match renamed with
    | .error .alreadyThere => lift (renamePath true source (if target = "" then "." else target))
    | renamed => pure renamed
  match renamed with
  | .ok () =>
      if c.verbose then lift (put ("renamed " ++ arrow source target kept?))
      if named && c.several then
        modify fun s => { s with made := (target, number) :: s.made }
      return .done
  | .error .invalid =>
      lift (blame c.name ("cannot move " ++ quoted top.source ++ " to a subdirectory of itself, "
        ++ quoted top.target))
      return .inside
  | .error e =>
      let aboutTarget := e = .alreadyThere || e = .isDirectory || e = .notEmpty || e = .noSpace
      fail c.name ((if aboutTarget then "cannot overwrite " ++ quoted target
        else "cannot move " ++ quoted source ++ " to " ++ quoted target) ++ ": " ++ e.reason)

/-- What is to be done once the destination was looked at. -/
inductive Outlook where
  | stop (fate : Fate)
  /-- Go on with a destination that is new or not, and under another name if an old one was
  kept. -/
  | go (isNew : Bool) (kept : Option String)

/-- Look at a destination that is there, and make room. -/
def prepare (src dst : Nat) (named : Bool) (source target : String) : Copier Outlook := do
  let t ← lift tree
  let stop (text : String) : Copier Outlook := return .stop (← fail c.name text)
  let fromFolder := t.isFolder src
  let toFolder := t.isFolder dst
  let mut returns := false
  if !(c.moves && c.existing = .leave) then
    let (fits, done) ← c.sameFile source target src dst
    if !fits then return ← stop (quoted source ++ " and " ++ quoted target ++ " are the same file")
    returns := done
  if c.update && !fromFolder && decide ((t.node src).time ≤ (t.node dst).time) then
    if let some path := ← remember src target then
      if let .ok number := ← lift (locatePath path false) then
        return .stop (← c.makeHard number path target true c.verbose)
    return .stop .done
  if c.moves || !fromFolder then
    if c.existing = .leave then return .stop .done
    if c.existing = .ask then
      if !(← c.mayReplace target) then return .stop .done
  if returns then return .stop .done
  let keepsOld := c.backup.kind ≠ .none
  if !toFolder then
    if fromFolder && !(c.moves && keepsOld) then
      return ← stop ("cannot overwrite non-directory " ++ quoted target ++ " with directory "
        ++ quoted source)
    if named && c.several && c.backup.kind ≠ .numbered then
      if ← wasMade target dst then
        return ← stop ("will not overwrite just-created " ++ quoted target ++ " with "
          ++ quoted source)
  if !fromFolder && toFolder && !(c.moves && keepsOld) then
    return ← stop ("cannot overwrite directory " ++ quoted target ++ " with non-directory")
  let base := Path.base source
  if keepsOld && base ≠ "." && base ≠ ".." && (c.moves || !toFolder) then
    if c.backup.kind ≠ .numbered then
      let keptAt := Path.trimSlashes target ++ c.backup.suffix
      if Path.base keptAt = base then
        if (← lift (locatePath keptAt false)).toOption = some src then
          return ← stop ("backing up " ++ quoted target ++ " might destroy source;  "
            ++ quoted source ++ (if c.moves then " not moved" else " not copied"))
    match ← lift (c.backup.keep target) with
    | .ok path => return .go true (some path)
    | .error .noEntry => return .go true none
    | .error e => return ← stop ("cannot backup " ++ quoted target ++ ": " ++ e.reason)
  let unfit := c.withData
    && ((c.keepsNames && 1 < linkCount t dst) || (c.follow = .none && !isPlainFile t src))
  if !toFolder && !c.moves && (c.clears || unfit) then
    match ← lift (change fun t f => t.removeName f target) with
    | .error .noEntry | .ok () =>
        if c.verbose then lift (put ("removed " ++ quoted target ++ "\n"))
        return .go true none
    | .error e => return ← stop ("cannot remove " ++ quoted target ++ ": " ++ e.reason)
  return .go false none

/-- What is to be done with a source that was met before; nothing if it is copied once more. -/
def meetAgain (src : Nat) (named : Bool) (top : Top) (source target earlier : String) :
    Copier (Option Fate) := do
  let t ← lift tree
  if !t.isFolder src then
    match ← lift (locatePath earlier false) with
    | .ok number => return some (← c.makeHard number earlier target true c.verbose)
    | .error _ => return none
  if ← sameName source earlier then
    lift (blame c.name ("cannot copy a directory, " ++ quoted top.source ++ ", into itself, "
      ++ quoted top.target))
    return some .inside
  if ← sameName target earlier then
    lift (blame c.name ("warning: source directory " ++ quoted top.source
      ++ " specified more than once"))
    return some .done
  if c.follows named then return none
  return some (← fail c.name ("will not create hard link " ++ quoted target ++ " to directory "
    ++ quoted earlier))

/-- Whether a source was met before, and the path of its copy then. -/
def earlierCopy? (src : Nat) (named : Bool) (target : String) : Copier (Option String) := do
  let t ← lift tree
  let many := 1 < linkCount t src
  if c.recursive && t.isFolder src then
    if named then remember src target else earlier? src
  else if c.moves && !many then earlier? src
  else if c.keepsNames && !c.hard && (many || c.follow = .all || (named && c.follow = .named)) then
    remember src target
  else return none

/-- Forget that a source was met. -/
def forget (src : Nat) (wasNew : Bool) (fate : Fate) : Copier Unit := do
  if wasNew && fate = .failed then
    modify fun s => { s with copies := s.copies.filter (·.1 ≠ src) }

/-- Give a folder that was copied what is kept of the old one. -/
def finishFolder (src : Nat) (target : String) (isNew : Bool) : Run Unit := do
  let old := ((← tree).node src).mode
  let mode ← masked (if c.usualMode then newFolderMode else old % 0o2000)
  match ← locatePath target true with
  | .ok copy => c.finish src copy (if isNew then some mode else none)
  | .error _ => return

/-- Copy or move what a path leads to; `depth` bounds how deep folders lie.  The source may be
named as an operand, and what lies above it is known, as is whether a rename has been tried. -/
def copyPath (top : Top) (renamed? : Option (Except FileError Unit)) :
    (depth : Nat) → (named : Bool) → (above : List Nat) → (source target : String) →
    (firstMade : Bool) → Copier (Fate × Bool)
  | 0, _, _, _, _, firstMade => return (.failed, firstMade)
  | depth + 1, named, above, source, target, firstMade => do
      let c := if named || c.follow ≠ .named then c else { c with follow := .none }
      let t ← lift tree
      let ended (fate : Fate) : Copier (Fate × Bool) := return (fate, firstMade)
      let mut renamed : Except FileError Unit := .error .alreadyThere
      if c.moves then
        renamed ← match renamed? with
          | some tried => pure tried
          | none => lift (renamePath false source target)
      if c.moves && renamed matches .ok () then
        return ← ended (← c.moveOnto 0 named top source target renamed none)
      match ← lift (locatePath source (c.follow ≠ .none)) with
      | .error e =>
          return ← ended (← fail c.name ("cannot stat " ++ quoted source ++ ": " ++ e.reason))
      | .ok src =>
      let isFolder := t.isFolder src
      if isFolder && !c.recursive then
        return ← ended (← fail c.name ((if c.installs then "" else "-r not specified; ")
          ++ "omitting directory " ++ quoted source))
      if named && c.several && !c.moves && !c.installs then
        let place ← placeOf source
        if !isFolder && c.backup.kind = .none && (← get).sources.contains (src, place) then
          lift (blame c.name ("warning: source file " ++ quoted source
            ++ " specified more than once"))
          return ← ended .done
        modify fun s => { s with sources := (src, place) :: s.sources }
      let looksAtItself := (!isPlainFile t src && (!c.asRegular || isFolder || isLink t src))
        || c.moves || c.soft || c.hard || c.backup.kind ≠ .none || c.clears
      let outlook ← match ← lift (locatePath (if target = "" && looksAtItself then "." else target)
          (!looksAtItself)) with
        | .ok dst =>
            renamed := .error .alreadyThere
            c.prepare src dst named source target
        | .error e =>
            if e = .noEntry then pure (.go true none)
            else if e = .tooManyLinks && c.clearsBlocked then pure (.go false none)
            else
              pure (.stop (← fail c.name ("cannot stat " ++ quoted target ++ ": " ++ e.reason)))
      match outlook with
      | .stop fate => return ← ended fate
      | .go isNew kept? =>
      if named && c.several && !c.moves && c.backup.kind = .none then
        if let .ok itself := ← lift (locatePath target false) then
          if isLink (← lift tree) itself && (← wasMade target itself) then
            return ← ended (← fail c.name ("will not copy " ++ quoted source
              ++ " through just-created symlink " ++ quoted target))
      if c.verbose && !c.moves && !isFolder then lift (put (arrow source target kept?))
      let earlier ← c.earlierCopy? src named target
      if let some path := earlier then
        if let some fate := ← c.meetAgain src named top source target path then
          return ← ended fate
      if c.moves then
        return ← ended (← c.moveOnto src named top source target renamed kept?)
      let mut fate := Fate.done
      let mut firstMade := firstMade
      if isFolder then
        if above.contains src then
          fate ← fail c.name ("cannot copy cyclic symbolic link " ++ quoted source)
        else
          let mut makes := isNew
          if let .ok dst := ← lift (locatePath target true) then
            makes := !(← lift tree).isFolder dst
          if makes then
            let mode ← lift (masked ((t.node src).mode % 0o2000))
            match ← lift (change fun t f => t.makeFolder f target mode) with
            | .error e =>
                fate ← fail c.name ("cannot create directory " ++ quoted target ++ ": " ++ e.reason)
            | .ok () =>
                if !firstMade then
                  if let .ok made := ← lift (locatePath target true) then
                    discard (remember made target)
                  firstMade := true
                if c.verbose then lift (put (arrow source target))
          if fate = .done then
            let names := (oldestFirst (← lift tree) src).mergeSort fun a b => decide (a.2 ≤ b.2)
            for (entry, _) in names do
              if fate ≠ .inside then
                let (below, first) ← copyPath top none depth false (src :: above)
                  (Path.join source entry) (Path.join target entry) firstMade
                firstMade := first
                if below ≠ .done then fate := if below = .inside then .inside else .failed
            lift (c.finishFolder src target makes)
      else
        fate ← c.copySingle src named source target isNew
      if named && c.several then noteMade target
      forget src earlier.isNone fate
      if fate = .failed then
        if let some path := kept? then
          if (← lift (renamePath true path target)) matches .ok () then
            if c.verbose then
              lift (put (quoted path ++ " -> " ++ quoted target ++ " (unbackup)\n"))
      return (fate, firstMade)

/-- Copy or move one source to its destination. -/
def copyOne (renamed? : Option (Except FileError Unit)) (source target : String) :
    Copier Bool := do
  let depth := (← lift tree).nodes.size + 1
  let (fate, _) ← c.copyPath ⟨source, target⟩ renamed? depth true [] source target false
  return fate = .done

end Copying

end ToyLang.Tools
