import ToyLang.Tools.Copying
import ToyLang.Tools.Destination

/-!
# The programs that copy and move

## Main definitions

* `KeptPart`, `CopyOptions` — what options ask for.
* `makeParents` — the folders on the way to a copy.
* `cp`, `mv` — the programs.
-/

namespace ToyLang.Tools

open Run

/-! ### Options -/

/-- What can be kept of a file. -/
inductive KeptPart where
  | mode
  | times
  | owner
  | links
  /-- The context in which the file is secured. -/
  | context
  /-- Attributes beyond the usual ones, which no file has. -/
  | attributes
  | all
  deriving DecidableEq

/-- The words for what can be kept of a file. -/
def keptWords : List (List String × KeptPart) :=
  [(["mode"], .mode), (["timestamps"], .times), (["ownership"], .owner), (["links"], .links),
    (["context"], .context), (["xattr"], .attributes), (["all"], .all)]

/-- The words for when contents are shared. -/
def shareWords : List (List String × Bool) :=
  [(["auto"], false), (["always"], true), (["never"], false)]

/-- The words for when zero bytes are left out. -/
def sparseWords : List (List String × Bool) :=
  [(["never"], true), (["auto"], false), (["always"], true)]

/-- What options of `cp` ask for. -/
structure CopyOptions where
  copying : Copying
  /-- Whether the use of links was said, and which. -/
  follow? : Option LinkUse := none
  /-- Whether contents of what is no file are copied below folders too. -/
  contents : Bool := false
  context : Bool := false
  sparse : Bool := false

/-- Keep a part, or do not. -/
def CopyOptions.keep (o : CopyOptions) (on : Bool) : KeptPart → CopyOptions
  | .mode => { o with copying.keepsMode := on, copying.usualMode := !on }
  | .times => { o with copying.keepsTimes := on }
  | .owner => { o with copying.keepsOwner := on }
  | .links => { o with copying.keepsNames := on }
  | .context => { o with context := on }
  | .attributes => o
  | .all =>
      { o with
        copying.keepsMode := on
        copying.keepsTimes := on
        copying.keepsOwner := on
        copying.keepsNames := on
        copying.usualMode := !on }

/-- Keep the parts that are usually kept. -/
def CopyOptions.keepUsual (o : CopyOptions) : CopyOptions :=
  { o with copying.keepsMode := true, copying.keepsTimes := true, copying.keepsOwner := true }

/-- What a single option asks for. -/
def CopyOptions.withLetter (o : CopyOptions) : Char → CopyOptions
  | 'a' =>
      { o.keepUsual with
        copying.keepsNames := true
        copying.recursive := true
        follow? := some LinkUse.none }
  | 'd' => { o with copying.keepsNames := true, follow? := some LinkUse.none }
  | 'f' => { o with copying.clearsBlocked := true }
  | 'H' => { o with follow? := some .named }
  | 'i' => { o with copying.existing := .ask }
  | 'l' => { o with copying.hard := true }
  | 'L' => { o with follow? := some .all }
  | 'n' => { o with copying.existing := .leave }
  | 'P' => { o with follow? := some LinkUse.none }
  | 'p' => o.keepUsual
  | 'r' | 'R' => { o with copying.recursive := true }
  | 's' => { o with copying.soft := true }
  | 'u' => { o with copying.update := true }
  | 'v' => { o with copying.verbose := true }
  | '4' => { o with copying.clears := true }
  | '8' => { o with copying.withData := false }
  | '9' => { o with contents := true }
  | _ => o

/-- The options of `cp`. -/
def copyTable : OptionTable :=
  { flags := "abdfHilLnPprRsTuvxZ", valued := "tS"
    long := aimOptions ++ backupOptions ++ [("archive", 'a', .none), ("dereference", 'L', .none),
      ("no-dereference", 'P', .none), ("force", 'f', .none), ("interactive", 'i', .none),
      ("link", 'l', .none), ("no-clobber", 'n', .none), ("preserve", '1', .optional),
      ("no-preserve", '2', .required), ("parents", '3', .none), ("recursive", 'r', .none),
      ("symbolic-link", 's', .none), ("update", 'u', .none), ("verbose", 'v', .none),
      ("remove-destination", '4', .none), ("strip-trailing-slashes", '5', .none),
      ("reflink", '6', .optional), ("sparse", '7', .required), ("attributes-only", '8', .none),
      ("copy-contents", '9', .none), ("one-file-system", 'x', .none), ("context", 'Z', .optional)] }

/-- Read what options ask for; a status if they are refused. -/
def copyOptions (name : String) (g : Given) : Run (Except Nat CopyOptions) := do
  let mut o : CopyOptions := { copying := { name := name } }
  for (letter, word) in g.options do
    if letter = '1' ∧ word = "" then o := o.keepUsual
    else if letter = '1' ∨ letter = '2' then
      for part in word.splitOn "," do
        match choice? keptWords part with
        | .ok kept => o := o.keep (letter = '1') kept
        | .error isStart =>
            complainOfChoice name (if letter = '1' then "--preserve" else "--no-preserve") part
              keptWords isStart
            return .error (← askForHelp name 1)
    else if letter = '6' then
      match choice? shareWords (if word = "" then "always" else word) with
      | .ok shares => o := { o with copying.shares := shares }
      | .error isStart =>
          complainOfChoice name "--reflink" word shareWords isStart
          return .error (← askForHelp name 1)
    else if letter = '7' then
      match choice? sparseWords word with
      | .ok sparse => o := { o with sparse := sparse }
      | .error isStart =>
          complainOfChoice name "--sparse" word sparseWords isStart
          return .error (← askForHelp name 1)
    else if letter = 'Z' ∧ word ≠ "" then
      blame name "warning: ignoring --context; it requires an SELinux-enabled kernel"
    else o := o.withLetter letter
  let c := o.copying
  if c.hard ∧ c.soft then
    return .error (← misused name "cannot make both hard and symbolic links")
  if c.existing = .leave ∧ (g.has 'b' ∨ g.has 'S') then
    return .error (← misused name
      "options --backup and --no-clobber are mutually exclusive")
  if c.shares ∧ o.sparse then
    return .error (← misused name "--reflink can be used only with --sparse=auto")
  if o.context then
    blame name "cannot preserve security context without an SELinux-enabled kernel"
    return .error 1
  match ← givenBackup name g with
  | .error status => return .error status
  | .ok backup =>
      return .ok { o with
        copying.backup := backup
        copying.update := c.update && c.existing ≠ .leave
        copying.follow := o.follow?.getD (if c.recursive && !c.hard then .none else .all)
        copying.asRegular := !c.recursive || o.contents
        copying.clears := c.clears || (c.clearsBlocked && (c.hard || c.soft)) }

/-! ### Folders on the way -/

/-- Make the folders on the way to a copy in a folder as far as they are not there, each like the
one on the way to its source. -/
def makeParents (c : Copying) (folder source : String) : Run Bool := do
  let isRooted := Path.isAbsolute source
  let names := ((Path.names (Path.trimSlashes source)).filter (· ≠ "")).dropLast
  let mut well := true
  for i in List.range names.length do
    if well then
      let part := "/".intercalate (names.take (i + 1))
      let target := Path.join folder part
      let part := if isRooted then "/" ++ part else part
      match ← locatePath target true with
      | .ok number =>
          if !(← tree).isFolder number then
            well ← giveUp c.name (quoted target ++ " exists but is not a directory")
      | .error _ =>
          match ← locatePath part true with
          | .error e =>
              well ← giveUp c.name ("failed to get attributes of " ++ quoted part ++ ": " ++ e.reason)
          | .ok number =>
              let mode ← c.newMode ((← tree).node number).mode newFolderMode
              match ← change fun t f => t.makeFolder f target mode with
              | .ok () =>
                  if c.verbose then put (part ++ " -> " ++ target ++ "\n")
                  if let .ok made := ← locatePath target true then c.finish number made none
              | .error e =>
                  well ← giveUp c.name ("cannot make directory " ++ quoted target ++ ": "
                    ++ e.reason)
  return well

/-- Copy sources into a folder. -/
def copyInside (c : Copying) (parents trims : Bool) (folder : String) (sources : List String) :
    Copier Nat := do
  let mut status := 0
  for source in sources do
    let source := if trims then Path.trimSlashes source else source
    let base := Path.base source
    let whole := String.ofList ((Path.trimSlashes source).toList.dropWhile (· = '/'))
    let target := if parents then Path.join folder whole
      else Path.join folder (if base = ".." then "." else base)
    let ready ← if parents then Copier.lift (makeParents c folder source) else pure true
    let done ← if ready then c.copyOne none source target else pure false
    if !done then status := 1
  return status

/-- Copy files. -/
def cp : Tool := fun name arguments =>
  withOptions name copyTable arguments fun g => do
    match ← copyOptions name g with
    | .error status => return status
    | .ok o =>
        let c := o.copying
        match ← aimOf name g with
        | .error status => return status
        | .ok (.inside folder sources) =>
            let c := { c with several := 1 < sources.length }
            asking ((copyInside c (g.has '3') (g.has '5') folder sources).run' {})
        | .ok (.onto source target) =>
            if g.has '3' then
              return ← misused name "with --parents, the destination must be a directory"
            let isFile ← match ← locatePath target true with
              | .ok number => pure (isPlainFile (← tree) number)
              | .error _ => pure false
            let keepsSelf := c.clearsBlocked && c.backup.kind ≠ .none && source = target && isFile
            let t ← tree
            let names := match ← locatePath (Path.parent target) true with
              | .ok number => (t.entries number).map Prod.fst
              | .error _ => []
            let target := if keepsSelf then c.backup.nameOf target names else target
            let c := if keepsSelf then { c with backup := {} } else c
            let well ← asking ((c.copyOne none source target).run' {})
            return if well then 0 else 1

/-! ### Moving -/

/-- The options of `mv`. -/
def moveTable : OptionTable :=
  { flags := "bfinTuvZ", valued := "tS"
    long := aimOptions ++ backupOptions ++ [("force", 'f', .none), ("interactive", 'i', .none),
      ("no-clobber", 'n', .none), ("update", 'u', .none), ("verbose", 'v', .none),
      ("strip-trailing-slashes", '5', .none), ("context", 'Z', .none)] }

/-- Move each source into a folder. -/
def moveInside (c : Copying) (trims : Bool) (folder : String) (sources : List String) :
    Copier Nat := do
  let mut status := 0
  for source in sources do
    let source := if trims then Path.trimSlashes source else source
    if !(← c.copyOne none source (pathInside folder source)) then status := 1
  return status

/-- Move files.  A single source goes to a name that is not there yet at once, so that no folder
has to be looked for. -/
def mv : Tool := fun name arguments =>
  withOptions name moveTable arguments fun g => do
    let existing : Existing := match g.last? ['f', 'i', 'n'] with
      | some 'i' => .ask
      | some 'n' => .leave
      | _ => .replace
    let trims := g.has '5'
    let tried? : Option (Except FileError Unit) ←
      match g.has 'T' || g.has 't', g.operands with
      | false, [source, target] => some <$> renamePath false source target
      | _, _ => pure none
    let aim ← match tried?, g.operands with
      | some (.ok ()), [source, target] => pure (.ok (.onto source target))
      | _, _ => aimOf name g
    match aim with
    | .error status => return status
    | .ok aim =>
        if existing = .leave ∧ (g.has 'b' ∨ g.has 'S') then
          return ← misused name "options --backup and --no-clobber are mutually exclusive"
        match ← givenBackup name g with
        | .error status => return status
        | .ok backup =>
            let c : Copying :=
              { name := name
                moves := true
                recursive := true
                follow := .none
                existing := existing
                update := g.has 'u' && existing ≠ .leave
                backup := backup
                verbose := g.has 'v' }
            match aim with
            | .inside folder sources =>
                let c := { c with several := 1 < sources.length }
                asking ((moveInside c trims folder sources).run' {})
            | .onto source target =>
                let source := if trims then Path.trimSlashes source else source
                let well ← asking ((c.copyOne tried? source target).run' {})
                return if well then 0 else 1

end ToyLang.Tools
