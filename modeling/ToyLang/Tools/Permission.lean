import ToyLang.Files.Access
import ToyLang.Tools.Basic

/-!
# Programs that change modes and owners

An owner is written as the user, the group behind a colon, or both; a colon with no group behind it
stands for the group of the user.

## Main definitions

* `ModeChanging`, `ModeOutcome` — how modes are changed, and what has become of one.
* `chmod` — modes.
* `WrittenOwner`, `WrittenOwner.read` — owners as they are written.
* `OwnerChanging` — how owners are changed.
* `chown`, `chgrp` — owners.
-/

namespace ToyLang.Tools

open Run

/-! ### Modes -/

/-- How modes are changed. -/
structure ModeChanging where
  /-- The name of the program. -/
  name : String
  changes : List ModeChange
  /-- The bits that changes leave alone if they name no class. -/
  mask : Nat
  recursive : Bool
  silent : Bool
  /-- Whether all files are shown, and whether those are that get another mode. -/
  showsAll : Bool
  showsChanged : Bool
  /-- Whether a mode that is not what it looks like is a failure. -/
  surprises : Bool
  /-- Whether the root is left alone. -/
  keepsRoot : Bool

/-- A mode in digits and in letters. -/
def bothForms (mode : Nat) : String :=
  let digits := Mode.octal mode
  String.ofList (List.replicate (4 - digits.length) '0') ++ digits ++ " (" ++ Mode.letters mode
    ++ ")"

namespace ModeChanging

variable (m : ModeChanging)

/-- Complain about a file, unless nothing is to be said; one that cannot be used is shown too. -/
def failed (path text : String) : Run Bool := do
  if !m.silent then blame m.name text
  if m.showsAll then put (quoted path ++ " could not be accessed\n")
  return false

/-- Change the mode of a node, which is what a path leads to. -/
def changeNode (number : Nat) (path : String) : Run Bool := do
  let t ← tree
  let isFolder := t.isFolder number
  let old := (t.node number).mode
  let mode := (Mode.changed m.changes m.mask isFolder old).1
  modifyTree fun t => t.setMode number mode
  if m.showsAll ∨ (m.showsChanged ∧ mode ≠ old) then
    put ("mode of " ++ quoted path
      ++ (if mode = old then " retained as " ++ bothForms mode
        else " changed from " ++ bothForms old ++ " to " ++ bothForms mode) ++ "\n")
  let expected := (Mode.changed m.changes 0 isFolder old).1
  if m.surprises ∧ Mode.without mode expected ≠ 0 then
    giveUp m.name (quotedIfNeeded path ++ ": new permissions are " ++ Mode.letters mode
      ++ ", not " ++ Mode.letters expected)
  else return true

/-- Change the mode of what a path leads to, and of all below it if that is asked for; `depth`
bounds how deep folders lie.  Links below it are left alone. -/
def changePath : (depth : Nat) → (first : Bool) → String → Run Bool
  | 0, _, _ => return false
  | depth + 1, first, path => do
      match ← locatePath path first with
      | .error e =>
          if ← isThere path false then
            m.failed path ("cannot operate on dangling symlink " ++ quoted path)
          else m.failed path ("cannot access " ++ quoted path ++ ": " ++ e.reason)
      | .ok number =>
          let t ← tree
          if m.recursive ∧ m.keepsRoot ∧ number = FileTree.root then
            blameRoot m.name path
            return false
          if let .link _ := t.content number then
            if m.showsAll then
              put ("neither symbolic link " ++ quoted path ++ " nor referent has been changed\n")
            return true
          let mut well ← m.changeNode number path
          if m.recursive ∧ t.isFolder number then
            for (entry, _) in oldestFirst t number do
              let done ← changePath depth false (Path.join path entry)
              well := well && done
          return well

end ModeChanging

/-- Whether an argument takes permissions away and only looks like an option. -/
def isModeArgument (argument : String) : Bool :=
  match argument.toList with
  | '-' :: cs => !cs.isEmpty && cs.all fun c =>
      (['r', 'w', 'x', 'X', 's', 't', 'u', 'g', 'o', 'a', ',', '+', '=', '-'].contains c
        || Mode.isOctal c) && cs.head? ≠ some '-'
  | _ => false

/-- The options of `chmod`. -/
def modeOptions : OptionTable :=
  { flags := "cfvR"
    long := [("changes", 'c', .none), ("quiet", 'f', .none), ("silent", 'f', .none),
      ("verbose", 'v', .none), ("recursive", 'R', .none), ("reference", '/', .required),
      ("preserve-root", '=', .none), ("no-preserve-root", '.', .none)] }

/-- Change modes. -/
def chmod : Tool := fun name arguments =>
  let before := arguments.takeWhile (· ≠ "--")
  let behind := arguments.drop before.length
  let clauses := before.filter isModeArgument
  withOptions name modeOptions (before.filter (!isModeArgument ·) ++ behind) fun g => do
    let reference? := g.value? '/'
    if reference?.isSome ∧ !clauses.isEmpty then
      return ← misused name "cannot combine mode and --reference options"
    let isWritten := reference?.isNone && clauses.isEmpty
    let clause? := if isWritten then g.operands.head? else some (",".intercalate clauses)
    let files := if isWritten then g.operands.drop 1 else g.operands
    if files.isEmpty then
      return ← missingOperand name (if isWritten then clause?.toList else [])
    let changes ← match reference? with
      | some path =>
          match ← locatePath path true with
          | .ok number => pure (Mode.changesTo ((← tree).node number).mode)
          | .error e =>
              blame name ("failed to get attributes of " ++ quoted path ++ ": " ++ e.reason)
              return 1
      | none =>
          match Mode.changes? (clause?.getD "") with
          | some changes => pure changes
          | none => return ← misused name ("invalid mode: " ++ mentioned (clause?.getD ""))
    let shown := g.last? ['c', 'v']
    let mask := (← process).mask
    let m : ModeChanging :=
      { name := name
        changes := changes
        mask := if reference?.isSome then 0 else mask
        recursive := g.has 'R'
        silent := g.has 'f'
        showsAll := shown = some 'v'
        showsChanged := shown = some 'c'
        surprises := !clauses.isEmpty
        keepsRoot := g.last? ['=', '.'] = some '=' }
    forOperands { g with operands := files } fun path => do
      m.changePath ((← tree).nodes.size + 1) true path

/-! ### Owners -/

/-- An owner as it is written: the parts that are said, with the names that were used. -/
structure WrittenOwner where
  user : Option (Nat × String) := none
  group : Option (Nat × String) := none

namespace WrittenOwner

/-- The highest number that a user or a group can have. -/
def highest : Nat := twoTo 32 - 2

/-- The number that a text is.  A plus in front of it, or blanks, change nothing. -/
def number? (text : String) : Option Nat :=
  let cs := text.toList.dropWhile fun c => c = ' ' || c = '\t'
  let digits := if cs.head? = some '+' then cs.drop 1 else cs
  if digits.isEmpty || !digits.all Char.isDigit then none
  else
    let n := Nat.ofDigitChars 10 digits 0
    if n ≤ highest then some n else none

/-- The number of a user or of a group, which is written as a name or as a number. -/
def find? (forGroup : Bool) (text : String) : Option Nat :=
  if text.startsWith "+" then number? text else Owner.number? forGroup text <|> number? text

/-- Read an owner whose parts are kept apart by a mark; what is wrong with it otherwise. -/
def readWith (mark : Char) (text : String) : Except String WrittenOwner := do
  let cs := text.toList
  let front := cs.takeWhile (· ≠ mark)
  let hasMark := front.length < cs.length
  let (userText, groupText) := (String.ofList front, String.ofList (cs.drop (front.length + 1)))
  let useOwn := hasMark && groupText = ""
  let user : Option Nat ←
    if userText = "" then pure none
    else match (if userText.startsWith "+" then none else Owner.number? false userText) with
      | some n => pure (some n)
      | none =>
          if useOwn then throw "invalid spec"
          match number? userText with
          | some n => pure (some n)
          | none => throw "invalid user"
  let group : Option (Nat × String) ←
    if groupText = "" then
      pure (if useOwn then user.map fun n => (Owner.firstGroup n, Owner.shown true (Owner.firstGroup n)) else none)
    else match find? true groupText with
      | some n => pure (some (n, groupText))
      | none => throw "invalid group"
  return { user := user.map (·, userText), group := group }

/-- Read an owner.  A point does for a colon, which is told apart, if nothing else can be meant. -/
def read (text : String) : Except String (WrittenOwner × Bool) :=
  match readWith ':' text with
  | .ok o => .ok (o, false)
  | .error e =>
      if text.contains ':' || !text.contains '.' then .error e
      else match readWith '.' text with
        | .ok o => .ok (o, true)
        | .error _ => .error e

end WrittenOwner

/-- Which links to folders are walked through. -/
inductive LinkWalk where
  | none
  | first
  | all
  deriving DecidableEq

/-- How owners are changed. -/
structure OwnerChanging where
  /-- The name of the program. -/
  name : String
  owner : WrittenOwner
  /-- The owner that files must have to be changed. -/
  required : WrittenOwner
  recursive : Bool
  /-- Whether what a link leads to is changed in its place. -/
  follow : Bool
  links : LinkWalk
  silent : Bool
  /-- Whether all files are shown, and whether those are that get another owner. -/
  showsAll : Bool
  showsChanged : Bool
  /-- Whether the root is left alone. -/
  keepsRoot : Bool

namespace OwnerChanging

variable (o : OwnerChanging)

/-- The parts of an owner as they are shown together. -/
def together (user group : Option String) : String :=
  match user, group with
  | some user, some group => user ++ ":" ++ group
  | some text, none | none, some text => text
  | none, none => ""

/-- The user, and the group, that are asked for. -/
def wanted : Option String × Option String :=
  (o.owner.user.map Prod.snd, o.owner.group.map Prod.snd)

/-- What is said about a file.  The owner that it has had is known if the file is. -/
def report (path : String) (old? : Option Node) (changed failed : Bool) : String :=
  let (user, group) := o.wanted
  let new := together user group
  let old? := old?.map fun n =>
    together (user.map fun _ => Owner.shown false n.owner) (group.map fun _ =>
      Owner.shown true n.group)
  let what := if user.isSome || group.isNone then "ownership" else "group"
  let isNone := user.isNone && group.isNone
  if failed then
    "failed to change " ++ what ++ " of " ++ quoted path
      ++ (if isNone then ""
        else (old?.map fun old => " from " ++ old).getD "" ++ " to " ++ new) ++ "\n"
  else if changed then
    "changed " ++ what ++ " of " ++ quoted path ++ " from " ++ old?.getD "" ++ " to " ++ new
      ++ "\n"
  else what ++ " of " ++ quoted path ++ " retained"
    ++ (if isNone then "" else " as " ++ old?.getD "") ++ "\n"

/-- Complain about a file. -/
def failed (path text : String) : Run Bool := do
  if !o.silent then blame o.name text
  if o.showsAll then put (o.report path none false true)
  return false

/-- Give a node the owner that is asked for.  What is no folder loses its special bits. -/
def give (n : Node) : Node :=
  let mode := match n.content with
    | .folder _ _ => n.mode
    | _ =>
        let mode := n.mode - (n.mode &&& 0o4000)
        if mode &&& 0o10 ≠ 0 then mode - (mode &&& 0o2000) else mode
  { n with
    owner := (o.owner.user.map Prod.fst).getD n.owner
    group := (o.owner.group.map Prod.fst).getD n.group
    mode := mode }

/-- Change the owner of a node, which is what a path leads to. -/
def changeNode (number : Nat) (path : String) : Run Bool := do
  let n := (← tree).node number
  let fits := o.required.user.all (·.1 = n.owner) && o.required.group.all (·.1 = n.group)
  if fits then modifyTree fun t => t.alter number o.give
  let new := o.give n
  let changed := fits && (new.owner ≠ n.owner || new.group ≠ n.group)
  if o.showsAll || (o.showsChanged && changed) then put (o.report path (some n) changed false)
  return true

/-- Change the owner of what a path leads to, after that of all below it if that is asked for;
`depth` bounds how deep folders lie. -/
def changePath : (depth : Nat) → (first : Bool) → String → Run Bool
  | 0, _, _ => return false
  | depth + 1, first, path => do
      match ← locatePath path false with
      | .error e => o.failed path ("cannot access " ++ quoted path ++ ": " ++ e.reason)
      | .ok itself =>
          let led ← locatePath path true
          let t ← tree
          let walks := o.links = .all || (first && o.links = .first)
          let place := if walks then led.toOption.getD itself else itself
          let mut well := true
          if o.recursive && t.isFolder place then
            if o.keepsRoot && place = FileTree.root then
              blameRoot o.name path
              return false
            for (entry, _) in oldestFirst t place do
              let done ← changePath depth false (Path.join path entry)
              well := well && done
          match o.follow, led with
          | true, .error e =>
              o.failed path ("cannot dereference " ++ quoted path ++ ": " ++ e.reason)
          | true, .ok number =>
              let done ← o.changeNode number path
              return well && done
          | false, _ =>
              let done ← o.changeNode place path
              return well && done

end OwnerChanging

/-- The options of programs that change owners. -/
def ownerOptions : OptionTable :=
  { flags := "cfhvRHLP"
    long := [("recursive", 'R', .none), ("verbose", 'v', .none), ("changes", 'c', .none),
      ("no-dereference", 'h', .none), ("dereference", 'd', .none), ("quiet", 'f', .none),
      ("silent", 'f', .none), ("reference", '/', .required), ("from", '<', .required),
      ("preserve-root", '=', .none), ("no-preserve-root", '.', .none)] }

/-- The owner that a text asks for, or what is wrong with it. -/
def ownerOf (forGroup : Bool) (text : String) : Except String (WrittenOwner × Bool) :=
  if !forGroup then WrittenOwner.read text
  else if text = "" then .ok ({}, false)
  else match Owner.number? true text <|> WrittenOwner.number? text with
    | some n => .ok ({ group := some (n, text) }, false)
    | none => .error "invalid group"

/-- Change owners, or groups alone. -/
def changeOwners (forGroup : Bool) : Tool := fun name arguments =>
  withOptions name ownerOptions arguments fun g => do
    let mut required : WrittenOwner := {}
    if let some text := g.value? '<' then
      match WrittenOwner.read text with
      | .ok (owner, _) => required := owner
      | .error e =>
          blame name (e ++ ": " ++ mentioned text)
          return 1
    let links : LinkWalk := match g.last? ['H', 'L', 'P'] with
      | some 'H' => .first
      | some 'L' => .all
      | _ => .none
    let recursive := g.has 'R'
    let asked := g.last? ['h', 'd']
    if recursive && links = .none && asked = some 'd' then
      blame name "-R --dereference requires either -H or -L"
      return 1
    let follow := !(asked = some 'h' || (recursive && links = .none))
    let reference? := g.value? '/'
    let least := if reference?.isSome then 1 else 2
    if g.operands.length < least then return ← missingOperand name g.operands
    let mut owner : WrittenOwner := {}
    match reference? with
    | some path =>
        match ← locatePath path true with
        | .error e =>
            blame name ("failed to get attributes of " ++ quoted path ++ ": " ++ e.reason)
            return 1
        | .ok number =>
            let n := (← tree).node number
            owner :=
              { user := if forGroup then none else some (n.owner, Owner.shown false n.owner)
                group := some (n.group, Owner.shown true n.group) }
    | none =>
        let text := g.operands.headD ""
        match ownerOf forGroup text with
        | .ok (o, isOld) =>
            if isOld then blame name ("warning: '.' should be ':': " ++ mentioned text)
            owner := o
        | .error e =>
            blame name (e ++ ": " ++ mentioned text)
            return 1
    let files := if reference?.isSome then g.operands else g.operands.drop 1
    let shown := g.last? ['c', 'v']
    let o : OwnerChanging :=
      { name := name
        owner := owner
        required := required
        recursive := recursive
        follow := follow
        links := if recursive then links else .none
        silent := g.has 'f'
        showsAll := shown = some 'v'
        showsChanged := shown = some 'c'
        keepsRoot := recursive && g.last? ['=', '.'] = some '=' }
    forOperands { g with operands := files } fun path => do
      o.changePath ((← tree).nodes.size + 1) true path

/-- Change owners. -/
def chown : Tool := changeOwners false

/-- Change groups. -/
def chgrp : Tool := changeOwners true

end ToyLang.Tools
