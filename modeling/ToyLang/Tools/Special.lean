import ToyLang.Files.Access
import ToyLang.Tools.Basic

/-!
# Files that are made

Folders, files that store nothing, and files with names that are invented: a template stands for
names that differ in place of its last marks.

## Main definitions

* `makeFolders` — a folder, and those on the way to it.
* `mkdir` — folders.
* `mkfifo` — pipes that have names.
* `mknod` — devices, by their numbers.
* `inventedLetters`, `Template` — names made from templates.
* `mktemp` — a file or a folder with a name that nothing has yet.
-/

namespace ToyLang.Tools

open Run Text

/-! ### Folders -/

/-- The mode of a new folder, before the mask. -/
def newFolderMode : Nat := 0o777

/-- Make a folder, and say so in some words. -/
def makeFolderAt (name : String) (words : Option String) (mode : Nat) (path : String) :
    Run Bool := do
  match ← change fun t f => t.makeFolder f path mode with
  | .ok () =>
      if let some words := words then put (name ++ ": " ++ words ++ " " ++ quoted path ++ "\n")
      return true
  | .error e => giveUp name ("cannot create directory " ++ mentioned path ++ ": " ++ e.reason)

/-- Make a folder with a mode and those on the way to it with another mode, as far as they are not
there. -/
def makeFolders (name : String) (words : Option String) (mode usual : Nat) (path : String) :
    Run Bool := do
  let names := (Path.names path).filter (· ≠ "")
  let start := if Path.isAbsolute path then "/" else ""
  if path = "" then return ← makeFolderAt name words mode path
  let mut well := true
  for i in List.range names.length do
    let part := start ++ "/".intercalate (names.take (i + 1))
    if well ∧ !(← isFolderAt part true) then
      let final := i + 1 = names.length
      if !final ∧ (← isThere part true) then
        well ← giveUp name ("cannot create directory " ++ mentioned part ++ ": "
          ++ FileError.notDirectory.reason)
      else
        well ← makeFolderAt name words (if final then mode else usual) part
  return well

/-- Make folders. -/
def mkdir : Tool := fun name arguments =>
  withOptions name
    { flags := "pvZ", valued := "m"
      long := [("parents", 'p', .none), ("verbose", 'v', .none), ("mode", 'm', .required),
        ("context", 'Z', .optional)] }
    arguments fun g => do
      if g.operands.isEmpty then return ← missingOperand name []
      let mask := (← process).mask
      match Mode.ofTextWhenNew? ((g.value? 'm').getD "+") mask true newFolderMode with
      | none =>
          blame name ("invalid mode " ++ mentioned ((g.value? 'm').getD ""))
          return 1
      | some mode =>
          let words := if g.has 'v' then some "created directory" else none
          let usual := Mode.without newFolderMode mask ||| 0o300
          forOperands g fun path =>
            if g.has 'p' then makeFolders name words mode usual path
            else makeFolderAt name words mode path

/-! ### Files that store nothing -/

/-- The device that has numbers. -/
def Device.ofNumbers (block : Bool) (major minor : Nat) : Device :=
  if block then .numbered true major minor
  else match major, minor with
    | 1, 3 => .null
    | 1, 5 => .zero
    | 1, 7 => .full
    | 5, 0 => .absent
    | _, _ => .numbered false major minor

/-- The mode that an option asks for, or the usual one under the mask. -/
def specialMode? (g : Given) : Run (Option Nat) := do
  let mask := (← process).mask
  return match g.value? 'm' with
    | some text => Mode.ofText? text mask false newFileMode
    | none => some (Mode.without newFileMode mask)

/-- The options of programs that make special files. -/
def specialOptions : OptionTable :=
  { flags := "Z", valued := "m"
    long := [("mode", 'm', .required), ("context", 'Z', .optional)] }

/-- Make pipes that have names. -/
def mkfifo : Tool := fun name arguments =>
  withOptions name specialOptions arguments fun g => do
    if g.operands.isEmpty then return ← missingOperand name []
    match ← specialMode? g with
    | none =>
        blame name "invalid mode"
        return 1
    | some mode =>
        forOperands g fun path => do
          let pipe ← addPipe ByteArray.empty false
          match ← change fun t f => t.makeDevice f (.pipe pipe) path mode with
          | .ok () => return true
          | .error e => giveUp name ("cannot create fifo " ++ quoted path ++ ": " ++ e.reason)

/-- Make a device at a path. -/
def makeDeviceAt (name path : String) (d : Device) (mode : Nat) : Run Nat := do
  match ← change fun t f => t.makeDevice f d path mode with
  | .ok () => return 0
  | .error e =>
      blame name (quotedIfNeeded path ++ ": " ++ e.reason)
      return 1

/-- Make a device. -/
def mknod : Tool := fun name arguments =>
  withOptions name specialOptions arguments fun g => do
    match ← specialMode? g with
    | none =>
        blame name "invalid mode"
        return 1
    | some mode =>
        let note (text : String) (always : Bool) : Run Nat := do
          if always then complain (text ++ "\n")
          askForHelp name 1
        let numbered := "Special files require major and minor device numbers."
        let unnumbered := "Fifos do not have major and minor device numbers."
        match g.operands with
        | [] => missingOperand name []
        | [path] => missingOperand name [path]
        | path :: type :: numbers =>
            let isPipe := type.startsWith "p"
            let expected := if isPipe then 0 else 2
            if numbers.length < expected then
              blame name ("missing operand after " ++ mentioned (g.operands.getLast?.getD ""))
              note numbered numbers.isEmpty
            else if expected < numbers.length then
              blame name ("extra operand " ++ mentioned (numbers.getD expected ""))
              note unnumbered (isPipe && numbers.length = 2)
            else if isPipe then
              let pipe ← addPipe ByteArray.empty false
              makeDeviceAt name path (.pipe pipe) mode
            else if type.startsWith "b" || type.startsWith "c" || type.startsWith "u" then
              let major := numbers.getD 0 ""
              let minor := numbers.getD 1 ""
              match major.toNat?, minor.toNat? with
              | some m, some n =>
                  makeDeviceAt name path (Device.ofNumbers (type.startsWith "b") m n) mode
              | none, _ =>
                  blame name ("invalid major device number " ++ mentioned major)
                  return 1
              | _, none =>
                  blame name ("invalid minor device number " ++ mentioned minor)
                  return 1
            else misused name ("invalid device type " ++ mentioned type)

/-! ### Invented names -/

/-- Letters that are made up, from a number. -/
def inventedLetters (count seed : Nat) : List Char :=
  let letters := "abcdefghijklmnopqrstuvwxyzABCDEFGHIJKLMNOPQRSTUVWXYZ0123456789".toList.toArray
  ((List.range count).foldl (fun (found, n) _ =>
    (letters.getD (n % letters.size) 'a' :: found, (n / letters.size) * 31 + n * 7 + 11))
    ([], seed * 48271 % 2147483647)).1

/-- A name in parts: what stands in front of the marks, how many there are, and what follows. -/
structure Template where
  front : String
  marks : Nat
  suffix : String

/-- The parts of a name whose suffix is known, or follows the last mark. -/
def Template.of (name : String) (suffix? : Option String) : Template :=
  let cs := name.toList.reverse
  let suffix := match suffix? with
    | some _ => []
    | none => if cs.contains 'X' then cs.takeWhile (· ≠ 'X') else []
  let body := cs.drop suffix.length
  let marks := body.takeWhile (· = 'X')
  { front := String.ofList (body.drop marks.length).reverse
    marks := marks.length
    suffix := suffix?.getD (String.ofList suffix.reverse) }

/-- The whole of a template. -/
def Template.text (t : Template) : String :=
  t.front ++ String.ofList (List.replicate t.marks 'X') ++ t.suffix

/-- A name for a template. -/
def Template.filled (t : Template) (seed : Nat) : String :=
  t.front ++ String.ofList (inventedLetters t.marks seed) ++ t.suffix

/-- Make a file or a folder at a path that leads to nothing yet. -/
def makeInvented (isFolder : Bool) (path : String) : Run (Except FileError Unit) := do
  match (← tree).find (← process).folder path with
  | .ok (.vacant folder base _) =>
      let (made, mode) : Content × Nat :=
        if isFolder then (.folder folder [], 0o700) else (.file ByteArray.empty, 0o600)
      modifyTree fun t => (t.add folder base made mode).2
      return .ok ()
  | .ok _ => return .error .alreadyThere
  | .error e => return .error e

/-- Make a file or a folder with a name that nothing has yet. -/
def mktemp : Tool := fun name arguments =>
  withOptions name
    { flags := "dqutV", valued := "p"
      long := [("directory", 'd', .none), ("dry-run", 'u', .none), ("quiet", 'q', .none),
        ("tmpdir", 'p', .optional), ("suffix", 's', .required)] }
    arguments fun g => do
      let fail (text : String) : Run Nat := do
        blame name text
        return 1
      if 1 < g.operands.length then return ← misused name "too many templates"
      let written := g.operands.headD "tmp.XXXXXXXXXX"
      let suffix? := g.value? 's'
      if suffix?.isSome ∧ !written.endsWith "X" then
        return ← fail ("with --suffix, template " ++ mentioned written ++ " must end in X")
      let t := Template.of written suffix?
      if t.suffix.contains '/' then
        return ← fail ("invalid suffix " ++ mentioned t.suffix ++ ", contains directory separator")
      if t.marks < 3 then return ← fail ("too few X's in template " ++ mentioned t.text)
      let usual := ((← process).environment.lookup "TMPDIR").filter (· ≠ "")
      let given := (g.value? 'p').filter (· ≠ "")
      let mut t := t
      if g.operands.isEmpty ∨ g.has 'p' ∨ g.has 't' then
        if g.has 't' ∧ t.front.contains '/' then
          return ← fail ("invalid template, " ++ mentioned t.text
            ++ ", contains directory separator")
        if !g.has 't' ∧ Path.isAbsolute t.text then
          return ← fail ("invalid template, " ++ mentioned t.text
            ++ "; with --tmpdir, it may not be absolute")
        let folder := (if g.has 't' then usual <|> given else given <|> usual).getD "/tmp"
        t := { t with front := Path.join folder t.front }
      let path := t.filled ((← get).lastProcess + (← tree).nodes.size)
      if !g.has 'u' then
        if let .error e := ← makeInvented (g.has 'd') path then
          if !g.has 'q' then
            blame name ("failed to create " ++ (if g.has 'd' then "directory" else "file")
              ++ " via template " ++ mentioned t.text ++ ": " ++ e.reason)
          return 1
      put (path ++ "\n")
      return 0

end ToyLang.Tools
