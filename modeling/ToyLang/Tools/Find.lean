import ToyLang.Tools.FindGrammar
import ToyLang.Tools.Started

/-!
# Finding files

A walk over folders that tests each file and does something with those that pass.

## Main definitions

* `Finding.run` — the outcome of tests and actions for a file.
* `walkFrom` — the walk.
* `find` — the program.
-/

namespace ToyLang.Tools

open Run
open Shell (Perform)

/-- What a walk remembers. -/
structure Walk where
  status : Nat := 0
  /-- Whether what is below the file at hand is left out. -/
  pruned : Bool := false
  stopped : Bool := false
  /-- Commands that get many files at once, the folders in which they are run, and the files. -/
  collected : List (Running × Nat × List String) := []
  /-- The lines of the input that are left to answer questions, once it has been read. -/
  answers : Option (List String) := none

/-- How a walk works. -/
structure WalkSettings where
  perform : Perform
  options : FindOptions
  finding : Finding
  /-- The open files that are written to. -/
  sinks : Array Nat

namespace WalkSettings

/-- Complain about a file. -/
def complainOf (path reason : String) : StateT Walk Run Unit := do
  liftM (m := Run) (complain ("find: " ++ Text.mentioned path ++ ": " ++ reason ++ "\n"))
  modify fun w => { w with status := 1 }

/-- Write a text. -/
def out (s : WalkSettings) (sink : Sink) (text : String) : Run Unit :=
  match sink with
  | none => put text
  | some place => match s.sinks[place]? with
      | some index => putTo index text
      | none => return

/-- Run a command in a folder, and say whether it has worked. -/
def runIn (s : WalkSettings) (folder : Nat) (asked : Bool) (words : List String) : Run Bool := do
  let ending ← asChild do
    modifyProcess fun p => { p with folder := folder }
    if asked then
      match ← openPath "/dev/null" .reading with
      | .ok index => setStream 0 index
      | .error _ => pure ()
    match ← startWords s.perform words with
    | .ok status => return status
    | .error e =>
        complain ("find: " ++ mentioned (words.headD "") ++ ": " ++ e.reason ++ "\n")
        return startStatus e
  return ending = .exited 0

/-- Ask whether a command is to be run. -/
def asks (words : List String) (path : String) : StateT Walk Run Bool := do
  let run {α : Type} (act : Run α) : StateT Walk Run α := liftM act
  run (complain ("< " ++ words.headD "" ++ " ... " ++ path ++ " > ? "))
  let lines ← match (← get).answers with
    | some lines => pure lines
    | none =>
        let text := match ← run (readAll 0) with
          | .ok text => text
          | .error _ => ""
        pure (linesOf text)
  modify fun w => { w with answers := some (lines.drop 1) }
  return (lines.headD "").startsWith "y" || (lines.headD "").startsWith "Y"

/-- The folder in which a file is, and its path from there. -/
def placeOf (v : Visited) : Run (Nat × String) := do
  let folder := (← process).folder
  let path := Path.trimSlashes v.path
  let name := Path.base path
  if path = "/" then return (folder, "/")
  let above := Path.parent path
  match ← locatePath above true with
  | .ok n => return (n, "./" ++ name)
  | .error _ => return (folder, "./" ++ name)

/-- Run a command for a file, or keep the file for it. -/
def runCommandFor (s : WalkSettings) (v : Visited) (r : Running) : StateT Walk Run Bool := do
  let run {α : Type} (act : Run α) : StateT Walk Run α := liftM act
  let (folder, path) ← if r.inFolder then run (placeOf v)
    else pure ((← run process).folder, v.path)
  if r.together then
    modify fun w =>
      let isSame (entry : Running × Nat × List String) : Bool :=
        entry.1 = r && entry.2.1 = folder
      let old := ((w.collected.find? isSame).map fun entry => entry.2.2).getD []
      { w with collected :=
          w.collected.filter (fun entry => !isSame entry) ++ [(r, folder, old ++ [path])] }
    return true
  if r.asks then
    if !(← asks r.words v.path) then return false
  run (s.runIn folder r.asks
    (r.words.map fun word => path.intercalate (word.splitOn FindReader.fileMark)))

end WalkSettings

/-- The outcome of tests and actions for a file. -/
def Finding.run (s : WalkSettings) (v : Visited) : Finding → StateT Walk Run Bool
  | .always truth => return truth
  | .name whole pattern => return pattern.fits (if whole then v.path else Path.base v.path)
  | .kind false letters => return letters.contains (foundKind ((← tree).content v.number))
  | .kind true letters => do
      match ← locatePath v.path (!v.follow) with
      | .ok n => return letters.contains (foundKind ((← tree).content n))
      | .error .noEntry | .error .notDirectory => return letters.contains 'l'
      | .error e =>
          WalkSettings.complainOf v.path e.reason
          return false
  | .mode sign bits folderBits => do
      let t ← tree
      let mode := (t.node v.number).mode
      let bits := if t.isFolder v.number then folderBits else bits
      return match sign with
        | some '-' => decide (mode &&& bits = bits)
        | some _ => bits = 0 || decide (mode &&& bits ≠ 0)
        | none => mode = bits
  | .size sign count unit => do
      return asAsked sign count ((sizeOf ((← tree).content v.number) + unit - 1) / unit)
  | .empty => do
      return match (← tree).content v.number with
        | .file bytes => bytes.isEmpty
        | .folder _ entries => entries.isEmpty
        | _ => false
  | .newer which time => return decide (time < which.of ((← tree).node v.number))
  | .within which above most => do
      let time := which.of ((← tree).node v.number)
      return above.all (fun n => decide (n < time)) && most.all (fun n => decide (time ≤ n))
  | .links sign count => return asAsked sign count (linkCount (← tree) v.number)
  | .number sign count => return asAsked sign count (v.number + 1)
  | .owner forGroup sign count => do
      let n := (← tree).node v.number
      return asAsked sign count (if forGroup then n.group else n.owner)
  | .same n => return v.number = n
  | .linked pattern => do
      return match (← tree).content v.number with
        | .link target => pattern.fits target
        | _ => false
  | .regex fold r =>
      let text := (Text.widen v.path).toList.toArray
      return match r.find? { text := text, fold := fold, wide := true } 0 with
        | some (0, stop, _) => stop = text.size
        | _ => false
  | .executable => do
      let t ← tree
      return t.isFolder v.number || Program.mayExecute (t.node v.number).mode
  | .print sink stop => do
      s.out sink (v.path ++ stop)
      return true
  | .printf sink format => do
      s.out sink (v.text (← tree) (← process).folder format)
      return true
  | .list sink => do
      s.out sink (v.line (← tree))
      return true
  | .exec r => s.runCommandFor v r
  | .delete => do
      if v.path = "." then return true
      let removed ← change fun t f =>
        let isFolder := match t.locate f v.path false with
          | .ok n => t.isFolder n
          | .error _ => false
        if isFolder then t.removeFolder f v.path else t.removeName f v.path
      match removed with
      | .ok () => return true
      | .error e =>
          complain ("find: cannot delete " ++ mentioned v.path ++ ": " ++ e.reason ++ "\n")
          modify fun w => { w with status := 1 }
          return false
  | .prune => do
      modify fun w => { w with pruned := true }
      return true
  | .quit => do
      modify fun w => { w with stopped := true }
      return true
  | .not t => return !(← t.run s v)
  | .both a b => do
      if !(← a.run s v) then return false
      if (← get).stopped then return false
      b.run s v
  | .either a b => do
      if ← a.run s v then return true
      if (← get).stopped then return false
      b.run s v
  | .sequence a b => do
      discard (a.run s v)
      if (← get).stopped then return false
      b.run s v

/-- What a path leads to on a walk; a link that leads nowhere stands for itself. -/
def reached (path : String) (follow : Bool) : Run (Except FileError Nat) := do
  match ← locatePath path follow with
  | .error .noEntry => if follow then locatePath path false else return .error .noEntry
  | found => return found

/-- Walk over a file and what is below it; `limit` bounds how deep folders lie. -/
def walkFrom (s : WalkSettings) : (limit : Nat) → Visited → StateT Walk Run Unit
  | 0, _ => return
  | limit + 1, v => do
      if (← get).stopped then return
      let o := s.options
      let isFolder := (← tree).isFolder v.number
      if isFolder && v.follow then
        match v.above.find? fun entry => entry.1 = v.number with
        | some (_, path) =>
            complain ("find: File system loop detected; " ++ Text.mentioned v.path
              ++ " is part of the same file system loop as " ++ Text.mentioned path ++ ".\n")
            modify fun w => { w with status := 1 }
            return
        | none => pure ()
      let visit : StateT Walk Run Unit := do
        if o.lowest ≤ v.depth then discard (s.finding.run s v)
      modify fun w => { w with pruned := false }
      if !o.fromBelow then visit
      let pruned := (← get).pruned && !o.fromBelow
      let deeper : Bool := match o.deepest with
        | some n => decide (v.depth < n)
        | none => true
      if isFolder && !pruned && deeper && !(← get).stopped then
        match ← reached v.path (v.follow || v.depth = 0) with
        | .error e => WalkSettings.complainOf v.path e.reason
        | .ok _ =>
            for (name, _) in ((← tree).entries v.number).reverse do
              if !(← get).stopped then
                let path := Path.join v.path name
                match ← reached path o.follow with
                | .ok number =>
                    walkFrom s limit
                      { v with
                        path := path
                        number := number
                        depth := v.depth + 1
                        follow := o.follow
                        above := (v.number, v.path) :: v.above }
                | .error e => WalkSettings.complainOf path e.reason
      if o.fromBelow ∧ !(← get).stopped then visit

/-- Whether a word is an option about links that stands in front of all else. -/
def isLinkOption (word : String) : Bool := word = "-L" || word = "-P" || word = "-H"

/-- Find files. -/
def find (perform : Perform) : Tool := fun name arguments => do
  let isLevel (word : String) : Bool :=
    word.startsWith "-O" && 2 < word.length && (word.toList.drop 2).all Char.isDigit
  let front := arguments.takeWhile fun a => isLinkOption a || isLevel a
  let arguments := arguments.drop front.length
  let arguments := if arguments.head? = some "--" then arguments.drop 1 else arguments
  let link? := (front.filter isLinkOption).getLast?
  let paths := arguments.takeWhile fun a => !FindReader.isExpression true a
  let folder := (← process).folder
  let start : FindOptions :=
    { follow := link? = some "-L"
      followStart := link? = some "-L" || link? = some "-H" }
  let words := arguments.drop paths.length
  let blameAll (o : FindOptions) : Run Unit := do
    for warning in o.warnings do
      blame name warning
  match readFinding { tree := ← tree, folder := folder } words start with
  | .error (fault, o) =>
      blameAll o
      blame name fault
      return 1
  | .ok (f, o) =>
      blameAll o
      let mut sinks : Array Nat := #[]
      for path in o.sinks do
        match ← openPath path .writing with
        | .ok index => sinks := sinks.push index
        | .error e =>
            blame name (Text.mentioned path ++ ": " ++ e.reason)
            return 1
      let s : WalkSettings := { perform := perform, options := o, finding := f, sinks := sinks }
      let mut w : Walk := {}
      for path in (if paths.isEmpty then ["."] else paths) do
        match ← reached path o.followStart with
        | .error e =>
            blame name (Text.mentioned path ++ ": " ++ e.reason)
            w := { w with status := 1 }
        | .ok number =>
            let v : Visited :=
              { path := path, start := path, number := number, depth := 0, follow := o.follow }
            let (_, after) ← (walkFrom s ((← tree).nodes.size + 1) v).run w
            w := after
      let mut status := w.status
      for (r, folder, found) in w.collected do
        let command := r.words.flatMap fun word =>
          if word = FindReader.fileMark then found else [word]
        if !(← s.runIn folder false command) then status := 1
      return status

end ToyLang.Tools
