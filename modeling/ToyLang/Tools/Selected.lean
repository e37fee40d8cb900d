import ToyLang.Shell.Pattern
import ToyLang.Tools.Search

/-!
# Selected lines of files

## Main definitions

* `FilePlan` — which files are searched, and what is said about them.
* `grep` — the program.
-/

namespace ToyLang.Tools

open Run

/-! ### Options -/

/-- The options of the program that searches. -/
def grepOptions : OptionTable where
  flags := "0123456789EFGHILPTUVZabchilnoqRrsuvwxyz"
  valued := "ABCDXdefm"
  long := [("basic-regexp", 'G', .none), ("extended-regexp", 'E', .none),
    ("fixed-regexp", 'F', .none), ("fixed-strings", 'F', .none), ("perl-regexp", 'P', .none),
    ("after-context", 'A', .required), ("before-context", 'B', .required),
    ("binary-files", '!', .required), ("binary", 'U', .none), ("byte-offset", 'b', .none),
    ("context", 'C', .required), ("color", 'O', .optional), ("colour", 'O', .optional),
    ("count", 'c', .none), ("devices", 'D', .required), ("directories", 'd', .required),
    ("exclude", '-', .required), ("exclude-from", '<', .required),
    ("exclude-dir", '/', .required), ("file", 'f', .required),
    ("files-with-matches", 'l', .none), ("files-without-match", 'L', .none),
    ("group-separator", '=', .required), ("ignore-case", 'i', .none),
    ("no-ignore-case", 'N', .none), ("include", '+', .required), ("initial-tab", 'T', .none),
    ("label", '@', .required), ("line-buffered", '.', .none), ("line-number", 'n', .none),
    ("line-regexp", 'x', .none), ("max-count", 'm', .required), ("no-filename", 'h', .none),
    ("no-group-separator", '~', .none), ("no-messages", 's', .none), ("null", 'Z', .none),
    ("null-data", 'z', .none), ("only-matching", 'o', .none), ("quiet", 'q', .none),
    ("recursive", 'r', .none), ("dereference-recursive", 'R', .none), ("regexp", 'e', .required),
    ("invert-match", 'v', .none), ("silent", 'q', .none), ("text", 'a', .none),
    ("unix-byte-offsets", 'u', .none), ("with-filename", 'H', .none), ("word-regexp", 'w', .none)]

/-- The digits that are options, as one number. -/
def digitOptions (g : Given) : Option String :=
  let digits := (g.options.map Prod.fst).filter Char.isDigit
  if digits.isEmpty then none else some (String.ofList digits)

/-- Which files are searched, and what is said about them. -/
structure FilePlan where
  search : Search
  /-- Whether inputs are listed that have, or do not have, selected lines. -/
  listed : Option Bool
  quiet : Bool
  /-- Whether complaints about files are left out. -/
  silent : Bool
  counted : Bool
  recursive : Bool
  /-- Whether folders are passed over. -/
  skipsFolders : Bool
  /-- Whether links below a folder are followed. -/
  follows : Bool
  names : NameFilter
  folders : NameFilter
  label : String
  /-- Whether the name of a file stands in front of its lines, if an option says so. -/
  titled : Option Bool

/-- What going through files has brought. -/
structure FilesFound where
  found : Bool := false
  failed : Bool := false
  /-- Whether nothing more needs to be searched. -/
  isOver : Bool := false

/-! ### Files -/

/-- The node behind standard output, if it is a file. -/
def outputNode? : Run (Option Nat) := do
  match ← openFile? 1 with
  | some (_, { target := .node number, .. }) =>
      match (← tree).content number with
      | .file _ => return some number
      | _ => return none
  | _ => return none

/-- The node that is read for a file. -/
def inputNode? (file : String) : Run (Option Nat) := do
  if file = "-" then
    match ← openFile? 0 with
    | some (_, { target := .node number, .. }) => return some number
    | _ => return none
  match (← tree).locate (← process).folder file with
  | .ok number => return some number
  | .error _ => return none

/-- Search a text, and show what was found. -/
def searchText (name : String) (p : FilePlan) (titled : Bool) (shown text : String) :
    Run (Nat × Searching) := do
  let shows := !(p.quiet || p.counted || p.listed.isSome)
  let most :=
    if (p.quiet || p.listed.isSome) && p.search.most ≠ some 0 then some 1 else p.search.most
  let s := { p.search with titled := titled, counted := !shows, most := most }
  let r := s.run shown text
  let nameEnd := s.nameEnd.getD ""
  if p.quiet then return (r.count, r)
  if p.counted && p.listed.isNone then
    put ((if titled then s.paint "35" shown ++ s.nameEnd.getD (s.paint "36" ":") else "")
      ++ toString r.count ++ "\n")
  if p.listed = some (decide (r.count ≠ 0)) then
    put (s.paint "35" shown ++ (if s.nameEnd.isSome then nameEnd else "\n"))
  put (String.join r.out.reverse)
  if shows && r.isBinary && p.search.binary ≠ .skipped then blame name (shown ++ ": binary file matches")
  return (r.count, r)

/-- Search a file. -/
def searchFile (name : String) (p : FilePlan) (titled : Bool) (file : String) (f : FilesFound) :
    Run FilesFound := do
  let shown := if file = "-" then p.label else file
  let shows := !(p.quiet || p.counted || p.listed.isSome)
  if shows && p.search.most ≠ some 1 then
    if let some number ← outputNode? then
      if (← inputNode? file) = some number then
        blame name (shown ++ ": input file is also the output")
        return { f with failed := true }
  match ← readInput file with
  | .error e =>
      if e = .isDirectory && p.skipsFolders then return f
      if !p.silent then blame name (shown ++ ": " ++ e.reason)
      return { f with failed := true }
  | .ok text =>
      let (count, r) ← searchText name p titled shown text
      if file = "-" && p.search.most.any (· ≤ count) && shows then
        giveBack 0 (text.length - r.selectedEnd)
      return { f with found := f.found || count ≠ 0, isOver := p.quiet && count ≠ 0 }

/-- Search what is below a folder; `depth` bounds how deep folders nest, and `bare` says that the
name of the folder is left out. -/
def searchBelow (name : String) (p : FilePlan) : (depth : Nat) → (bare : Bool) →
    (folder : String) → FilesFound → Run FilesFound
  | 0, _, _, f => return f
  | depth + 1, bare, folder, f => do
      let t ← tree
      match t.locate (← process).folder folder with
      | .error _ => return f
      | .ok number =>
          let mut f := f
          for entry in t.listing number do
            let path := if bare then entry else Path.join folder entry
            if f.isOver then return f
            match t.locate (← process).folder path p.follows with
            | .error e =>
                if !p.silent then blame name (path ++ ": " ++ e.reason)
                f := { f with failed := true }
            | .ok n =>
                match t.content n with
                | .folder _ _ =>
                    if !p.folders.excludes false entry then
                      f ← searchBelow name p depth false path f
                | .file _ =>
                    if !p.names.excludes false entry then
                      f ← searchFile name p (p.titled.getD true) path f
                | _ => pure ()
          return f

/-- Search what an operand means. -/
def searchOperand (name : String) (p : FilePlan) (several isImplied : Bool) (operand : String)
    (f : FilesFound) : Run FilesFound := do
  let t ← tree
  let isFolder : Bool := match t.locate (← process).folder operand with
    | .ok number => operand ≠ "-" && t.isFolder number
    | .error _ => false
  if isFolder && p.recursive then
    if !isImplied && p.folders.excludes true operand then return f
    searchBelow name p 100 isImplied operand f
  else if operand ≠ "-" && (if isFolder then p.folders else p.names).excludes true operand then
    return f
  else searchFile name p (p.titled.getD several) operand f

/-! ### The program -/

/-- Say how the program is used. -/
def grepUsage (name : String) (status : Nat := 2) : Run Nat := do
  complain ("Usage: grep [OPTION]... PATTERNS [FILE]...\nTry '" ++ name
    ++ " --help' for more information.\n")
  return status

/-- A length of context, or what is wrong with it. -/
def contextLength (text : Option String) : Except String (Option Nat) :=
  match text with
  | none => .ok none
  | some text => match sizeOf? text with
    | some n => .ok (some n)
    | none => .error (text ++ ": invalid context length argument")

/-- The plan that options spell, without the patterns. -/
def filePlanOf (g : Given) (finder : Finder) : Except String FilePlan := do
  let digits ← contextLength (digitOptions g)
  let around := digits <|> (← contextLength (g.value? 'C'))
  let before ← contextLength (g.value? 'B')
  let after ← contextLength (g.value? 'A')
  let most ← match g.value? 'm' with
    | none => pure none
    | some text => match text.toList with
      | '-' :: cs =>
          if (sizeOf? (String.ofList cs)).isNone then throw "invalid max count"
          pure none
      | _ => match sizeOf? text with
        | some n => pure (some n)
        | none => throw "invalid max count"
  let binary ← match g.options.reverse.find? fun o => o.1 = '!' || o.1 = 'a' with
    | some ('!', "binary") => pure BinaryKind.noticed
    | some ('!', "text") | some ('a', _) => pure .text
    | some ('!', "without-match") => pure .skipped
    | some _ => throw "unknown binary-files type"
    | none => pure .noticed
  if let some action := g.value? 'D' then
    if action ≠ "read" && action ≠ "skip" then throw "unknown devices method"
  let recursive := match g.options.reverse.find? fun o => ['r', 'R', 'd'].contains o.1 with
    | some ('d', action) => "recurse".startsWith action
    | some _ => true
    | none => false
  let listed : Option Bool := (g.last? ['l', 'L']).map fun c => c = 'l'
  return {
    search := {
      finder := finder
      fold := g.last? ['i', 'y', 'N'] ≠ none && g.last? ['i', 'y', 'N'] ≠ some 'N'
      inverted := g.has 'v'
      most := most
      before := (before <|> around).getD 0
      after := (after <|> around).getD 0
      separator := match g.options.reverse.find? fun o => o.1 = '=' || o.1 = '~' with
        | some ('=', text) => some text
        | some _ => none
        | none => some "--"
      numbered := g.has 'n'
      offsets := g.has 'b'
      onlyHits := g.has 'o'
      titled := false
      nameEnd := if g.has 'Z' then some "\x00" else none
      tabbed := g.has 'T'
      counted := false
      binary := binary
      colored := (g.value? 'O').any ["always", "yes", "force"].contains
      mark := if g.has 'z' then '\x00' else '\n' }
    listed := listed
    quiet := g.has 'q'
    silent := g.has 's'
    counted := g.has 'c'
    recursive := recursive
    skipsFolders := !recursive && (g.value? 'd').any fun action => "skip".startsWith action
    follows := g.last? ['r', 'R'] = some 'R'
    names := g.options.filterMap fun (c, text) =>
      if c = '+' then some (true, text) else if c = '-' then some (false, text) else none
    folders := (g.values '/').map fun text =>
      (false, String.ofList (text.toList.reverse.dropWhile (· = '/')).reverse)
    label := (g.value? '@').getD "(standard input)"
    titled := (g.last? ['h', 'H']).map fun c => c = 'H' }

/-- The kind of patterns that options ask for, unless they ask for several. -/
def patternKind (usual : Char) (g : Given) : Except String PatternKind := do
  let letters := (g.options.map Prod.fst).filter ['E', 'F', 'G', 'P'].contains
  let letters := if usual = 'G' then letters else usual :: letters
  if letters.any fun c => some c ≠ letters.head? then throw "conflicting matchers specified"
  return match letters.head? with
    | some 'E' => .extended
    | some 'F' => .literal
    | some 'P' => .ordered
    | _ => .basic

/-- Show the lines that match patterns, which are given. -/
def grepFor (name : String) (usual : Char) (g : Given) (patterns operands : List String) :
    Run Nat := do
  let extent : MatchExtent := if g.has 'x' then .lines else if g.has 'w' then .words else .anything
  let fold : Bool := (g.last? ['i', 'y', 'N']).any (· ≠ 'N')
  let plan : Except String (FilePlan × List String) := do
    let kind ← patternKind usual g
    -- Options come before patterns where both are wrong.
    discard (filePlanOf g (.longest .empty))
    let (finder, warnings) ← Finder.ofTexts? kind extent fold patterns
    return (← filePlanOf g finder, warnings)
  match plan with
  | .error fault =>
      blame name fault
      return 2
  | .ok (p, warnings) =>
      for text in warnings do blame name ("warning: " ++ text)
      if p.search.most = some 0 && p.listed ≠ some false then return 1
      let isImplied := operands.isEmpty && p.recursive
      let operands := if isImplied then ["."] else inputsOf operands
      let mut f : FilesFound := {}
      for operand in operands do
        if !f.isOver then
          f ← searchOperand name p (1 < operands.length) isImplied operand f
      if f.isOver then return 0
      return if f.failed then 2 else if f.found then 0 else 1

/-- Show the lines that match patterns; `usual` says how patterns are written if no option does. -/
def grepAs (usual : Char) : Tool := fun _ arguments => do
  let name := "grep"
  match readArguments grepOptions (arguments.length + 1) arguments with
  | .error text =>
      blame name text
      grepUsage name
  | .ok g =>
    let g := { g with options := g.options.map fun (c, text) =>
      -- Two options have letters that also stand for others.
      if c = 'I' then ('!', "without-match") else (c, text) }
    if g.has 'u' then blame name "warning: --unix-byte-offsets (-u) is obsolete"
    if let some action := g.value? 'd' then
      if !(["read", "recurse", "skip"].any (·.startsWith action)) then
        blame name ("invalid argument " ++ mentioned action ++ " for " ++ mentioned "--directories")
        complain ("Valid arguments are:\n" ++ String.join
          (["read", "recurse", "skip"].map fun word => "  - " ++ mentioned word ++ "\n"))
        return ← grepUsage name 1
    let mut g := g
    for list in g.values '<' do
      match ← readInput list with
      | .ok text =>
          g := { g with options := g.options ++ (linesOf text).map fun line => ('-', line) }
      | .error e =>
          blame name (list ++ ": " ++ e.reason)
          return 2
    let mut listed : List String := []
    for (letter, text) in g.options do
      if letter = 'e' then listed := listed ++ text.splitOn "\n"
      if letter = 'f' then
        match ← readInput text with
        | .ok found => listed := listed ++ linesOf found
        | .error e =>
            blame name (text ++ ": " ++ e.reason)
            return 2
    if g.has 'e' || g.has 'f' then grepFor name usual g listed g.operands
    else match g.operands with
    | [] => grepUsage name
    | pattern :: operands => grepFor name usual g (pattern.splitOn "\n") operands

/-- Show the lines that match patterns. -/
def grep : Tool := grepAs 'G'

end ToyLang.Tools
