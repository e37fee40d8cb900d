import ToyLang.Tools.Basic

/-!
# Programs that show where paths lead

The canonical path of a file starts at the root, and no name in it is a link, a single point or a
double one.  It may be asked for although not all of the path is there.

## Main definitions

* `Needed` — how much of a path must be there.
* `FileTree.canonical` — the canonical path of what a path leads to.
* `canonicalPath`, `relativePath` — other paths for the same place.
* `readlink`, `realpath` — the programs.
-/

namespace ToyLang

/-- How much of a path must be there. -/
inductive Needed where
  | all
  /-- All but the last name. -/
  | folder
  | nothing
  deriving DecidableEq

namespace FileTree

/-- What a search for a canonical path knows. -/
structure CanonicalSearch where
  /-- The names so far, the last of them first. -/
  names : List String := []
  /-- What is left of the path. -/
  rest : List Char
  /-- The links that were followed: from which folder, and with what left of the path. -/
  followed : List (List String × List Char) := []

/-- The path that some names make up, the last of them first. -/
def pathOfNames (names : List String) : String := "/" ++ "/".intercalate names.reverse

/-- Whether what is left of a path asks for a folder: a slash at the end, or one with points behind
it; each step passes over a name that is a single point. -/
def asksForFolder : (steps : Nat) → List Char → Bool
  | steps + 1, '/' :: cs =>
      match cs.dropWhile (· = '/') with
      | [] => true
      | '.' :: rest => match rest with
        | [] | ['.'] | '.' :: '/' :: _ => true
        | _ => asksForFolder steps rest
      | _ => false
  | _, _ => false

/-- What is found at some names that are not a link, if that will do. -/
def settle (t : FileTree) (needed : Needed) (links : Bool) (s : CanonicalSearch) :
    Except FileError Unit := do
  if needed = .nothing then return
  let path := pathOfNames s.names
  let isLast := s.rest.all (· = '/')
  let found : Except FileError Unit :=
    if asksForFolder (s.rest.length + 1) s.rest then do
      let number ← t.locate root path
      if t.isFolder number then return
      throw .notDirectory
    else if !links && !s.rest.isEmpty then return
    else (t.locate root path links.not).map fun _ => ()
  match found with
  | .error .noEntry => if needed = .folder && isLast then return else throw .noEntry
  | found => found

/-- Go on with a search; each step takes a name or follows a link. -/
def searchCanonical (t : FileTree) (needed : Needed) (links : Bool) :
    (steps : Nat) → CanonicalSearch → Except FileError String
  | 0, _ => throw .tooManyLinks
  | steps + 1, s =>
      let cs := s.rest.dropWhile (· = '/')
      let name := cs.takeWhile (· ≠ '/')
      let rest := cs.drop name.length
      if name.isEmpty then .ok (pathOfNames s.names)
      else if name = ['.'] then searchCanonical t needed links steps { s with rest := rest }
      else if name = ['.', '.'] then
        searchCanonical t needed links steps { s with names := s.names.drop 1, rest := rest }
      else
        let names := String.ofList name :: s.names
        let target? : Option String :=
          if !links then none
          else match t.locate root (pathOfNames names) false with
            | .ok number => match t.content number with
              | .link target => some target
              | _ => none
            | .error _ => none
        let next : CanonicalSearch := { s with names := names, rest := rest }
        match target? with
        | none => do
            settle t needed links next
            searchCanonical t needed links steps next
        | some target =>
            if linkLimit ≤ s.followed.length && s.followed.contains (s.names, cs) then
              if needed = .nothing then searchCanonical t needed links steps next
              else throw .tooManyLinks
            else
              searchCanonical t needed links steps
                { names := if target.startsWith "/" then [] else s.names
                  rest := target.toList ++ rest
                  followed := (s.names, cs) :: s.followed }

/-- The names and links that a search passes at most. -/
def canonicalSteps : Nat := 100000

/-- The canonical path of what a path from a folder leads to.  Links are names like all others if
they are not to be followed. -/
def canonical (t : FileTree) (folder : Nat) (needed : Needed) (path : String)
    (links : Bool := true) : Except FileError String :=
  if path = "" then throw .noEntry
  else
    let start := if path.startsWith "/" then [] else (t.pathWithin t.nodes.size folder).reverse
    searchCanonical t needed links canonicalSteps { names := start, rest := path.toList }

end FileTree

end ToyLang

namespace ToyLang.Tools

open Run

/-- The canonical path of what a path leads to. -/
def canonicalPath (needed : Needed) (path : String) (links : Bool := true) :
    Run (Except FileError String) := do
  return (← tree).canonical (← process).folder needed path links

/-- A path as it is reached from a folder. -/
def relativePath (folder path : String) : String :=
  let above := (Path.names folder).filter (· ≠ "")
  let names := (Path.names path).filter (· ≠ "")
  let shared := ((above.zip names).takeWhile fun pair => pair.1 = pair.2).length
  let steps := List.replicate (above.length - shared) ".." ++ names.drop shared
  if steps.isEmpty then "." else "/".intercalate steps

/-- Whether a canonical path lies in a folder with another one, or is the same. -/
def liesIn (folder path : String) : Bool :=
  let above := (Path.names folder).filter (· ≠ "")
  ((Path.names path).filter (· ≠ "")).take above.length = above

/-- What a link stands for. -/
def linkTarget (path : String) : Run (Except FileError String) := do
  match ← locatePath path false with
  | .error e => return .error e
  | .ok number =>
      match (← tree).content number with
      | .link target => return .ok target
      | _ => return .error .invalid

/-- Show what links stand for, or where paths lead. -/
def readlink : Tool := fun name arguments =>
  withOptions name
    { flags := "femnqsvz"
      long := [("canonicalize", 'f', .none), ("canonicalize-existing", 'e', .none),
        ("canonicalize-missing", 'm', .none), ("no-newline", 'n', .none), ("quiet", 'q', .none),
        ("silent", 's', .none), ("verbose", 'v', .none), ("zero", 'z', .none)] }
    arguments fun g => do
      if g.operands.isEmpty then return ← missingOperand name []
      let isAlone := g.operands.length = 1
      if g.has 'n' && !isAlone then
        blame name "ignoring --no-newline with multiple arguments"
      let stop := if g.has 'n' && isAlone then "" else if g.has 'z' then "\x00" else "\n"
      forOperands g fun path => do
        let found ← match g.last? ['f', 'e', 'm'] with
          | some 'f' => canonicalPath .folder path
          | some 'e' => canonicalPath .all path
          | some _ => canonicalPath .nothing path
          | none => linkTarget path
        match found with
        | .ok text =>
            put (text ++ stop)
            return true
        | .error e =>
            if g.last? ['q', 's', 'v'] = some 'v' then
              blame name (quotedIfNeeded path ++ ": " ++ e.reason)
            return false

/-- Show where paths lead. -/
def realpath : Tool := fun name arguments =>
  withOptions name
    { flags := "emqszLP"
      long := [("canonicalize-existing", 'e', .none), ("canonicalize-missing", 'm', .none),
        ("quiet", 'q', .none), ("strip", 's', .none), ("no-symlinks", 's', .none),
        ("zero", 'z', .none), ("logical", 'L', .none), ("physical", 'P', .none),
        ("relative-to", '/', .required), ("relative-base", '=', .required)] }
    arguments fun g => do
      if g.operands.isEmpty then return ← missingOperand name []
      let needed : Needed := match g.last? ['e', 'm'] with
        | some 'e' => .all
        | some _ => .nothing
        | none => .folder
      let links := g.last? ['s', 'L', 'P']
      let canonical (path : String) : Run (Except FileError String) := do
        if links = some 's' then canonicalPath needed path false
        else if links = some 'L' then
          match ← canonicalPath needed path false with
          | .ok path => canonicalPath needed path
          | .error e => return .error e
        else canonicalPath needed path
      let start? := g.value? '/' <|> g.value? '='
      let mut starts : List String := []
      for path in start?.toList ++ (g.value? '=').toList do
        match ← canonical path with
        | .error e =>
            blame name (quotedIfNeeded path ++ ": " ++ e.reason)
            return 1
        | .ok found =>
            if needed = .all ∧ !(← isFolderAt found true) then
              blame name (quotedIfNeeded path ++ ": " ++ FileError.notDirectory.reason)
              return 1
            starts := starts ++ [found]
      let shown (path : String) : String :=
        match starts with
        | [] => path
        | [start] => relativePath start path
        | start :: base :: _ =>
            if liesIn base start && liesIn base path then relativePath start path else path
      forOperands g fun path => do
        match ← canonical path with
        | .error e =>
            if !g.has 'q' then blame name (quotedIfNeeded path ++ ": " ++ e.reason)
            return false
        | .ok found =>
            put (shown found ++ if g.has 'z' then "\x00" else "\n")
            return true

end ToyLang.Tools
