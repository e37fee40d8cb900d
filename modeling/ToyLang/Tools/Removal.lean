import ToyLang.Tools.FileFacts
import ToyLang.Tools.Basic

/-!
# Programs that remove files

## Main definitions

* `Removing`, `Removal` — how files are removed, and what has become of one.
* `rm`, `rmdir`, `unlink` — the programs.
-/

namespace ToyLang.Tools

open Run

/-- How names are removed. -/
structure Removing where
  /-- The name of the program. -/
  name : String
  recursive : Bool
  /-- Whether folders that hold nothing are removed as well. -/
  folders : Bool
  /-- Whether nothing is said of files that are not there. -/
  force : Bool
  verbose : Bool
  /-- Whether a question comes before each removal. -/
  asks : Bool
  /-- Whether the root is left alone. -/
  keepsRoot : Bool

/-- What has become of a file. -/
structure Removal where
  /-- Whether nothing went wrong. -/
  well : Bool := true
  /-- Whether the folders around the file have to stay because it does. -/
  stays : Bool := false

namespace Removing

variable (r : Removing)

/-- Say that a file cannot be removed. -/
def failed (path : String) (e : FileError) : Run Removal := do
  if r.force ∧ (e = .noEntry ∨ e = .notDirectory) then return {}
  blame r.name ("cannot remove " ++ quoted path ++ ": " ++ e.reason)
  return { well := false, stays := true }

/-- Take away the name of a file. -/
def take (path : String) (isFolder : Bool) : Run Removal := do
  match ← change fun t f => if isFolder then t.removeFolder f path else t.removeName f path with
  | .ok () =>
      if r.verbose then
        put ("removed " ++ (if isFolder then "directory " else "") ++ quoted path ++ "\n")
      return {}
  | .error e => r.failed path e

/-- Whether a file may be removed, or a folder be looked into. -/
def may (path : String) (c : Content) (descends : Bool) : Asking Bool :=
  if r.asks then
    Asking.agrees (r.name ++ ": "
      ++ (if descends then "descend into directory" else "remove " ++ kindWords c) ++ " "
      ++ quoted path ++ "? ")
  else pure true

/-- Remove what a path leads to; `depth` bounds how deep folders lie, and the first of them was
named as an operand. -/
def remove : (depth : Nat) → (first : Bool) → String → Asking Removal
  | 0, _, _ => return { well := false }
  | depth + 1, first, path => do
      let t ← liftM (m := Run) tree
      match ← liftM (m := Run) (locatePath path false) with
      | .error e => liftM (m := Run) (r.failed path e)
      | .ok number =>
          let content := t.content number
          if !t.isFolder number then
            if !(← r.may path content false) then return {}
            return ← liftM (m := Run) (r.take path false)
          let entries := oldestFirst t number
          if !r.recursive && !(r.folders && entries.isEmpty) then
            return ← liftM (m := Run) do
              blame r.name ("cannot remove " ++ quoted path ++ ": "
                ++ (if r.folders then FileError.notEmpty else .isDirectory).reason)
              return { well := false, stays := true }
          let base := Path.base path
          if first && (base = "." || base = "..") then
            return ← liftM (m := Run) do
              blame r.name ("refusing to remove '.' or '..' directory: skipping " ++ quoted path)
              return { well := false }
          if first && r.keepsRoot && number = FileTree.root then
            return ← liftM (m := Run) do
              blameRoot r.name path
              return { well := false }
          if !(← r.may path content (!entries.isEmpty)) then return { stays := true }
          if r.asks && entries.isEmpty then return ← liftM (m := Run) (r.take path true)
          let mut well := true
          let mut stays := false
          for (entry, _) in entries do
            let below ← remove depth false (Path.join path entry)
            well := well && below.well
            stays := stays || below.stays
          if stays then return { well := well, stays := true }
          if !(← r.may path content false) then return { well := well }
          let taken ← liftM (m := Run) (r.take path true)
          return { taken with well := well && taken.well }

end Removing

/-- When questions are asked. -/
inductive Caution where
  | never
  | once
  | always
  deriving DecidableEq

/-- The words for when questions are asked. -/
def cautionWords : List (List String × Caution) :=
  [(["never", "no", "none"], .never), (["once"], .once), (["always", "yes"], .always)]

/-- The options of `rm`. -/
def removalOptions : OptionTable :=
  { flags := "dfiIrRv"
    long := [("force", 'f', .none), ("recursive", 'r', .none), ("dir", 'd', .none),
      ("verbose", 'v', .none), ("interactive", '?', .optional),
      ("no-preserve-root", '/', .none), ("preserve-root", '=', .optional),
      ("one-file-system", '.', .none)] }

/-- Say how files that look like options can be named. -/
def hintAtNames (name : String) (arguments : List String) : Run Unit := do
  for argument in arguments do
    if argument.startsWith "-" ∧ 1 < argument.length then
      if ← isThere argument false then
        return ← complain ("Try '" ++ name ++ " ./" ++ quotedIfNeeded argument
          ++ "' to remove the file " ++ quoted argument ++ ".\n")

/-- Remove files. -/
def rm : Tool := fun name arguments => do
  match readArguments removalOptions (arguments.length + 1) arguments with
  | .error text =>
      blame name text
      hintAtNames name arguments
      askForHelp name 1
  | .ok g =>
      let mut caution := Caution.never
      let mut force := false
      for (letter, word) in g.options do
        if letter = 'f' then
          caution := .never
          force := true
        else if letter = 'i' ∨ letter = 'I' then
          caution := if letter = 'i' then .always else .once
          force := false
        else if letter = '?' then
          match choice? cautionWords (if word = "" then "always" else word) with
          | .ok c =>
              caution := c
              if c ≠ .never then force := false
          | .error isStart =>
              complainOfChoice name "--interactive" word cautionWords isStart
              return ← askForHelp name 1
        else if letter = '=' ∧ word ≠ "" ∧ word ≠ "all" then
          blame name ("unrecognized --preserve-root argument: " ++ quoted word)
          return 1
      let recursive := g.has 'r' || g.has 'R'
      let count := g.operands.length
      if count = 0 then return ← if force then pure 0 else missingOperand name []
      let r : Removing :=
        { name := name
          recursive := recursive
          folders := g.has 'd'
          force := force
          verbose := g.has 'v'
          asks := caution = .always
          keepsRoot := g.last? ['/', '='] ≠ some '/' }
      asking do
        if caution = .once ∧ (recursive ∨ 3 < count) then
          let things := toString count ++ if count = 1 then " argument" else " arguments"
          if !(← Asking.agrees (name ++ ": remove " ++ things
            ++ (if recursive then " recursively" else "") ++ "? ")) then return 0
        let mut status := 0
        for path in g.operands do
          let depth := (← liftM (m := Run) tree).nodes.size + 1
          let removal ← r.remove depth true path
          if !removal.well then status := 1
        return status

/-- Whether a path with a slash at its end names a link to a folder. -/
def isLinkWithSlash (path : String) : Run Bool := do
  if !path.endsWith "/" then return false
  match ← locatePath (Path.trimSlashes path) false with
  | .error _ => return false
  | .ok number => match (← tree).content number with
    | .link _ => isFolderAt path true
    | _ => return false

/-- Remove folders that hold nothing. -/
def rmdir : Tool := fun name arguments =>
  withOptions name
    { flags := "pv"
      long := [("parents", 'p', .none), ("verbose", 'v', .none),
        ("ignore-fail-on-non-empty", '/', .none)] }
    arguments fun g => do
      if g.operands.isEmpty then return ← missingOperand name []
      forOperands g fun path => do
        let names := Path.names (Path.trimSlashes path)
        let above := if g.has 'p' then
            ((List.range names.length).reverse.drop 1).map fun i =>
              "/".intercalate (names.take (i + 1))
          else []
        let mut well := true
        let paths := path :: above.filter (· ≠ "")
        for (part, i) in paths.zipIdx do
          if well then
            if g.has 'v' then put (name ++ ": removing directory, " ++ quoted part ++ "\n")
            match ← change fun t f => t.removeFolder f part with
            | .ok () => pure ()
            | .error e =>
                well := false
                if e = .notEmpty ∧ g.has '/' then return true
                let reason := if ← isLinkWithSlash part then "Symbolic link not followed"
                  else e.reason
                blame name ("failed to remove " ++ (if i = 0 then "" else "directory ")
                  ++ quoted part ++ ": " ++ reason)
        return well

/-- Remove one name. -/
def unlink : Tool := fun name arguments =>
  withOptions name {} arguments fun g => do
    match g.operands with
    | [] => missingOperand name []
    | _ :: extra :: _ => extraOperand name extra
    | [path] =>
        match ← change fun t f => t.removeName f path with
        | .ok () => return 0
        | .error e =>
            blame name ("cannot unlink " ++ quoted path ++ ": " ++ e.reason)
            return 1

end ToyLang.Tools
