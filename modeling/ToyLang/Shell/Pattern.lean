import ToyLang.Files.Tree
import ToyLang.Text.CharClass

/-!
# Patterns

Patterns for texts and for the names of files.  A character of a pattern that was quoted stands
for itself.

## Main definitions

* `Glob` — the parts of a pattern.
* `GlobStyle` — how patterns are written.
* `Glob.ofMarked` — the pattern that marked characters spell.
* `Pattern.matches` — whether a pattern matches a text.
* `expandPath` — the paths that a pattern matches.
* `Tools.NamePattern` — patterns that match by characters or by bytes.
* `Tools.NameFilter` — names that are taken in or left out.
-/

namespace ToyLang.Shell

open Text (CharItem)

/-- A character, and whether it was quoted. -/
abbrev Marked := Char × Bool

/-- How often one of some patterns stands at a place. -/
inductive GroupKind where
  | once
  | optional
  | atLeastOnce
  | repeated
  /-- What stands there matches none of them. -/
  | excluded
  deriving DecidableEq, Repr

/-- A part of a pattern. -/
inductive Glob where
  | char (c : Char)
  | any
  | many
  | set (negated : Bool) (items : List CharItem)
  | group (kind : GroupKind) (alternatives : List (List Glob))

/-- How patterns are written. -/
structure GlobStyle where
  /-- Whether a caret negates a set. -/
  caret : Bool
  /-- Whether characters are more than bytes. -/
  wide : Bool
  /-- Whether there are groups. -/
  groups : Bool

/-- A pattern: its parts, and whether the characters that they match are more than bytes. -/
structure Pattern where
  wide : Bool
  parts : List Glob

/-! ### Reading patterns -/

/-- Take the items of a set up to its closing bracket, which may stand first as an item.  Each
step takes at least one character. -/
def takeItems : (steps : Nat) → (first : Bool) → List Marked → Option (List CharItem × List Marked)
  | 0, _, _ => none
  | _, _, [] => none
  | steps + 1, first, (c, quoted) :: cs =>
      if c = ']' ∧ quoted = false ∧ first = false then some ([], cs)
      else
        let add (item : CharItem) (rest : List Marked) : Option (List CharItem × List Marked) :=
          (takeItems steps false rest).map fun (items, rest) => (item :: items, rest)
        match c, quoted, cs with
        | '[', false, (':', _) :: rest =>
            let name := rest.takeWhile fun m => m.1 ≠ ':'
            match rest.drop name.length with
            | (':', _) :: (']', _) :: rest => add (.cls (String.ofList (name.map Prod.fst))) rest
            | _ => add (.range '[' '[') cs
        | c, _, ('-', false) :: (d, q) :: rest =>
            if d = ']' ∧ q = false then add (.range c c) cs else add (.range c d) rest
        | c, _, cs => add (.range c c) cs

/-- The kind of the group that a character starts in front of a parenthesis. -/
def GroupKind.of? : Char → Option GroupKind
  | '@' => some .once
  | '?' => some .optional
  | '+' => some .atLeastOnce
  | '*' => some .repeated
  | '!' => some .excluded
  | _ => none

/-- Cut marked characters at the bars that stand in no group, up to the parenthesis that closes
the group around them; what follows it is given too. -/
def cutGroup : (depth : Nat) → List Marked → Option (List (List Marked) × List Marked)
  | _, [] => none
  | depth, (c, quoted) :: cs =>
      if !quoted && c = ')' && depth = 0 then some ([[]], cs)
      else
        let deeper := if quoted then depth
          else if c = '(' then depth + 1
          else if c = ')' then depth - 1
          else depth
        (cutGroup deeper cs).map fun (parts, rest) =>
          if !quoted && c = '|' && depth = 0 then ([] :: parts, rest)
          else match parts with
            | part :: parts => (((c, quoted) :: part) :: parts, rest)
            | [] => ([[(c, quoted)]], rest)

/-- The parts that marked characters spell. -/
def Glob.ofMarked (style : GlobStyle) : (steps : Nat) → List Marked → List Glob
  | 0, _ => []
  | _, [] => []
  | steps + 1, (c, quoted) :: cs =>
      let plain (_ : Unit) : List Glob :=
        let rest := ofMarked style steps cs
        if quoted then .char c :: rest
        else if c = '*' then .many :: rest
        else if c = '?' then .any :: rest
        else .char c :: rest
      let grouped : Option (GroupKind × List (List Marked) × List Marked) :=
        match style.groups && !quoted, GroupKind.of? c, cs with
        | true, some kind, ('(', false) :: inside => (cutGroup 0 inside).map (kind, ·)
        | _, _, _ => none
      match grouped with
      | some (kind, parts, left) =>
          .group kind (parts.map (ofMarked style steps)) :: ofMarked style steps left
      | none =>
          if c = '[' ∧ !quoted then
            let (negated, inside) := match cs with
              | ('!', false) :: more => (true, more)
              | ('^', false) :: more => if style.caret then (true, more) else (false, cs)
              | cs => (false, cs)
            match takeItems (inside.length + 1) true inside with
            | some (items, left) => .set negated items :: ofMarked style steps left
            | none => plain ()
          else plain ()

/-- Marked bytes as marked characters. -/
def widenMarked (cs : List Marked) : List Marked :=
  if cs.all fun m => m.1.toNat < 0x80 then cs
  else
    let step (state : List Marked × List Marked) (c : Char × Nat) : List Marked × List Marked :=
      ((c.1, (state.2.head?.map Prod.snd).getD false) :: state.1, state.2.drop c.2)
    ((Text.sizedChars (cs.map Prod.fst)).foldl step ([], cs)).1.reverse

/-- The pattern that marked characters spell. -/
def Pattern.ofMarked (style : GlobStyle) (cs : List Marked) : Pattern :=
  ⟨style.wide, Glob.ofMarked style (cs.length + 1) (if style.wide then widenMarked cs else cs)⟩

/-! ### Matching -/

/-- Some places in ascending order, without repetitions. -/
def orderedPlaces (places : List Nat) : List Nat :=
  (places.mergeSort fun a b => decide (a ≤ b)).eraseReps

/-- The places that a step leads to from some others, once or several times; `steps` bounds how
often. -/
def reachedPlaces (step : List Nat → List Nat) : (steps : Nat) → (fresh seen : List Nat) → List Nat
  | 0, _, seen => seen
  | steps + 1, fresh, seen =>
      let new := (step fresh).filter fun i => !seen.contains i
      if new.isEmpty then seen else reachedPlaces step steps new (orderedPlaces (new ++ seen))

/-- The places at and behind the first one of some. -/
def placesFrom (size : Nat) : List Nat → List Nat
  | [] => []
  | first :: _ => (List.range (size + 1 - first)).map (first + ·)

/-- The places behind those at which a character is one that is looked for. -/
def placesBehind (text : Array Char) (test : Char → Bool) (places : List Nat) : List Nat :=
  (places.filter fun i => (text[i]?).any test).map (· + 1)

mutual

/-- Where a part may end that begins at one of some places, which ascend. -/
def Glob.ends (wide : Bool) (text : Array Char) : Glob → List Nat → List Nat
  | .char c, places => placesBehind text (· = c) places
  | .any, places => placesBehind text (fun _ => true) places
  | .many, places => placesFrom text.size places
  | .set negated items, places =>
      placesBehind text (fun c => items.any (CharItem.has wide c) != negated) places
  | .group kind alternatives, places =>
      let once := endsOfSome wide text alternatives
      match kind with
      | .once => once places
      | .optional => orderedPlaces (places ++ once places)
      | .atLeastOnce =>
          let first := once places
          reachedPlaces once (text.size + 1) first first
      | .repeated => reachedPlaces once (text.size + 1) places places
      | .excluded =>
          orderedPlaces (places.flatMap fun i =>
            let taken := once [i]
            (placesFrom text.size [i]).filter fun j => !taken.contains j)

/-- Where one of some patterns may end. -/
def Glob.endsOfSome (wide : Bool) (text : Array Char) : List (List Glob) → List Nat → List Nat
  | [], _ => []
  | gs :: others, places =>
      orderedPlaces (endsOfAll wide text gs places ++ endsOfSome wide text others places)

/-- Where parts may end that stand one behind the other. -/
def Glob.endsOfAll (wide : Bool) (text : Array Char) : List Glob → List Nat → List Nat
  | [], places => places
  | g :: gs, places =>
      if places.isEmpty then [] else endsOfAll wide text gs (g.ends wide text places)

end

mutual

/-- The part that matches what a part does, read from the end. -/
def Glob.reverse : Glob → Glob
  | .group kind alternatives => .group kind (reverseSome alternatives)
  | g => g

/-- The patterns that match what some others do, read from the end. -/
def Glob.reverseSome : List (List Glob) → List (List Glob)
  | [] => []
  | gs :: others => reverseAll gs :: reverseSome others

/-- The parts that match what some others do, read from the end. -/
def Glob.reverseAll : List Glob → List Glob
  | [] => []
  | g :: gs => reverseAll gs ++ [g.reverse]

end

namespace Pattern

/-- The lengths of the beginnings of a text that a pattern matches, in ascending order. -/
def lengths (p : Pattern) (text : Array Char) : List Nat := Glob.endsOfAll p.wide text p.parts [0]

/-- The characters of a text that a pattern looks at. -/
def charsOf (p : Pattern) (text : String) : List Char :=
  (if p.wide then Text.widen text else text).toList

/-- The text of some of them. -/
def textOf (p : Pattern) (cs : List Char) : String :=
  let text := String.ofList cs
  if p.wide then Text.narrow text else text

/-- Whether a pattern matches a whole text. -/
def matchesChars (p : Pattern) (cs : List Char) : Bool :=
  let text := cs.toArray
  (p.lengths text).contains text.size

/-- Whether a pattern matches a whole raw text. -/
def «matches» (p : Pattern) (text : String) : Bool := p.matchesChars (p.charsOf text)

/-- The length of the longest beginning that a pattern matches. -/
def longest? (p : Pattern) (cs : List Char) : Option Nat := (p.lengths cs.toArray).getLast?

/-- The pattern read from the end. -/
def reverse (p : Pattern) : Pattern := ⟨p.wide, Glob.reverseAll p.parts⟩

/-- What is left of some characters without what a pattern matches at one end. -/
def trim (p : Pattern) (atEnd longest : Bool) (cs : List Char) : List Char :=
  let found (p : Pattern) (cs : List Char) : Option Nat :=
    let lengths := p.lengths cs.toArray
    if longest then lengths.getLast? else lengths.head?
  if atEnd then
    match found p.reverse cs.reverse with
    | some n => cs.take (cs.length - n)
    | none => cs
  else match found p cs with
    | some n => cs.drop n
    | none => cs

end Pattern

/-- Whether marked characters hold a part that is not a plain character. -/
def isPattern (style : GlobStyle) : List Marked → Bool
  | [] => false
  | (c, quoted) :: cs =>
      (!quoted && (c = '*' || c = '?' || c = '['
        || (style.groups && (GroupKind.of? c).isSome && cs.head? = some ('(', false))))
        || isPattern style cs

/-! ### Paths -/

/-- Cut marked characters at their slashes. -/
def splitSlashes (cs : List Marked) : List (List Marked) :=
  cs.foldr (fun m parts => if m.1 = '/' then [] :: parts
    else match parts with
      | part :: parts => (m :: part) :: parts
      | [] => [[m]]) [[]]

/-- The text of marked characters. -/
def textOfMarked (cs : List Marked) : String := String.ofList (cs.map Prod.fst)

/-- Which names patterns match. -/
structure NameRules where
  style : GlobStyle
  /-- Whether hidden names are matched like others. -/
  hidden : Bool := false
  /-- Whether upper and lower case count as the same. -/
  fold : Bool := false
  /-- Whether two stars match folders within folders. -/
  deep : Bool := false

/-- The names of the folders below a folder, with the path to each; `depth` bounds how deep. -/
def foldersBelow (t : FileTree) (hidden : Bool) : (depth : Nat) → (folder : Nat) →
    (path : String) → List String
  | 0, _, _ => []
  | depth + 1, folder, path =>
      let names := (t.listing folder).filter fun name => hidden || !name.startsWith "."
      names.flatMap fun name =>
        match t.locate folder name false with
        | .ok number =>
            if t.isFolder number then
              (path ++ name) :: foldersBelow t hidden depth number (path ++ name ++ "/")
            else []
        | .error _ => []

/-- How deep folders are searched. -/
def deepestFolder : Nat := 64

/-- The paths that match what is left of a pattern, below the paths found so far.  A path found
so far is the text in front of the next name. -/
def expandFrom (t : FileTree) (rules : NameRules) (folder : Nat) :
    List (List Marked) → List String → List String
  | [], found => found
  | part :: parts, found =>
      let last := parts.isEmpty
      let close (path : String) : String := if last then path else path ++ "/"
      let place (before : String) : Except FileError Nat :=
        t.locate folder (if before = "" then "." else before)
      let next :=
        if rules.deep && part == [('*', false), ('*', false)] then
          found.flatMap fun before =>
            match place before with
            | .ok number =>
                let below := foldersBelow t rules.hidden deepestFolder number before
                if last then
                  let files (path : String) : List String :=
                    match place path with
                    | .ok number => ((t.listing number).filter fun name =>
                        rules.hidden || !name.startsWith ".").map (path ++ ·)
                    | .error _ => []
                  (if before = "" then [] else [before])
                    ++ files before ++ below.flatMap fun path => files (path ++ "/")
                else before :: below.map (· ++ "/")
            | .error _ => []
        else if isPattern rules.style part then
          let part := if rules.fold then part.map fun m => (m.1.toLower, m.2) else part
          let p := Pattern.ofMarked rules.style part
          let hidden := rules.hidden || part.head?.any fun m => m.1 = '.'
          let fits (name : String) : Bool :=
            p.matches (if rules.fold then name.toLower else name)
          found.flatMap fun before =>
            match place before with
            | .ok number =>
                let names := (t.listing number).filter fun name =>
                  (hidden || !name.startsWith ".") && fits name
                let names := if hidden && !rules.hidden then
                    ([".", ".."].filter fits) ++ names
                  else names
                let usable := names.filter fun name =>
                  last || match t.locate folder (before ++ name) with
                    | .ok number => t.isFolder number
                    | .error _ => false
                usable.map fun name => close (before ++ name)
            | .error _ => []
        else
          let text := textOfMarked part
          found.filterMap fun before =>
            let path := before ++ text
            if !last then some (path ++ "/")
            else if text = "" then some path
            else match t.locate folder path false with
              | .ok _ => some path
              | .error _ => none
      expandFrom t rules folder parts next

/-- The paths that a pattern matches, sorted. -/
def expandPath (t : FileTree) (rules : NameRules) (folder : Nat) (cs : List Marked) :
    List String :=
  (expandFrom t rules folder (splitSlashes cs) [""]).mergeSort fun a b => decide (a ≤ b)

end ToyLang.Shell

namespace ToyLang.Tools

/-! ### Patterns for names of files -/

/-- The characters of a pattern; a backslash takes away the meaning of what follows it. -/
def markedChars : List Char → List (Char × Bool)
  | '\\' :: c :: cs => (c, true) :: markedChars cs
  | c :: cs => (c, false) :: markedChars cs
  | [] => []

/-- A pattern for names.  It may match a name by its characters, or by its bytes alone. -/
structure NamePattern where
  fold : Bool
  wide : Shell.Pattern
  bytes : Shell.Pattern

namespace NamePattern

/-- The bytes of a text to compare, in lower case if that does not matter. -/
def foldedBytes (fold : Bool) (text : String) : List Char :=
  if fold then text.toList.map Char.toLower else text.toList

/-- The characters of a text to compare, in lower case if that does not matter. -/
def foldedChars (fold : Bool) (text : String) : List Char :=
  let cs := (Text.widen text).toList
  if fold then cs.map Text.lower else cs

/-- The pattern that a text is. -/
def ofText (fold : Bool) (text : String) : NamePattern :=
  let pattern (wide : Bool) (cs : List Char) : Shell.Pattern :=
    Shell.Pattern.ofMarked { caret := true, wide := wide, groups := false } (markedChars cs)
  { fold := fold
    wide := pattern true (Text.narrow (String.ofList (foldedChars fold text))).toList
    bytes := pattern false (foldedBytes fold text) }

/-- Whether a pattern matches a whole name. -/
def fits (p : NamePattern) (name : String) : Bool :=
  p.wide.matchesChars (foldedChars p.fold name) || p.bytes.matchesChars (foldedBytes p.fold name)

end NamePattern

/-- Patterns for names, each with whether the names are taken in.  The last one that matches
counts. -/
abbrev NameFilter := List (Bool × String)

/-- Whether a filter leaves out a name.  A filter that starts with names to be taken in leaves out
all others.  Where `anywhere` holds, a pattern may match a part behind a slash. -/
def NameFilter.excludes (f : NameFilter) (anywhere : Bool) (name : String) : Bool :=
  let ends : List String :=
    if anywhere then
      let parts := name.splitOn "/"
      (List.range parts.length).map fun i => "/".intercalate (parts.drop i)
    else [name]
  let fits (text : String) : Bool :=
    let p := NamePattern.ofText false text
    ends.any p.fits
  match (f.reverse.find? fun entry => fits entry.2), f.head? with
  | some (included, _), _ => !included
  | none, some (included, _) => included
  | none, none => false

end ToyLang.Tools
