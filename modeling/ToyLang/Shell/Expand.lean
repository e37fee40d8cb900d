import ToyLang.Shell.Parse
import ToyLang.Shell.Pattern
import ToyLang.Shell.Quote
import ToyLang.Shell.Trap

/-!
# Expanding words

What stands for something else in a word is put in its place.  What comes out of it unquoted is
cut into fields, and a field that holds an unquoted pattern stands for the paths that match.

## Main definitions

* `Atom` — the pieces of an expanded word.
* `expandParts` — the pieces that a word comes to.
* `fieldsOf`, `expandFields` — the fields of words.
* `expandText` — a word as one text.
-/

namespace ToyLang.Shell

open Run

/-- Where a character of an expanded word comes from. -/
inductive Origin where
  | literal
  | quoted
  | value
  deriving DecidableEq

/-- A piece of an expanded word. -/
inductive Atom where
  | char (c : Char) (origin : Origin)
  /-- A border between fields. -/
  | gap
  /-- An empty text in quotes, which makes a field. -/
  | empty
  /-- An empty list in quotes, which makes none. -/
  | vanished
  deriving DecidableEq

/-- The pieces of a text. -/
def atoms (origin : Origin) (text : String) : List Atom := text.toList.map fun c => .char c origin

/-! ### Reading parameters -/

/-- What a parameter holds: one text, if it is set, or several. -/
inductive Reading where
  | one (value : Option String)
  /-- Several texts; the flag says that they are to be joined. -/
  | many (values : List String) (joined : Bool)

/-- The letters of options in the order in which they are shown. -/
def shownLetters : Dialect → List Char
  | .plain => ['e', 'f', 'I', 'i', 'm', 'n', 's', 'x', 'v', 'V', 'E', 'C', 'a', 'b', 'u', 'p']
  | .extended => "abefhkmnptuvxBCEHPTcs".toList

/-- The letters of the options that are set. -/
def shownOptions (sh : ToyLang.Shell) : String :=
  let isSet (c : Char) : Bool :=
    sh.options.contains c || (c = 'c' && sh.isGiven)
  String.ofList ((shownLetters sh.dialect).filter isSet)

/-- What a parameter holds, without an index. -/
def readPlain (name : String) : Run Reading := do
  let sh ← shell
  match name with
  | "@" => return .many sh.arguments false
  | "*" => return .many sh.arguments true
  | "#" => return .one (some (toString sh.arguments.length))
  | "?" => return .one (some (toString sh.status))
  | "-" => return .one (some (shownOptions sh))
  | "$" => return .one (some (toString sh.number))
  | "!" => return .one (sh.lastJob.map toString)
  | "0" => return .one (some sh.name)
  | name =>
      match name.toNat? with
      | some 0 => return .one (some sh.name)
      | some (n + 1) => return .one sh.arguments[n]?
      | none => return .one (← lookup? name)

/-- What a parameter holds at an index, which is a text. -/
def readIndexed (name index : String) : Run Reading := do
  let all (joined : Bool) : Run Reading := do
    return .many ((← entriesOf (← aim name).1).2.map Prod.snd) joined
  match index with
  | "@" => all false
  | "*" => all true
  | index => return .one (← textAt name index)

/-- What a parameter holds, with an index or without one. -/
def readParam (name : String) : Option String → Run Reading
  | none => readPlain name
  | some index => readIndexed name index

/-- The texts of a reading. -/
def Reading.texts : Reading → List String
  | one value => value.toList
  | many values _ => values

/-- Change every text of a reading. -/
def Reading.map (f : String → String) : Reading → Reading
  | one value => one (value.map f)
  | many values joined => many (values.map f) joined

/-- Whether a reading counts as missing. -/
def Reading.isMissing (orEmpty : Bool) : Reading → Bool
  | one none => true
  | one (some s) => orEmpty && s = ""
  | many values _ => values.isEmpty || (orEmpty && values.all (· = ""))

/-! ### Changing texts -/

/-- How the shell that runs writes its patterns; some of them always have groups. -/
def patternStyle (grouped : Bool) : Run GlobStyle := do
  let sh ← shell
  let extended := decide (sh.dialect = .extended)
  let groups := extended && (grouped || sh.longOptions.contains "extglob")
  return { caret := extended, wide := extended, groups := groups }

/-- The characters of a text, as the shell that runs counts them. -/
def charsOfText (text : String) : Run (List Char) := do
  let sh ← shell
  return (if sh.dialect = .extended then Text.widen text else text).toList

/-- The text of some characters. -/
def textOfChars (cs : List Char) : Run String := do
  let sh ← shell
  let text := String.ofList cs
  return if sh.dialect = .extended then Text.narrow text else text

/-- A letter in another case. -/
def recasedChar : CaseChange → Char → Char
  | .upper, c => Text.upper c
  | .lower, c => Text.lower c
  | .toggle, c => if Text.upper c ≠ c then Text.upper c else Text.lower c

/-- A text with one or all of its letters in another case, as far as a pattern matches them. -/
def recased (change : CaseChange) (everywhere : Bool) (p : Pattern) (text : String) : String :=
  let new (c : Char) : Char :=
    if p.parts.isEmpty || p.matchesChars [c] then recasedChar change c else c
  p.textOf (match p.charsOf text with
    | [] => []
    | c :: cs => new c :: if everywhere then cs.map new else cs)

/-- What is put in place of what a pattern matches; `none` is the match itself. -/
abbrev Replacement := List (Option Char)

/-- The replacement that marked characters spell. -/
def replacementOf (marks : Bool) : List Marked → Replacement
  | [] => []
  | ('\\', false) :: ('&', q) :: cs =>
      if marks then some '&' :: replacementOf marks cs
      else some '\\' :: replacementOf marks (('&', q) :: cs)
  | (c, quoted) :: cs =>
      (if marks && c = '&' && !quoted then none else some c) :: replacementOf marks cs
termination_by cs => cs.length

/-- A replacement for a match. -/
def Replacement.apply (r : Replacement) (matched : List Char) : List Char :=
  r.flatMap fun c => match c with
    | some c => [c]
    | none => matched

/-- Replace what a pattern matches.  Each step takes at least one character. -/
def replaceWithin (p : Pattern) (r : Replacement) (everywhere : Bool) :
    (steps : Nat) → List Char → List Char
  | 0, cs => cs
  | _, [] => []
  | steps + 1, c :: cs =>
      match (p.longest? (c :: cs)).filter (0 < ·) with
      | some n =>
          let rest := (c :: cs).drop n
          r.apply ((c :: cs).take n)
            ++ if everywhere then replaceWithin p r true steps rest else rest
      | none => c :: replaceWithin p r everywhere steps cs

/-- Replace what a pattern matches at a spot of a text. -/
def replaced (spot : Spot) (p : Pattern) (r : Replacement) (text : String) : String :=
  let cs := p.charsOf text
  p.textOf (if p.parts.isEmpty ∧ spot ≠ .atStart ∧ spot ≠ .atEnd then cs
    else match spot with
    | .first => replaceWithin p r false (cs.length + 1) cs
    | .everywhere => replaceWithin p r true (cs.length + 1) cs
    | .atStart => match p.longest? cs with
      | some n => r.apply (cs.take n) ++ cs.drop n
      | none => cs
    | .atEnd => match (p.reverse).longest? cs.reverse with
      | some n => cs.take (cs.length - n) ++ r.apply (cs.drop (cs.length - n))
      | none => cs)

/-- Some of the members of a list with places, from a place on; a start that is negative counts from
behind the last place.  There is no answer if the count leads to a place in front of the start. -/
def sliced {α : Type} (size : Nat) (start : Int) (count : Option Int) (xs : List (Nat × α))
    (isList : Bool) : Option (List α) :=
  let start := if start < 0 then start + size else start
  if start < 0 ∨ (size : Int) < start then some []
  else
    let rest := (xs.dropWhile fun x => decide ((x.1 : Int) < start)).map Prod.snd
    match count with
    | none => some rest
    | some n =>
        if 0 ≤ n then some (rest.take n.toNat)
        else if isList ∨ (size : Int) + n < start then none
        else some (rest.take ((size : Int) + n - start).toNat)

/-! ### Expanding -/

/-- Without the line breaks at the end. -/
def trimNewlines (text : String) : String :=
  String.ofList (text.toList.reverse.dropWhile (· = '\n')).reverse

/-- What stands for some output: the text without its last line ends. -/
def outputText (text : String) : String :=
  trimNewlines (String.ofList (text.toList.filter (· ≠ '\x00')))

/-- What commands write, run in a process of their own. -/
def capture (perform : Perform) (c : Command) : Run String := do
  let pipe ← addPipe ByteArray.empty true
  let index ← addOpenFile { target := .pipe pipe, writable := true }
  let ending ← asPart perform do
    setStream 1 index
    modifyShell fun sh => { sh with nesting := sh.nesting + 1, level := sh.level + 1 }
    perform (.command c false true)
  noticeEnding ending
  modifyShell fun sh => { sh with outputStatus := ending.status }
  let bytes := ((← get).pipes[pipe]?.map Pipe.bytes).getD ByteArray.empty
  return outputText (Text.rawOfBytes bytes)

/-- The home folder that a tilde with a user stands for. -/
def homeOf (user : String) : Run (Option String) := do
  if user = "" then return ← lookup? "HOME"
  if user = "root" then return some "/root"
  if (← shell).dialect = .extended then
    if user = "+" then return ← lookup? "PWD"
    if user = "-" then return ← lookup? "OLDPWD"
  return none

/-- Put the home folder in place of a tilde at the start of a text. -/
def expandTilde (text : String) (more : Bool) : Run (Option (String × String)) := do
  match text.toList with
  | '~' :: cs =>
      let user := cs.takeWhile fun c => c ≠ '/' && c ≠ ':'
      let rest := cs.drop user.length
      if rest.isEmpty && more then return none
      match ← homeOf (String.ofList user) with
      | some home => return some (home, String.ofList rest)
      | none => return none
  | _ => return none

/-- The pieces of a text at the start of a word, with its tilde replaced. -/
def startAtoms (origin : Origin) (text : String) (more : Bool) : Run (List Atom) := do
  match ← expandTilde text more with
  | some (home, rest) => return atoms .quoted home ++ atoms origin rest
  | none => return atoms origin text

/-- The pieces of a text in an assignment: tildes are also replaced behind colons. -/
def assignedAtoms (text : String) (more : Bool) : Run (List Atom) := do
  let parts := text.splitOn ":"
  let mut found : List Atom := []
  let mut index := 0
  for part in parts do
    let last := index + 1 = parts.length
    if index ≠ 0 then found := found ++ atoms .literal ":"
    found := found ++ (← startAtoms .literal part (last && more))
    index := index + 1
  return found

/-- How a word is expanded. -/
inductive Manner where
  | field
  | assigned
  /-- As what stands by for a value that is not quoted. -/
  | standby
  deriving DecidableEq

/-- The text of pieces. -/
def textOfAtoms (found : List Atom) : String :=
  String.ofList (found.filterMap fun a => match a with
    | .char c _ => some c
    | .gap => some ' '
    | .empty | .vanished => none)

/-- The marked characters of pieces. -/
def markedOfAtoms (found : List Atom) : List Marked :=
  found.filterMap fun a => match a with
    | .char c origin => some (c, origin = .quoted)
    | .gap => some (' ', true)
    | .empty | .vanished => none

/-- The pieces that a reading comes to. -/
def readingAtoms (r : Reading) (quoted : Bool) : Run (List Atom) := do
  let origin := if quoted then Origin.quoted else .value
  match r with
  | .one value => return atoms origin (value.getD "")
  | .many values joined =>
      if quoted ∧ joined then
        let gap := match ← lookup? "IFS" with
          | none => " "
          | some s => String.ofList (s.toList.take 1)
        return atoms .quoted (gap.intercalate values)
      if values.isEmpty then return if quoted then [.vanished] else []
      let pieces := values.map fun v => (if quoted then [Atom.empty] else []) ++ atoms origin v
      return [Atom.gap].intercalate pieces

/-- Complain about a parameter that is not set.  The extended shell shows one that is named by a
single sign and stands alone with its mark. -/
def failUnset {α : Type} (name : String) (alone : Bool) : Run α := do
  let sh ← shell
  if sh.dialect = .extended then
    let signed := alone && name.length = 1 && !isVariableName name
    warn ((if signed then "$" else "") ++ name ++ ": unbound variable")
    throw (.exit (if sh.isGiven then 127 else 1))
  else fail (name ++ ": parameter not set")

/-- A text whose escapes are replaced; each step takes at least one character. -/
def unescaped : (steps : Nat) → List Char → List Char
  | 0, cs => cs
  | _, [] => []
  | steps + 1, '\\' :: cs =>
      let (found, rest) := takeEscape cs
      found ++ unescaped steps rest
  | steps + 1, c :: cs => c :: unescaped steps cs

/-- A prompt whose escapes are replaced; each step takes at least one character. -/
def promptText (sh : ToyLang.Shell) (home : String) : (steps : Nat) → List Char → List Char
  | 0, cs => cs
  | steps + 1, '\\' :: c :: cs =>
      let short := if home ≠ "" ∧ (sh.path = home ∨ sh.path.startsWith (home ++ "/")) then
          "~" ++ String.ofList (sh.path.toList.drop home.length)
        else sh.path
      let found : List Char := match c with
        | 'u' => "root".toList
        | 'h' | 'H' => "localhost".toList
        | 's' => (Path.base sh.name).toList
        | 'w' => short.toList
        | 'W' => (if short = "~" then short else Path.base sh.path).toList
        | 'v' => "5.2".toList
        | 'V' => "5.2.15".toList
        | 'j' => ['0']
        | '$' => ['#']
        | '[' | ']' => []
        | c => (takeEscape [c]).1
      found ++ promptText sh home steps cs
  | steps + 1, c :: cs => c :: promptText sh home steps cs
  | _, [] => []

/-- The assignments that make what a parameter holds. -/
def assignmentForm (name : String) (index? : Option String) (reading : Reading) : Run Reading := do
  let v := (← varOf? name).getD { value := .unset }
  let letters := letters v
  match index?, reading with
  | some "@", .many _ joined | some "*", .many _ joined =>
      let (keyed, entries) ← entriesOf (← aim name).1
      if entries.isEmpty ∧ v.value matches .unset then return .many [] joined
      let list := name ++ "=" ++ declaredList keyed entries
      if joined then return .one (some ("declare -" ++ letters ++ " " ++ list))
      return .many ["declare", "-" ++ letters, list] false
  | _, .many values joined =>
      let quoted := values.map reusable
      return .many (["set", "--"] ++ quoted) joined
  | index?, .one value =>
      let full := match index? with
        | some index => name ++ "[" ++ index ++ "]"
        | none => name
      let start := if letters = "" then "" else "declare -" ++ letters ++ " "
      match value with
      | some text => return .one (some (start ++ full ++ "=" ++ reusable text))
      | none => return .one (if letters = "" then none else some (start ++ full))

/-- What a parameter holds in a form that a letter says. -/
def transformed (name : String) (index? : Option String) (reading : Reading) (form : Char) :
    Run Reading := do
  match form with
  | 'Q' => return reading.map reusable
  | 'E' =>
      return reading.map fun s => String.ofList (unescaped (s.length + 1) s.toList)
  | 'a' =>
      match ← varOf? name with
      | none => return .one none
      | some v => return match reading with
        | .one _ => .one (some (letters v))
        | .many values joined => .many (values.map fun _ => letters v) joined
  | 'A' => assignmentForm name index? reading
  | 'K' | 'k' =>
      match index?, reading with
      | some _, .many _ joined =>
          let (keyed, entries) ← entriesOf (← aim name).1
          if form = 'k' then return .many (entries.flatMap fun (i, s) => [i, s]) joined
          return .one (some (pairedList keyed entries))
      | _, reading => return reading.map reusable
  | _ => return reading

/-- The names of the variables that begin with a text. -/
def namesFrom (start : String) : Run (List String) := do
  let names := (← shell).vars.filterMap fun (name, v) =>
    if name.startsWith start && !(v.value matches .unset) then some name else none
  return names.mergeSort fun a b => decide (a ≤ b)

/-- Expand a parameter that is used in some way, given a way to expand the parts of words. -/
def expandUse (inner : Manner → Word → Run (List Atom)) (name : String) (index? : Option String)
    (reading : Reading) (quoted : Bool) (use : Use) : Run (List Atom) := do
  let sh ← shell
  let extended := decide (sh.dialect = .extended)
  let origin := if quoted then Origin.quoted else .value
  let shown := match index? with
    | some index => name ++ "[" ++ index ++ "]"
    | none => name
  let unset : Bool := match reading with
    | .one none => true
    | _ => false
  let strict := sh.options.contains 'u' && unset
  let pattern (w : Word) : Run Pattern := do
    return .ofMarked (← patternStyle false) (markedOfAtoms (← inner .field w))
  match use with
  | .bad written =>
      if extended then fail ("$\x7b" ++ written ++ ": bad substitution")
      else fail "Bad substitution"
  | .value =>
      if strict then failUnset shown true
      readingAtoms reading quoted
  | .length =>
      if strict then failUnset shown false
      let n ← match reading with
        | .one value => do pure (← charsOfText (value.getD "")).length
        | .many values _ => do
            if extended then pure values.length else pure (" ".intercalate values).length
      return atoms origin (toString n)
  | .standby kind orEmpty word =>
      let missing := reading.isMissing orEmpty
      let standIn : Run (List Atom) := do
        let found ← inner (if quoted then .field else .standby) word
        return if quoted then found.map fun a => match a with
            | .char c _ => .char c .quoted
            | a => a
          else found
      match kind with
      | .instead => if missing then standIn else readingAtoms reading quoted
      | .alternate => if missing then return [] else standIn
      | .assigned =>
          if missing then
            let text := textOfAtoms (← standIn)
            if !isVariableName name then
              if extended then fail ("$" ++ name ++ ": cannot assign in this way")
              else fail (name ++ ": bad variable name")
            match index? with
            | some index => assignAt name index text
            | none => assign name text
            readingAtoms (.one (some text)) quoted
          else readingAtoms reading quoted
      | .complaint =>
          if missing then
            let text := textOfAtoms (← standIn)
            let usual := if extended then
                (if orEmpty then "parameter null or not set" else "parameter not set")
              else "parameter not set" ++ (if orEmpty then " or null" else "")
            let text := if word.isEmpty then usual else text
            if extended then
              warn (shown ++ ": " ++ text)
              throw (.exit (if sh.isGiven then 127 else 1))
            fail (name ++ ": " ++ text)
          else readingAtoms reading quoted
  | .trim atEnd longest w =>
      if strict then failUnset shown false
      let p ← pattern w
      readingAtoms (reading.map fun s => p.textOf (p.trim atEnd longest (p.charsOf s))) quoted
  | .replace spot w text =>
      if strict then failUnset shown false
      let p ← pattern w
      let by_ := markedOfAtoms (← inner .field text)
      let r := replacementOf (sh.longOptions.contains "patsub_replacement") (widenMarked by_)
      readingAtoms (reading.map (replaced spot p r)) quoted
  | .slice start count =>
      if strict then failUnset shown false
      let start ← numberOfText (textOfAtoms (← inner .field start))
      let countText ← match count with
        | none => pure none
        | some w => do pure (some (textOfAtoms (← inner .field w)))
      let count ← match countText with
        | none => pure none
        | some text => do pure (some (← numberOfText text))
      let refuse : Run (List Atom) := fail (countText.getD "" ++ ": substring expression < 0")
      match reading with
      | .one none => return []
      | .one (some value) =>
          let cs ← charsOfText value
          match sliced cs.length start count (cs.zipIdx.map fun (c, i) => (i, c)) false with
          | some found => readingAtoms (.one (some (← textOfChars found))) quoted
          | none => refuse
      | .many values joined =>
          let places ← match index? with
            | none => pure ((sh.name :: values).zipIdx.map fun (s, i) => (i, s))
            | some _ => do
                let (keyed, entries) ← entriesOf (← aim name).1
                pure (if keyed then entries.zipIdx.map fun (e, i) => (i, e.2)
                  else entries.map fun e => (e.1.toNat?.getD 0, e.2))
          let size := ((places.getLast?).map fun x => x.1 + 1).getD 0
          let places := if index?.isNone ∧ start ≠ 0 then places.drop 1 else places
          match sliced size start count places true with
          | some found => readingAtoms (.many found joined) quoted
          | none => refuse
  | .recase change everywhere w =>
      if strict then failUnset shown false
      let p ← pattern w
      readingAtoms (reading.map (recased change everywhere p)) quoted
  | .indices =>
      let (_, entries) ← entriesOf (← aim name).1
      readingAtoms (.many (entries.map Prod.fst) (decide (index? = some "*"))) quoted
  | .names joined => do readingAtoms (.many (← namesFrom name) joined) quoted
  | .transform 'P' =>
      if strict then failUnset shown false
      let home := (← lookup? "HOME").getD ""
      match reading with
      | .one none => return []
      | reading => do
          let mut found : List String := []
          for text in reading.texts do
            let text := String.ofList (promptText sh home (text.length + 1) text.toList)
            let reader : Reader := { rest := text.toList, line := sh.line, dialect := sh.dialect }
            let text ← match (parseParts (innerWithin deepest) .document).run reader with
              | .ok w _ => do pure (textOfAtoms (← inner .field w))
              | .error _ _ => pure text
            found := found ++ [text]
          match reading with
          | .one _ => readingAtoms (.one found.head?) quoted
          | .many _ joined => readingAtoms (.many found joined) quoted
  | .transform form =>
      if strict then failUnset shown false
      readingAtoms (← transformed name index? reading form) quoted
  | .indirect _ => return []

/-- Where the text of a parameter leads as the name of another one. -/
def indirectTarget (name : String) (reading : Reading) : Run (String × Option String) := do
  match reading with
  | .one (some other) =>
      let (base, index) := splitIndexed other
      let special := base.length = 1 && base.toList.all specialNames.contains
      let numbered := base ≠ "" && base.toList.all Char.isDigit
      if isVariableName base ∨ (index.isNone ∧ (special ∨ numbered)) then return (base, index)
      fail (other ++ ": invalid variable name")
  | _ => fail (name ++ ": invalid indirect expansion")

/-- Expand a parameter, given a way to expand the parts of words. -/
def expandParam (inner : Manner → Word → Run (List Atom)) (quoted : Bool) :
    Param → Run (List Atom)
  | .mk name index use => do
      let index? ← match index with
        | none => pure none
        | some w => do
            let atoms ← inner .field w
            pure (some (textOfAtoms atoms))
      match use with
      | .indirect use =>
          match ← itself? name with
          | some { isReference := true, value := .text target, .. } =>
              expandUse inner name none (.one (some target)) quoted use
          | _ =>
              let (name, index?) ← indirectTarget name (← readParam name index?)
              expandUse inner name index? (← readParam name index?) quoted use
      | .names _ | .bad _ => expandUse inner name index? (.one none) quoted use
      | use => expandUse inner name index? (← readParam name index?) quoted use

/-- Expand a part of a word, given a way to expand the parts within it. -/
def expandPart (perform : Perform) (inner : Manner → Word → Run (List Atom)) (manner : Manner)
    (first more : Bool) : Part → Run (List Atom)
  | .text cs true => return if cs = "" then [.empty] else atoms .quoted cs
  | .text cs false =>
      match manner with
      | .assigned => if first then assignedAtoms cs more else
          match cs.splitOn ":" with
          | [_] | [] => return atoms .literal cs
          | before :: rest => return atoms .literal (before ++ ":")
              ++ (← assignedAtoms (":".intercalate rest) more)
      | .field => if first then startAtoms .literal cs more else return atoms .literal cs
      | .standby => if first then startAtoms .value cs more else return atoms .value cs
  | .output body quoted => do
      let origin := if quoted then Origin.quoted else .value
      match (← shell).dialect, body with
      | .extended, .simple _ _ [] [] [.mk .usual .read target] => do
          let path := textOfAtoms (← inner .field target)
          match ← readPath path with
          | .ok text =>
              modifyShell fun sh => { sh with outputStatus := 0 }
              return atoms origin (outputText text)
          | .error e =>
              warn (path ++ ": " ++ e.reason)
              modifyShell fun sh => { sh with outputStatus := 1 }
              return []
      | _, body => return atoms origin (← capture perform body)
  | .sum expression quoted => do
      let text := textOfAtoms (← inner .field expression)
      let n ← numberOfText text
      return atoms (if quoted then .quoted else .value) (toString n)
  | .channel body write => do
      let pipe ← addPipe ByteArray.empty true
      let out ← addOpenFile { target := .pipe pipe, writable := true }
      if write then
        let input ← addOpenFile { target := .pipe pipe, readable := true }
        discard (startJob body false [(0, some input)])
      else
        discard (asPart perform do
          setStream 1 out
          modifyShell fun sh => { sh with level := sh.level + 1 }
          perform (.command body false true))
      let index ← addOpenFile { target := .pipe pipe, readable := true, writable := true }
      let streams := (← process).streams
      let stream :=
        ((List.range 40).map (63 - ·)).find? (fun n => (streams.lookup n).isNone) |>.getD 63
      setStream stream index
      modifyShell fun sh => { sh with channels := stream :: sh.channels }
      return atoms .quoted ("/dev/fd/" ++ toString stream)
  | .param p quoted => expandParam inner quoted p

/-- The pieces that a word comes to; `depth` bounds how deep words nest. -/
def expandParts (perform : Perform) : (depth : Nat) → Manner → Word → Run (List Atom)
  | 0, _, _ => return []
  | depth + 1, manner, w => do
      let mut found : List Atom := []
      let mut first := true
      let mut rest := w.tail
      for p in w do
        let next ← expandPart perform (expandParts perform depth) manner first (!rest.isEmpty) p
        found := found ++ next
        first := false
        rest := rest.tail
      return found

/-- How deep words may nest. -/
def wordDepth : Nat := 100

/-- The pieces of a word. -/
def expand (perform : Perform) (manner : Manner) (w : Word) : Run (List Atom) :=
  expandParts perform wordDepth manner w

/-- A word as one text. -/
def expandText (perform : Perform) (w : Word) : Run String :=
  return textOfAtoms (← expand perform .field w)

/-- The word of an assignment as one text. -/
def expandAssigned (perform : Perform) (w : Word) : Run String :=
  return textOfAtoms (← expand perform .assigned w)

/-- Whether a text matches a word as a pattern, which has groups if they are always on there. -/
def matchesWord (perform : Perform) (grouped : Bool) (w : Word) (text : String) : Run Bool := do
  let cs := markedOfAtoms (← expand perform .field w)
  let folds := (← shell).longOptions.contains "nocasematch"
  let cs := if folds then (widenMarked cs).map fun m => (Text.lower m.1, m.2) else cs
  let p := Pattern.ofMarked (← patternStyle grouped) cs
  if folds then return p.matchesChars ((Text.widen text).toList.map Text.lower)
  return p.matches text

/-! ### Fields -/

/-- A field that is being put together. -/
structure Begun where
  chars : List Marked := []
  /-- Whether there is a field at all. -/
  isField : Bool := false
  /-- Whether an empty list was in it. -/
  vanished : Bool := false

/-- Fields in reverse, with the one that is being put together. -/
structure Splitting where
  done : List (List Marked) := []
  begun : Begun := {}
  /-- Whether blanks have closed the last field, so that a separator does not close another. -/
  afterBlank : Bool := false

/-- Close the field that is being put together, if there is one. -/
def Splitting.close (s : Splitting) : Splitting :=
  let keep := s.begun.isField || !s.begun.chars.isEmpty
  { s with done := if keep then s.begun.chars.reverse :: s.done else s.done, begun := {} }

/-- Whether nothing has been put together yet. -/
def Splitting.isFresh (s : Splitting) : Bool := s.begun.chars.isEmpty && !s.begun.isField

/-- Add a piece. -/
def Splitting.add (separators : List Char) (s : Splitting) : Atom → Splitting
  | .gap => { s.close with afterBlank := false }
  | .empty => { s with begun := { s.begun with isField := true }, afterBlank := false }
  | .vanished => { s with begun := { s.begun with vanished := true } }
  | .char c origin =>
      if origin = .value ∧ separators.contains c then
        if c = ' ' ∨ c = '\t' ∨ c = '\n' then
          if s.isFresh then s else { s.close with afterBlank := true }
        else if s.afterBlank then { s with afterBlank := false }
        else
          { s with
            done := s.begun.chars.reverse :: s.done
            begun := {}
            afterBlank := false }
      else
        { s with
          begun := { s.begun with chars := (c, origin = .quoted) :: s.begun.chars }
          afterBlank := false }

/-- The fields that the pieces of a word come to.  An empty list in quotes makes no field, with
nothing but empty quotes around it. -/
def fieldsOf (separators : List Char) (found : List Atom) : List (List Marked) :=
  let onlyEmpty := found.all fun a => a = .empty || a = .vanished
  if onlyEmpty && found.contains .vanished then []
  else (found.foldl (fun s a => s.add separators a) ({} : Splitting)).close.done.reverse

/-- The texts that a field stands for. -/
def pathsOf (field : List Marked) : Run (List String) := do
  let style ← patternStyle false
  if (← hasOption 'f') || !isPattern style field then return [textOfMarked field]
  let sh ← shell
  let isOn (name : String) : Bool := sh.longOptions.contains name
  let rules : NameRules :=
    { style := style
      hidden := isOn "dotglob"
      fold := isOn "nocaseglob"
      deep := isOn "globstar" }
  match expandPath (← tree) rules (← process).folder field with
  | [] =>
      if isOn "failglob" then fail ("no match: " ++ textOfMarked field)
      return if isOn "nullglob" then [] else [textOfMarked field]
  | paths => return paths

/-! ### Alternatives in braces -/

/-- A character of a word, or a part that is none. -/
inductive Cell where
  | char (c : Char)
  | part (p : Part)

/-- The cells of a word. -/
def cellsOf (w : Word) : List Cell :=
  w.flatMap fun p => match p with
    | .text cs false => cs.toList.map Cell.char
    | p => [.part p]

/-- The word of some cells. -/
def wordOfCells (cells : List Cell) : Word :=
  cells.foldr (fun cell w => match cell, w with
    | .char c, .text cs false :: rest => .text (String.singleton c ++ cs) false :: rest
    | .char c, w => .text (String.singleton c) false :: w
    | .part p, w => p :: w) []

/-- Cut cells behind an opening brace at the commas of this level, up to the closing brace. -/
def cutBraces : List Cell → (depth : Nat) → (current : List Cell) → (found : List (List Cell)) →
    Option (List (List Cell) × List Cell)
  | [], _, _, _ => none
  | .char '\x7d' :: rest, 0, current, found => some ((current.reverse :: found).reverse, rest)
  | .char ',' :: rest, 0, current, found => cutBraces rest 0 [] (current.reverse :: found)
  | .char '\x7b' :: rest, depth, current, found =>
      cutBraces rest (depth + 1) (.char '\x7b' :: current) found
  | .char '\x7d' :: rest, depth + 1, current, found =>
      cutBraces rest depth (.char '\x7d' :: current) found
  | cell :: rest, depth, current, found => cutBraces rest depth (cell :: current) found

/-- The members of a sequence that is written with two dots. -/
def sequence? (cells : List Cell) : Option (List (List Cell)) :=
  let text := String.ofList (cells.filterMap fun cell => match cell with
    | .char c => some c
    | .part _ => none)
  if text.length ≠ cells.length then none
  else
    let cellsOfText (s : String) : List Cell := s.toList.map Cell.char
    let numbers (a b : Int) (step : Nat) (width : Nat) : List (List Cell) :=
      (List.range ((a - b).natAbs / step + 1)).map fun i =>
        let n := if a ≤ b then a + (i * step : Nat) else a - (i * step : Nat)
        let digits := toString n.natAbs
        let sign := if n < 0 then "-" else ""
        cellsOfText
          (sign ++ String.ofList (List.replicate (width - digits.length - sign.length) '0')
            ++ digits)
    let padded (s : String) : Nat :=
      let digits := s.toList.dropWhile (· = '-')
      if digits.length > 1 ∧ digits.head? = some '0' then s.length else 0
    let range (a b : String) (step : Nat) : Option (List (List Cell)) :=
      let step := max step 1
      match a.toInt?, b.toInt? with
      | some m, some n => some (numbers m n step (max (padded a) (padded b)))
      | _, _ => match a.toList, b.toList with
        | [c], [d] =>
            if c.isAlpha && d.isAlpha then
              let m := c.toNat
              let n := d.toNat
              some ((List.range ((max m n - min m n) / step + 1)).map fun i =>
                [Cell.char (Char.ofNat (if m ≤ n then m + i * step else m - i * step))])
            else none
        | _, _ => none
    match text.splitOn ".." with
    | [a, b] => range a b 1
    | [a, b, c] => (c.toInt?).bind fun step => range a b step.natAbs
    | _ => none

/-- The words that alternatives in braces come to.  Each step opens one brace. -/
def braceCells : (steps : Nat) → List Cell → List (List Cell)
  | _, [] => [[]]
  | 0, cells => [cells]
  | steps + 1, .char '\x7b' :: rest =>
      match cutBraces rest 0 [] [] with
      | some (alternatives, after) =>
          let members := match alternatives with
            | [only] => sequence? only
            | many => some many
          match members with
          | some members =>
              let tails := braceCells steps after
              members.flatMap fun m =>
                (braceCells steps m).flatMap fun front => tails.map fun back => front ++ back
          | none => (braceCells steps rest).map (.char '\x7b' :: ·)
      | none => (braceCells steps rest).map (.char '\x7b' :: ·)
  | steps + 1, cell :: rest => (braceCells steps rest).map (cell :: ·)

/-- The words that a word with alternatives comes to. -/
def expandBraces (w : Word) : List Word :=
  let cells := cellsOf w
  let hasBrace := cells.any fun cell => match cell with
    | .char '\x7b' => true
    | _ => false
  if hasBrace then (braceCells (cells.length + 1) cells).map wordOfCells else [w]

/-- The fields of some words. -/
def expandFields (perform : Perform) (words : List Word) : Run (List String) := do
  let braced := (← shell).dialect = .extended && (← hasOption 'B')
  let words := if braced then words.flatMap expandBraces else words
  let mut found : List String := []
  for w in words do
    let pieces ← expand perform .field w
    for field in fieldsOf (← separators) pieces do
      found := found ++ (← pathsOf field)
  return found

end ToyLang.Shell
