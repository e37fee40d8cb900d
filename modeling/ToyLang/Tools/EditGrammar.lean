import ToyLang.Text.Version
import ToyLang.Tools.EditScript

/-!
# How scripts for editing streams are written

A script comes in pieces: arguments and files.  A command ends with its piece, but text that is
added may go on in the next one.

## Main definitions

* `EditStyle` — how a piece is written.
* `EditReader.takeCommand` — a command behind its addresses.
* `EditScript.ofPieces` — the script that some pieces spell together.
-/

namespace ToyLang.Tools

open Text (Regex RegexStyle)

/-- How a piece of a script is written. -/
structure EditStyle where
  extended : Bool := false
  /-- Whether nothing is known but what every such program knows. -/
  posix : Bool := false
  /-- Whether no other files and no commands are used. -/
  sandbox : Bool := false

/-- A piece of a script. -/
structure EditPiece where
  source : EditSource
  style : EditStyle
  text : String

/-- What is left of a script, and what has been read. -/
structure EditReader where
  rest : List Char := []
  place : EditPlace
  style : EditStyle := {}
  /-- The pieces behind the present one. -/
  later : List EditPiece
  /-- Whether the present piece is the first one. -/
  isFirst : Bool := true
  script : EditScript := {}
  /-- The blocks that are open, by the numbers of their commands and their places. -/
  opened : List (Nat × EditPlace) := []

/-- Actions that read a script. -/
abbrev ReadEdit := EStateM EditFault EditReader

namespace EditReader

/-! ### Characters -/

/-- Refuse a script. -/
def refuse {α : Type} (text : String) : ReadEdit α := do throw ⟨some (← get).place, text⟩

/-- The next character. -/
def peek : ReadEdit (Option Char) := return (← get).rest.head?

/-- Take the next character. -/
def take : ReadEdit (Option Char) := do
  match (← get).rest with
  | [] => return none
  | c :: cs =>
      modify fun r =>
        let p := r.place
        { r with
          rest := cs
          place := { p with
            column := p.column + 1
            line := if c = '\n' then p.line + 1 else p.line } }
      return some c

/-- Drop characters of a kind. -/
def skip (p : Char → Bool) : ReadEdit Unit := do
  for _ in (← get).rest.takeWhile p do discard take

/-- The steps that reading what is left can take. -/
def steps : ReadEdit Nat := return (← get).rest.length + 2

/-- Go on with the next piece; the answer says whether there is one. -/
def nextPiece : ReadEdit Bool := do
  match (← get).later with
  | [] => return false
  | piece :: later =>
      modify fun r =>
        { r with
          rest := piece.text.toList
          place := ⟨piece.source, 0, 1⟩
          style := piece.style
          later := later
          isFirst := false }
      return true

/-- Whether a character is a blank in a script. -/
def isGap (c : Char) : Bool := c = ' ' || ('\t' ≤ c && c ≤ '\r')

/-- Whether a character is a blank within a line of a script. -/
def isInnerGap (c : Char) : Bool := c = ' ' || c = '\t'

/-- Take the next character that is no blank. -/
def takeSolid : ReadEdit (Option Char) := do
  skip isInnerGap
  take

/-- Take a number, which is zero without digits. -/
def takeNumber : ReadEdit Nat := do
  let digits := (← get).rest.takeWhile Char.isDigit
  skip Char.isDigit
  return Nat.ofDigitChars 10 digits 0

/-- Take a number that may be missing. -/
def takeNumber? : ReadEdit (Option Nat) := do
  skip isInnerGap
  match ← peek with
  | some c => if c.isDigit ∧ !(← get).style.posix then return some (← takeNumber) else return none
  | none => return none

/-! ### Patterns -/

/-- Where reading is within a set: which characters may still stand first, and what closes a part
with a name. -/
inductive SetPlace where
  | outside
  | first
  | behindNegation
  | inside
  | named (mark : Char)
  deriving DecidableEq

/-- Take characters up to a mark, if it comes before the end of the line.  Within a pattern the
mark does not count in a set. -/
def takeUpTo (mark : Char) (isPattern : Bool) : ReadEdit (Option (List Char)) := do
  if (Text.followers? mark.toNat).isSome then
    refuse "delimiter character is not a single-byte character"
  let mut found : List Char := []
  let mut set : SetPlace := .outside
  for _ in [0:← steps] do
    let next ← peek
    if next = some '\n' then return none
    match ← take with
    | none => return none
    | some c =>
        match set with
        | .named m =>
            found := c :: found
            if c = m ∧ (← peek) = some ']' then
              discard take
              found := ']' :: found
              set := .inside
        | .outside =>
            if c = mark then return some found.reverse
            else if c = '\\' then
              match ← take with
              | none => return none
              | some 'n' =>
                  if mark = 'n' then found := 'n' :: found
                  else if isPattern then found := '\n' :: found
                  else found := 'n' :: '\\' :: found
              | some '\n' => found := '\n' :: found
              | some d =>
                  if d = mark ∧ !(d = '&' ∧ !isPattern) then found := d :: found
                  else found := d :: '\\' :: found
            else
              found := c :: found
              if c = '[' ∧ isPattern then set := .first
        | place =>
            if c = '\\' ∧ (← peek) = some 'n' then
              discard take
              found := '\n' :: found
              set := .inside
            else
              found := c :: found
              if c = '^' ∧ place = .first then set := .behindNegation
              else if c = ']' ∧ place = .inside then set := .outside
              else
                set := .inside
                match ← peek with
                | some m =>
                    if c = '[' ∧ (m = ':' ∨ m = '.' ∨ m = '=') then
                      discard take
                      found := m :: found
                      set := .named m
                | none => pure ()
  return none

/-- The text with its escapes replaced. -/
def unescape (use : EscapeUse) (cs : List Char) : ReadEdit (List Char) := do
  match plainEscapes use (cs.length + 1) cs with
  | .ok cs => return cs
  | .error text => refuse text

/-- Raw characters as the ones that they are the UTF-8 form of. -/
def widened (cs : List Char) : List Char := (Text.widen (String.ofList cs)).toList

/-- The pattern that characters spell. -/
def patternOf (cs : List Char) (fold lines selects : Bool) : ReadEdit Pattern := do
  if cs.isEmpty then
    if fold ∨ lines then refuse "cannot specify modifiers on empty regexp"
    return { regex := none }
  let style := (← get).style
  let form : RegexStyle :=
    { extended := style.extended
      plain := style.posix
      strict := true
      paired := !style.posix
      marked := true }
  let cs ← unescape .pattern cs
  match Regex.ofText? form (String.ofList (widened cs)) with
  | .ok (r, groups) =>
      return { regex := some r, fold := fold, lines := lines, groups := groups, selects := selects }
  | .error text =>
      if text = Text.RegexReader.bareClassText then throw ⟨none, text⟩
      refuse text

/-! ### Addresses -/

/-- Take an address, if there is one; a range may begin with all kinds but a distance. -/
def takeAddress : ReadEdit (Option Address) := do
  let delimited (mark : Char) : ReadEdit (Option Address) := do
    match ← takeUpTo mark true with
    | none => refuse "unterminated address regex"
    | some cs =>
        let isFlag (c : Char) : Bool := c = 'I' || c = 'M'
        let posix := (← get).style.posix
        let flags := (← get).rest.takeWhile fun c => !posix && (isFlag c || isInnerGap c)
        skip fun c => !posix && (isFlag c || isInnerGap c)
        return some (.pattern (← patternOf cs (flags.contains 'I') (flags.contains 'M') true))
  match ← peek with
  | some '/' => do
      discard take
      delimited '/'
  | some '\\' => do
      discard take
      match ← take with
      | some mark => delimited mark
      | none => refuse "unterminated address regex"
  | some '$' => do
      discard take
      return some .last
  | some c =>
      if !c.isDigit then return none
      let n ← takeNumber
      skip isInnerGap
      if (← peek) = some '~' ∧ !(← get).style.posix then
        discard take
        skip isInnerGap
        match ← takeNumber with
        | 0 => return some (if n = 0 then .zero else .line n)
        | step => return some (.step n step)
      return some (if n = 0 then .zero else .line n)
  | none => return none

/-- Take a distance, if there is one: a number of lines, or up to a multiple. -/
def takeDistance : ReadEdit (Option RangeEnd) := do
  if (← get).style.posix then return none
  match ← peek with
  | some '+' => do
      discard take
      skip isInnerGap
      return some (.plus (← takeNumber))
  | some '~' => do
      discard take
      skip isInnerGap
      return some (.multiple (← takeNumber))
  | _ => return none

/-- Take what ends a range. -/
def takeRangeEnd : ReadEdit RangeEnd := do
  match ← takeDistance with
  | some stop => return stop
  | none =>
      match ← takeAddress with
      | some .zero => return .address (.line 0)
      | some a => return .address a
      | none =>
          discard take
          refuse "unexpected \x60,'"

/-- Take what selects the lines of a command. -/
def takeAddresses : ReadEdit (Option Address × Option RangeEnd) := do
  let first ← match ← takeDistance with
    | some (.plus 0) | some (.multiple 0) => pure (some Address.always)
    | some _ => refuse "invalid usage of +N or ~N as first address"
    | none => takeAddress
  if first.isNone then return (none, none)
  skip isInnerGap
  let stop ←
    if (← peek) = some ',' then
      discard take
      skip isInnerGap
      pure (some (← takeRangeEnd))
    else pure none
  let next ← takeSolid
  match first, stop with
  | some .zero, some (.address (.pattern _)) =>
      if (← get).style.posix then refuse "invalid usage of line address 0"
  | some .zero, _ => refuse "invalid usage of line address 0"
  | _, _ => pure ()
  match next with
  | some c =>
      modify fun r =>
        let p := r.place
        { r with
          rest := c :: r.rest
          place := { p with
            column := p.column - 1
            line := if c = '\n' then p.line - 1 else p.line } }
  | none => pure ()
  return (first, stop)

/-! ### Parts of commands -/

/-- Take the end of a command. -/
def takeEnd : ReadEdit Unit := do
  skip isInnerGap
  match ← peek with
  | none | some '\x7d' | some '#' => pure ()
  | some '\n' | some ';' => discard take
  | some _ =>
      discard take
      refuse "extra characters after command"

/-- Refuse what is not done where other files are left alone. -/
def checkSandbox : ReadEdit Unit := do
  if (← get).style.sandbox then refuse "e/r/w commands disabled in sandbox mode"

/-- Take the rest of the line as the name of a file. -/
def takeFile : ReadEdit String := do
  skip isInnerGap
  let name := (← get).rest.takeWhile (· ≠ '\n')
  skip (· ≠ '\n')
  discard take
  if name.isEmpty then refuse "missing filename in r/R/w/W commands"
  return String.ofList name

/-- Take a label. -/
def takeLabel : ReadEdit String := do
  skip isInnerGap
  let p (c : Char) : Bool := !isGap c && c ≠ ';' && c ≠ '\x7d'
  let name := (← get).rest.takeWhile p
  skip p
  return String.ofList name

/-- Take the lines of a text, behind which a backslash stands for a line break or for what
follows. -/
def takeLines : ReadEdit String := do
  let mut found : List Char := []
  for _ in [0:(← get).later.length + 1] do
    let mut goesOn := false
    for _ in [0:← steps] do
      match ← take with
      | none => break
      | some '\n' => break
      | some '\\' =>
          match ← take with
          | some c => found := c :: '\\' :: found
          | none =>
              goesOn := true
              break
      | some c => found := c :: found
    if !goesOn then break
    if !(← nextPiece) then break
    found := '\n' :: found
  let cs ← unescape .plain found.reverse
  return String.ofList (withoutBackslashes cs ++ ['\n'])

/-- Take the text of a command that adds lines. -/
def takeText : ReadEdit String := do
  let missing := "expected \\ after \x60a', \x60c' or \x60i'"
  skip isInnerGap
  match ← peek with
  | none => refuse missing
  | some '\\' =>
      discard take
      let gap := (← get).rest.takeWhile isInnerGap
      match (← get).rest.drop gap.length with
      | '\n' :: _ =>
          skip isInnerGap
          discard take
      | [] =>
          skip isInnerGap
          if !(← nextPiece) then return ""
      | _ :: _ => pure ()
  | some _ =>
      if (← get).style.posix then
        discard take
        refuse missing
  takeLines

/-- Take the command line of a command that runs one. -/
def takeCommandLine : ReadEdit (Option String) := do
  skip isInnerGap
  match ← peek with
  | none => return none
  | some '\n' =>
      discard take
      return none
  | some _ =>
      let text ← takeText
      return if text = "" then none else some (String.ofList text.toList.dropLast)

/-- Take the flags of a substitution: what they make of it, whether case does not count, and
whether lines within the text do. -/
def takeFlags (s : Substitution) : ReadEdit (Substitution × Bool × Bool) := do
  let mut s := s
  let mut fold := false
  let mut lines := false
  let unknown : ReadEdit Unit := refuse "unknown option to \x60s'"
  let posix := (← get).style.posix
  for _ in [0:← steps] do
    match ← peek with
    | some '\x7d' | some '#' => break
    | _ => pure ()
    let next ← take
    match next with
    | none | some '\n' | some ';' => break
    | some ' ' => pure ()
    | some '\t' => pure ()
    | some 'g' =>
        if s.everywhere then refuse "multiple \x60g' options to \x60s' command"
        s := { s with everywhere := true }
    | some 'p' =>
        if s.prints.isSome then refuse "multiple \x60p' options to \x60s' command"
        s := { s with prints := some (!s.runs) }
    | some 'w' =>
        checkSandbox
        s := { s with file := some (← takeFile) }
        break
    | some '\r' =>
        if (← take) = some '\n' then break
        unknown
    | some c =>
        if c.isDigit then
          if s.first.isSome then refuse "multiple number options to \x60s' command"
          let digits := c :: (← get).rest.takeWhile Char.isDigit
          skip Char.isDigit
          let n := Nat.ofDigitChars 10 digits 0
          if n = 0 then refuse "number option to \x60s' command may not be zero"
          s := { s with first := some n }
        else if posix then unknown
        else match c with
          | 'i' | 'I' => fold := true
          | 'm' | 'M' => lines := true
          | 'e' => s := { s with runs := true }
          | _ => unknown
  return (s, fold, lines)

/-- Take a substitution. -/
def takeSubstitution : ReadEdit EditOp := do
  let unterminated {α : Type} : ReadEdit α := refuse "unterminated \x60s' command"
  match ← take with
  | none => unterminated
  | some mark =>
      match ← takeUpTo mark true with
      | none => unterminated
      | some pattern =>
          match ← takeUpTo mark false with
          | none => unterminated
          | some text =>
              let cs := widened (← unescape .replacement text)
              let posix := (← get).style.posix
              let parts := ReplacementPart.ofChars posix (cs.length + 1) [] .plain none cs
              let (s, fold, lines) ←
                takeFlags { pattern := { regex := none }, replacement := parts }
              let p ← patternOf pattern fold lines false
              let highest := ReplacementPart.highest parts
              if p.regex.isSome ∧ p.groups < highest then
                refuse ("invalid reference \\" ++ toString highest ++ " on \x60s' command's RHS")
              if s.runs then checkSandbox
              return .substitute { s with pattern := p }

/-- Take two lists of characters that are exchanged. -/
def takeExchange : ReadEdit EditOp := do
  let unterminated : ReadEdit EditOp := refuse "unterminated \x60y' command"
  match ← take with
  | none => unterminated
  | some mark =>
      match ← takeUpTo mark false with
      | none => unterminated
      | some a =>
          match ← takeUpTo mark false with
          | none => unterminated
          | some b =>
              let a := withoutBackslashes (widened (← unescape .plain a))
              let b := withoutBackslashes (widened (← unescape .plain b))
              if a.length ≠ b.length then
                refuse "strings for \x60y' command are different lengths"
              return .translate (a.zip b)

/-! ### Commands -/

/-- Add a command. -/
def add (c : EditCommand) : ReadEdit Unit :=
  modify fun r => { r with script := { r.script with commands := r.script.commands.push c } }

/-- The version that scripts can ask for. -/
def knownVersion : String := "4.9"

/-- Whether a version is beyond the one that is there. -/
def isNewer (version : String) : Bool :=
  let a := version.toList
  let b := knownVersion.toList
  Text.compareRuns (a.length + b.length + 1) a b = .gt

/-- Close the block that was opened last. -/
def closeBlock : ReadEdit Unit := do
  match (← get).opened with
  | [] => refuse "unexpected \x60\x7d'"
  | (start, _) :: opened =>
      modify fun r =>
        let commands := r.script.commands.modify start fun c =>
          { c with op := .openBlock (r.script.commands.size + 1) }
        { r with opened := opened, script := { r.script with commands := commands } }

/-- The commands that only extended scripts have. -/
def isExtra (c : Char) : Bool := ['e', 'F', 'v', 'z', 'L', 'Q', 'T', 'R', 'W'].contains c

/-- Take a command behind its addresses. -/
def takeCommand (first : Option Address) (stop : Option RangeEnd) (negated : Bool) :
    ReadEdit Unit := do
  let put (op : EditOp) : ReadEdit Unit := add ⟨first, stop, negated, op⟩
  let simple (op : EditOp) : ReadEdit Unit := do
    takeEnd
    put op
  let oneAddress : ReadEdit Unit := do
    if stop.isSome then refuse "command only uses one address"
  let unknown (c : Char) : ReadEdit Unit :=
    refuse ("unknown command: \x60" ++ String.singleton c ++ "'")
  match ← take with
  | none => refuse "missing command"
  | some c =>
      if (← get).style.posix then
        if isExtra c then unknown c
        if ['a', 'i', 'l', '=', 'r'].contains c then oneAddress
      match c with
      | '#' =>
          if first.isSome then refuse "comments don't accept any addresses"
          let r ← get
          if r.isFirst ∧ r.place.column = 1 ∧ r.rest.head? = some 'n' then
            modify fun r => { r with script := { r.script with quiet := true } }
          skip (· ≠ '\n')
      | '\x7b' =>
          modify fun r => { r with opened := (r.script.commands.size, r.place) :: r.opened }
          put (.openBlock 0)
      | '\x7d' =>
          if !(← get).opened.isEmpty ∧ first.isSome then
            refuse "\x60\x7d' doesn't want any addresses"
          closeBlock
          simple .closeBlock
      | '=' => simple .lineNumber
      | 'd' => simple .delete
      | 'D' => simple .deleteFirst
      | 'e' =>
          checkSandbox
          put (.run (← takeCommandLine))
      | 'g' => simple .getHold
      | 'G' => simple .appendHold
      | 'h' => simple .toHold
      | 'H' => simple .toHoldAppend
      | 'x' => simple .exchange
      | 'n' => simple .next
      | 'N' => simple .nextAppend
      | 'p' => simple .print
      | 'P' => simple .printFirst
      | 'F' => simple .fileName
      | 'z' => simple .clear
      | 'a' => put (.append (← takeText))
      | 'i' => put (.insert (← takeText))
      | 'c' => put (.change (← takeText))
      | ':' =>
          if first.isSome then refuse ": doesn't want any addresses"
          let name ← takeLabel
          if name = "" then refuse "\":\" lacks a label"
          modify fun r =>
            { r with script := { r.script with
                labels := (name, r.script.commands.size) :: r.script.labels } }
          put .label
      | 'b' => put (.branch none (← takeLabel))
      | 't' => put (.branch (some true) (← takeLabel))
      | 'T' => put (.branch (some false) (← takeLabel))
      | 'q' =>
          oneAddress
          let status ← takeNumber?
          simple (.quit (status.getD 0) true)
      | 'Q' =>
          oneAddress
          let status ← takeNumber?
          simple (.quit (status.getD 0) false)
      | 'l' =>
          let width ← takeNumber?
          simple (.list width)
      | 'r' =>
          checkSandbox
          put (.readFile (← takeFile))
      | 'R' =>
          checkSandbox
          put (.readLine (← takeFile))
      | 'w' =>
          checkSandbox
          put (.writeFile (← takeFile))
      | 'W' =>
          checkSandbox
          put (.writeFirst (← takeFile))
      | 's' => put (← takeSubstitution)
      | 'y' =>
          let op ← takeExchange
          simple op
      | 'v' => if isNewer (← takeLabel) then refuse "expected newer version of sed"
      | c => unknown c

/-- Take all commands of a piece. -/
def takeCommands : ReadEdit Unit := do
  for _ in [0:← steps] do
    skip fun c => isGap c || c = ';'
    if (← peek).isNone then break
    let (first, stop) ← takeAddresses
    let negated ←
      if (← peek) = some '!' then
        discard take
        skip isInnerGap
        if (← peek) = some '!' then
          discard take
          refuse "multiple \x60!'s"
        pure true
      else pure false
    takeCommand first stop negated

/-- Take all commands of all pieces. -/
def takeAll : ReadEdit Unit := do
  for _ in [0:(← get).later.length + 1] do
    takeCommands
    if !(← nextPiece) then break
  match (← get).opened with
  | (_, place) :: _ => throw ⟨some { place with column := 0 }, "unmatched \x60\x7b'"⟩
  | [] => modify fun r => { r with script := { r.script with stop := { r.place with column := 0 } } }

end EditReader

/-- The script that some pieces spell together, up to what is wrong with it. -/
def EditScript.ofPieces : List EditPiece → EditScript × Option EditFault
  | [] => ({}, none)
  | piece :: later =>
      let reader : EditReader :=
        { rest := piece.text.toList
          place := ⟨piece.source, 0, 1⟩
          style := piece.style
          later := later }
      match EditReader.takeAll.run reader with
      | .error e r => (r.script, some e)
      | .ok _ r =>
          let missing := r.script.commands.toList.reverse.findSome? fun c => match c.op with
            | .branch _ target =>
                if target ≠ "" ∧ (r.script.labels.lookup target).isNone then some target else none
            | _ => none
          (r.script, missing.map fun target =>
            ⟨none, "can't find label for jump to \x60" ++ target ++ "'"⟩)

end ToyLang.Tools
