import ToyLang.Shell.Reader
import ToyLang.Text.Octets

/-!
# Reading words

A word is a run of quoted and unquoted text, parameters, commands between parentheses and
arithmetic expressions.  What a character means depends on what it stands in.

## Main definitions

* `Surrounding` — what a character may stand in.
* `Inner` — reading what stands one level deeper.
* `parseParts` — the parts of a word.
-/

namespace ToyLang.Shell

/-- What the characters of a word stand in. -/
inductive Surrounding where
  /-- Nothing; a blank or a mark ends the word. -/
  | bare
  /-- Double quotes. -/
  | quotes
  /-- The braces of a parameter; the flag says whether quotes are around them. -/
  | braces (quoted : Bool)
  /-- The brackets of an index. -/
  | brackets
  /-- The start or the length of a part of a value. -/
  | offset
  /-- The parentheses of an arithmetic expression. -/
  | sum
  /-- A part of a loop header, up to a semicolon. -/
  | header
  /-- A document. -/
  | document
  /-- A pattern between double brackets, in which parentheses and bars may stand. -/
  | pattern
  /-- The parentheses of a group within a pattern. -/
  | group
  deriving DecidableEq

/-- Reading one level deeper. -/
structure Inner where
  /-- The parts of a word. -/
  parts : Surrounding → Parse Word
  /-- Commands up to a closing parenthesis, which is taken with them. -/
  enclosed : Parse Command
  /-- Commands up to the end of the text. -/
  whole : Parse Command
  /-- Commands up to a token that does not go on with them. -/
  maybe : Parse Command
  /-- The same, but at least one command. -/
  list : Parse Command
  /-- One command. -/
  command : Parse Command

/-- Whether text in a surrounding counts as quoted. -/
def Surrounding.isQuoted : Surrounding → Bool
  | quotes | braces true | sum | document | header | brackets | offset => true
  | bare | braces false | pattern | group => false

/-- The characters that a backslash takes the meaning of in double quotes. -/
def protectedInQuotes : List Char := ['$', '\x60', '"', '\\']

/-! ### Quotes -/

/-- The text up to a single quote. -/
def takeSingleQuoted : Parse String := do
  let r ← get
  let found := r.rest.takeWhile (· ≠ '\'')
  let line := r.line + (found.filter (· = '\n')).length
  match r.rest.drop found.length with
  | [] =>
      set { r with line := line, rest := [] }
      malformed (.unclosed "'" r.line)
  | _ :: rest =>
      set { r with line := line, rest := rest }
      return String.ofList found

/-- The value of a hexadecimal digit. -/
def hexValue (c : Char) : Nat :=
  if c.isDigit then c.toNat - '0'.toNat else c.toLower.toNat - 'a'.toNat + 10

/-- Whether a character is a hexadecimal digit. -/
def isHex (c : Char) : Bool := c.isDigit || ('a' ≤ c.toLower && c.toLower ≤ 'f')

/-- The number that some digits spell. -/
def numberOf (base : Nat) (cs : List Char) : Nat := cs.foldl (fun n c => base * n + hexValue c) 0

/-- The UTF-8 form of the character with a number. -/
def codePointText (n : Nat) : List Char := Text.narrowChar (Char.ofNat n)

/-- The letters that stand for a control character behind a backslash. -/
def letterEscape? (c : Char) : Option Char :=
  if c = 'n' then some '\n'
  else if c = 't' then some '\t'
  else if c = 'r' then some '\r'
  else if c = 'a' then some '\x07'
  else if c = 'b' then some '\x08'
  else if c = 'f' then some '\x0c'
  else if c = 'v' then some '\x0b'
  else none

/-- What an escape of the extended quotes stands for, without its backslash, and what is left. -/
def takeEscape : List Char → List Char × List Char
  | [] => (['\\'], [])
  | c :: cs =>
      match letterEscape? c with
      | some e => ([e], cs)
      | none =>
          if c = 'e' ∨ c = 'E' then (['\x1b'], cs)
          else if c = '\\' ∨ c = '\'' ∨ c = '"' ∨ c = '?' then ([c], cs)
          else if c = 'x' then
            let digits := (cs.take 2).takeWhile isHex
            if digits.isEmpty then (['\\', 'x'], cs)
            else ([Char.ofNat (numberOf 16 digits)], cs.drop digits.length)
          else if c = 'u' ∨ c = 'U' then
            let digits := (cs.take (if c = 'u' then 4 else 8)).takeWhile isHex
            if digits.isEmpty then (['\\', c], cs)
            else (codePointText (numberOf 16 digits), cs.drop digits.length)
          else if '0' ≤ c ∧ c ≤ '7' then
            let digits := (c :: cs.take 2).takeWhile fun d => '0' ≤ d && d ≤ '7'
            ([Char.ofNat (numberOf 8 digits % 0x100)], (c :: cs).drop digits.length)
          else if c = 'c' then
            match cs with
            | d :: ds => ([Char.ofNat (d.toNat % 0x20)], ds)
            | [] => (['\\', 'c'], [])
          else (['\\', c], cs)

/-- The text of extended single quotes, in which escapes are replaced. -/
def takeEscapedQuoted : Parse String := do
  let start := (← get).line
  let mut text := ""
  for _ in [0:longestScript] do
    match (← get).rest with
    | [] => malformed (.unclosed "'" start)
    | '\'' :: _ =>
        skipChar
        return text
    | '\\' :: cs =>
        let (found, rest) := takeEscape cs
        modify fun r => { r with rest := rest }
        text := text ++ String.ofList found
    | c :: _ =>
        skipChar
        text := text.push c
  return text

/-! ### Commands within words -/

/-- The text between backquotes, without the backslashes that protect. -/
def takeBackquoted (quoted : Bool) : Parse (List Char) := do
  let start := (← get).line
  let mut text : List Char := []
  for _ in [0:longestScript] do
    match (← get).rest with
    | [] => malformed (.unclosed "\x60" start)
    | '\x60' :: _ =>
        skipChar
        return text.reverse
    | '\\' :: c :: _ =>
        if c = '\\' ∨ c = '$' ∨ c = '\x60' ∨ (quoted = true ∧ c = '"') then text := c :: text
        else if c ≠ '\n' then text := c :: '\\' :: text
        skipChars 2
    | c :: _ =>
        skipChar
        text := c :: text
  return text.reverse

/-- Read a text of its own with an action, and go on behind it. -/
def readApart {α : Type} (text : List Char) (line : Nat) (act : Parse α) : Parse α := do
  let r ← get
  set { r with rest := text, line := line, held := none, awaited := [] }
  let found ← act
  modify fun s => { s with rest := r.rest, line := r.line, held := r.held, awaited := r.awaited }
  return found

/-- Read the commands of a substitution, up to its closing parenthesis. -/
def parseOutput (inner : Inner) : Parse Command := do
  let r ← get
  set { r with held := none, awaited := [] }
  let body ←
    try inner.enclosed
    catch m =>
      match m.flaw with
      | .ended _ => throw (if ← isExtended then ⟨m.line, .unclosedOutput⟩ else m)
      | _ => throw m
  modify fun s => { s with held := none, awaited := r.awaited }
  return body

/-! ### Parameters -/

/-- The names of parameters that consist of one mark. -/
def specialNames : List Char := ['@', '*', '#', '?', '-', '$', '!']

/-- The name of a parameter in braces. -/
def takeParamName : Parse String := do
  match ← peek with
  | none => return ""
  | some c =>
      if isNameStart c then takeWhile isNameChar
      else if c.isDigit then takeWhile Char.isDigit
      else if specialNames.contains c then do
        skipChar
        return String.singleton c
      else return ""

/-- How a parameter in braces is used, with the closing brace. -/
def parseUse (inner : Inner) (quoted : Bool) : Parse Use := do
  let extended ← isExtended
  let standby (kind : Standby) (orEmpty : Bool) : Parse Use := do
    skipChar
    return .standby kind orEmpty (← inner.parts (.braces quoted))
  let kindOf? (c : Char) : Option Standby :=
    if c = '-' then some .instead
    else if c = '=' then some .assigned
    else if c = '?' then some .complaint
    else if c = '+' then some .alternate
    else none
  let bad : Parse Use := do
    discard (inner.parts (.braces quoted))
    return .bad ""
  match ← peek with
  | none => malformed (.unclosed (if quoted && !extended then "\"" else "\x7d") (← get).line)
  | some '\x7d' =>
      skipChar
      return .value
  | some ':' =>
      skipChar
      match (← peek).bind kindOf? with
      | some kind => standby kind true
      | none =>
          if extended then do
            let start ← inner.parts .offset
            if (← peek) = some ':' then
              skipChar
              let count ← inner.parts .offset
              skipChar
              return .slice start (some count)
            else
              skipChar
              return .slice start none
          else bad
  | some c =>
      match kindOf? c with
      | some kind => standby kind false
      | none =>
          if c = '\n' ∧ !extended then
            malformed (.unclosed (if quoted then "\"" else "\x7d") (← get).line)
          else if c = '#' ∨ c = '%' then do
            skipChar
            let longest ← looksAt (String.singleton c)
            if longest then skipChar
            return .trim (c = '%') longest (← inner.parts (.braces false))
          else if extended ∧ c = '/' then do
            skipChar
            let spot ← match ← peek with
              | some '/' => skipChar *> pure Spot.everywhere
              | some '#' => skipChar *> pure Spot.atStart
              | some '%' => skipChar *> pure Spot.atEnd
              | _ => pure Spot.first
            let all ← inner.parts (.braces false)
            -- The first unquoted slash parts the pattern from the text.
            let rec cut (before : Word) : Word → Word × Word
              | [] => (before, [])
              | .text cs false :: rest =>
                  let left := cs.toList.takeWhile (· ≠ '/')
                  if left.length = cs.length then cut (before ++ [.text cs false]) rest
                  else (before ++ [.text (String.ofList left) false],
                    .text (String.ofList (cs.toList.drop (left.length + 1))) false :: rest)
              | p :: rest => cut (before ++ [p]) rest
            let (pattern, text) := cut [] all
            return .replace spot pattern text
          else if extended ∧ (c = '^' ∨ c = ',' ∨ c = '~') then do
            skipChar
            let everywhere ← looksAt (String.singleton c)
            if everywhere then skipChar
            let pattern ← inner.parts (.braces false)
            let change : CaseChange :=
              if c = '^' then .upper else if c = ',' then .lower else .toggle
            return .recase change everywhere pattern
          else if extended ∧ c = '@' then do
            skipChar
            let word ← inner.parts (.braces false)
            match (plainText? word).map String.toList with
            | some ['U'] => return .recase .upper true []
            | some ['L'] => return .recase .lower true []
            | some ['u'] => return .recase .upper false []
            | some [form] =>
                return if "QEPAaKk".toList.contains form then .transform form else .bad ""
            | _ => return .bad ""
          else bad

/-- The index of a parameter in braces. -/
def parseIndex (inner : Inner) : Parse (Option Word) := do
  if (← isExtended) ∧ (← peek) = some '[' then
    skipChar
    let index ← inner.parts .brackets
    skipChar
    return some index
  else return none

/-- A parameter in braces, behind the opening one, of which all is well but perhaps its use. -/
def parseBracedUse (inner : Inner) (quoted : Bool) : Parse Param := do
  let extended ← isExtended
  let whole (name : String) : Parse Param := do
    let index ← parseIndex inner
    return .mk name index (← parseUse inner quoted)
  match ← peek with
  | some '#' =>
      skipChar
      match ← peek with
      | some '\x7d' =>
          skipChar
          return .mk "#" none .value
      | some c =>
          let name ← takeParamName
          if name ≠ "" ∧ (← peek) = some '\x7d' then
            skipChar
            return .mk name none .length
          else if name ≠ "" ∧ extended ∧ (← peek) = some '[' then
            let index ← parseIndex inner
            skipChar
            return .mk name index .length
          else
            modify fun r => { r with rest := name.toList ++ r.rest }
            if name.length = 1 ∨ c = ':' ∨ c = '%' ∨ c = '=' ∨ c = '+' then
              return .mk "#" none (← parseUse inner quoted)
            else
              discard (inner.parts (.braces quoted))
              return .mk "#" none (.bad "")
      | none => malformed (.unclosed "\x7d" (← get).line)
  | some '!' =>
      if extended then
        skipChar
        let name ← takeParamName
        if name = "" then return .mk "!" none (← parseUse inner quoted)
        let index ← parseIndex inner
        if index.isNone ∧ (← looksAt "*\x7d" <||> looksAt "@\x7d") then
          let joined := (← peek) = some '*'
          skipChars 2
          return .mk name none (.names joined)
        let use ← parseUse inner quoted
        match index, use with
        | some [.text "@" _], .value | some [.text "*" _], .value => return .mk name index .indices
        | _, .bad written => return .mk name index (.bad written)
        | _, use => return .mk name index (.indirect use)
      else whole (← takeParamName)
  | _ =>
      let name ← takeParamName
      if name = "" then
        discard (inner.parts (.braces quoted))
        return .mk "" none (.bad "")
      else whole name

/-- A parameter in braces, behind the opening one.  A bad one keeps the way it is written. -/
def parseBraced (inner : Inner) (quoted : Bool) : Parse Param := do
  let before := (← get).rest
  match ← parseBracedUse inner quoted with
  | .mk name index (.bad _) =>
      let written := before.take (before.length - (← get).rest.length)
      return .mk name index (.bad (String.ofList written))
  | p => return p

/-- What a dollar sign begins, behind that sign; `none` if it stands for itself. -/
def parseDollar (inner : Inner) (around : Surrounding) : Parse (Option Part) := do
  let quoted := around.isQuoted
  match ← peek with
  | none => return none
  | some '(' =>
      skipChar
      if (← peek) = some '(' then
        skipChar
        return some (.sum (← inner.parts .sum) quoted)
      else return some (.output (← parseOutput inner) quoted)
  | some '\x7b' =>
      skipChar
      return some (.param (← parseBraced inner quoted) quoted)
  | some c =>
      if isNameStart c then return some (.param (.mk (← takeWhile isNameChar) none .value) quoted)
      else if c.isDigit ∨ specialNames.contains c then
        skipChar
        return some (.param (.mk (String.singleton c) none .value) quoted)
      else if (← isExtended) ∧ quoted = false ∧ c = '\'' then
        skipChar
        return some (.text (← takeEscapedQuoted) true)
      else if (← isExtended) ∧ quoted = false ∧ c = '"' then
        return some (.text "" true)
      else return none

/-! ### Parts -/

/-- Parts in reverse, with text that is still being read. -/
structure Gathered where
  done : List Part := []
  text : List Char := []
  quoted : Bool := false

/-- Close the text that is being read. -/
def Gathered.close (g : Gathered) : Gathered :=
  if g.text.isEmpty then g
  else { g with done := .text (String.ofList g.text.reverse) g.quoted :: g.done, text := [] }

/-- Add a part. -/
def Gathered.part (g : Gathered) (p : Part) : Gathered :=
  let g := g.close
  { g with done := p :: g.done }

/-- Add a character of text. -/
def Gathered.char (g : Gathered) (c : Char) (quoted : Bool) : Gathered :=
  let g := if g.quoted = quoted then g else { g.close with quoted := quoted }
  { g with text := c :: g.text }

/-- All the parts, in order. -/
def Gathered.all (g : Gathered) : Word := g.close.done.reverse

/-- What the end of the text means in a surrounding that begins in a line. -/
def Surrounding.atEnd (start : Nat) : Surrounding → Parse Unit
  | bare | document | pattern => pure ()
  | group => malformed (.unclosed ")" start)
  | quotes => malformed (.unclosed "\"" start)
  | braces true => do malformed (.unclosed (if ← isExtended then "\x7d" else "\"") start)
  | braces false | offset => malformed (.unclosed "\x7d" start)
  | brackets => malformed (.unclosed "]" start)
  | sum | header => malformed (.unclosed "))" start)

/-- Whether a character ends what it stands in, given how many parentheses are open. -/
def Surrounding.endsAt (around : Surrounding) (open_ : Nat) (c : Char) (rest : List Char) : Bool :=
  match around with
  | bare => endsWord c
  | quotes => c = '"'
  | braces _ => c = '\x7d'
  | brackets => open_ = 0 && c = ']'
  | offset => open_ = 0 && (c = '\x7d' || c = ':')
  | group => open_ = 0 && c = ')'
  | sum => open_ = 0 && c = ')' && rest.head? = some ')'
  | header => open_ = 0 && (c = ';' || c = ')')
  | document => false
  | pattern => c = ' ' || c = '\t' || c = '\n' || (open_ = 0 && (c = ')' || c = ';'))

/-- Whether the characters that end a surrounding are taken with it. -/
def Surrounding.endLength : Surrounding → Nat
  | bare | brackets | offset | header | document | pattern => 0
  | quotes | braces _ | group => 1
  | sum => 2

/-- Whether single quotes quote in a surrounding. -/
def Surrounding.hasSingleQuotes : Surrounding → Bool
  | bare | braces false | pattern | group | brackets => true
  | quotes | braces true | sum | header | document | offset => false

/-- Whether a group of a pattern begins, given the characters that follow. -/
def beginsGroup : List Char → Bool
  | c :: '(' :: _ => "?*+@!".toList.contains c
  | _ => false

/-- The parts of a word in a surrounding, with what ends it. -/
def parseParts (inner : Inner) (around : Surrounding) : Parse Word := do
  let quoted := around.isQuoted
  let start := (← get).line
  let mut g : Gathered := { quoted := quoted }
  let mut open_ := 0
  for _ in [0:longestScript] do
    match ← peek with
    | none =>
        around.atEnd start
        return g.all
    | some c =>
        let isChannel := around = .bare && (c = '<' || c = '>') && (← isExtended)
          && (← looksAt (String.ofList [c, '(']))
        if isChannel then
          skipChars 2
          g := g.part (.channel (← parseOutput inner) (c = '>'))
        else if (← get).groups ∧ (around = .bare ∨ around = .pattern) ∧ beginsGroup (← get).rest then
          skipChars 2
          g := (g.char c false).char '(' false
          let within ← inner.parts .group
          g := within.foldl (fun (g : Gathered) p => g.part p) g
          g := g.char ')' false
        else if around.endsAt open_ c ((← get).rest.drop 1) then
          skipChars around.endLength
          return g.all
        else if c = '\\' then
          skipChar
          match (← get).rest with
          | [] => g := g.char '\\' quoted
          | d :: _ =>
              skipChar
              let protects := protectedInQuotes.contains d && (around ≠ .document || d ≠ '"')
                || (around = .braces true && d = '\x7d')
              let escapes := around = .brackets ∨ around = .offset
              if quoted = true ∧ protects = false ∧ !escapes then
                g := (g.char '\\' true).char d true
              else g := g.char d true
        else if c = '"' ∧ around ≠ .document then
          skipChar
          if around = .sum ∨ around = .header then
            if !(← isExtended) then g := g.char '"' quoted
          else
            let within ← inner.parts .quotes
            g := within.foldl (fun (g : Gathered) p => g.part p) (g.part (.text "" true))
        else if c = '\'' ∧ around.hasSingleQuotes = true then
          skipChar
          g := g.part (.text (← takeSingleQuoted) true)
        else if c = '$' then
          skipChar
          match ← parseDollar inner around with
          | some p => g := g.part p
          | none => g := g.char '$' quoted
        else if c = '\x60' then
          let line := (← get).line
          skipChar
          let text ← takeBackquoted quoted
          g := g.part (.output (← readApart text line inner.whole) quoted)
        else
          let bracketed := around = .brackets ∨ around = .offset
          if c = '(' ∨ (bracketed ∧ c = '[') then open_ := open_ + 1
          else if c = ')' ∨ (bracketed ∧ c = ']') then open_ := open_ - 1
          skipChar
          g := g.char c quoted
  return g.all

end ToyLang.Shell
