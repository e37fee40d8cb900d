import ToyLang.Shell.Words

/-!
# Reading commands

The grammar of scripts.  A script is run line by line, so only one line of commands is read at
a time, with all the lines that belong to it.

## Main definitions

* `readToken`, `next` — tokens.
* `parseCommand`, `parseList` — commands.
* `parseLine` — the next commands of a script.
-/

namespace ToyLang.Shell

/-! ### Tokens -/

/-- A token as it is named in complaints. -/
def Token.name : Token → String
  | ending => "end of file"
  | newline => "newline"
  | mark text | keyword text => "\"" ++ text ++ "\""
  | redirect _ _ => "redirection"
  | word _ _ => "word"

/-- The marks between words, longer ones first. -/
def marks : Dialect → List String
  | .plain => ["&&", "||", ";;", ";", "&", "|", "(", ")"]
  | .extended => [";;&", "&&", "||", ";;", ";&", "|&", ";", "&", "|", "(", ")"]

/-- The marks of redirections, longer ones first. -/
def redirectMarks : Dialect → List String
  | .plain => ["<<-", "<<", "<&", "<>", "<", ">>", ">&", ">|", ">"]
  | .extended => ["<<<", "<<-", "&>>", "<<", "<&", "<>", "&>", "<", ">>", ">&", ">|", ">"]

/-- The first of some texts that the script goes on with. -/
def firstAhead : List String → Parse (Option String)
  | [] => return none
  | text :: texts => do if ← looksAt text then return some text else firstAhead texts

/-- Skip blanks and a comment. -/
def skipBlanks : Parse Unit := do
  for _ in [0:longestScript] do
    match ← peek with
    | some ' ' | some '\t' => skipChar
    | some '#' =>
        discard (modify fun r => { r with rest := r.rest.dropWhile (· ≠ '\n') })
        return
    | _ => return

/-- The lines of a document up to its delimiter, what is left, how many lines were taken, and
whether the delimiter was there. -/
def documentLines (a : Awaited) : (limit : Nat) → List Char → List Char × List Char × Nat × Bool
  | 0, cs => ([], cs, 0, false)
  | _, [] => ([], [], 0, false)
  | limit + 1, cs =>
      let cs := if a.untabbed then cs.dropWhile (· = '\t') else cs
      let line := cs.takeWhile (· ≠ '\n')
      let rest := cs.drop line.length
      if String.ofList line = a.delimiter then ([], rest.drop 1, 1, true)
      else
        let (text, left, lines, closed) := documentLines a limit (rest.drop 1)
        (line ++ rest.take 1 ++ text, left, lines + 1, closed)

/-- Read the documents that wait. -/
def readDocuments (inner : Inner) : Parse Unit := do
  for a in (← get).awaited do
    let r ← get
    let (text, rest, lines, closed) := documentLines a longestScript r.rest
    let body : Word ←
      if a.quoted then pure [.text (String.ofList text) true]
      else readApart text r.line (inner.parts .document)
    modify fun s =>
      { s with
        rest := rest
        line := r.line + lines
        warnings := if closed then s.warnings else s.warnings ++
          [(r.line + lines - 1, "warning: here-document at line " ++ toString a.line
            ++ " delimited by end-of-file (wanted \x60" ++ a.delimiter ++ "')")]
        documents := s.documents.setIfInBounds a.number body }
  modify fun r => { r with awaited := [] }

/-- The name in braces that stands right in front of a redirection. -/
def variableStream? (cs : List Char) : Option String :=
  match cs with
  | '\x7b' :: cs =>
      let name := String.ofList (cs.takeWhile isNameChar)
      match cs.drop name.length with
      | '\x7d' :: c :: _ =>
          if isVariableName name && (c = '<' || c = '>') then some name else none
      | _ => none
  | _ => none

/-- Read a token from the script. -/
def scanToken (inner : Inner) : Parse Token := do
  let dialect := (← get).dialect
  match ← peek with
  | none => return .ending
  | some '\n' =>
      skipChar
      readDocuments inner
      return .newline
  | some c =>
      let bare : Parse Token := do
        let start := (← get).rest
        let w ← inner.parts .bare
        let written := start.take (start.length - (← get).rest.length)
        return .word w (String.ofList written)
      let redirected (size : Nat) (stream : RedirectedStream) : Parse Token := do
        skipChars size
        match ← firstAhead (redirectMarks dialect) with
        | some mark =>
            skipChars mark.length
            return .redirect stream mark
        | none => return .ending
      if dialect = .extended ∧ ((← looksAt "<(") ∨ (← looksAt ">(")) then return ← bare
      if c.isDigit then
        let digits := (← get).rest.takeWhile Char.isDigit
        let next := ((← get).rest.drop digits.length).head?
        let size := if dialect = .extended then digits.length else 1
        if digits.length = size ∧ (next = some '<' ∨ next = some '>') then
          return ← redirected digits.length (.number (numberOf 10 digits))
        return ← bare
      if dialect = .extended then
        match variableStream? (← get).rest with
        | some name => return ← redirected (name.length + 2) (.variable name)
        | none => pure ()
      match ← firstAhead (redirectMarks dialect) with
      | some mark =>
          skipChars mark.length
          return .redirect .usual mark
      | none =>
          match ← firstAhead (marks dialect) with
          | some mark =>
              skipChars mark.length
              return .mark mark
          | none => bare

/-- Read a token. -/
def readToken (inner : Inner) : Parse Token := do
  match (← get).held with
  | some token =>
      modify fun r => { r with held := none }
      return token
  | none =>
      skipBlanks
      let before ← get
      let token ← scanToken inner
      modify fun r =>
        let written := before.rest.take (before.rest.length - r.rest.length)
        { r with
          token := (before.rest, r.rest)
          trail := String.ofList written :: before.trail }
      return token

/-- Put a token back. -/
def putBack (token : Token) : Parse Unit := modify fun r => { r with held := some token }

/-- A word that is a keyword, as that keyword. -/
def Token.asKeyword (dialect : Dialect) : Token → Token
  | word w written =>
      match plainText? w with
      | some text => if (keywords dialect).contains text then keyword text else word w written
      | none => word w written
  | token => token

/-- The next token.  Line breaks are passed over if `lines` says so, and keywords are told from
other words if `words` says so. -/
def next (inner : Inner) (lines words : Bool) : Parse Token := do
  let mut token ← readToken inner
  if lines then
    for _ in [0:longestScript] do
      match token with
      | .newline => token ← readToken inner
      | _ => break
  let dialect := (← get).dialect
  return if words then token.asKeyword dialect else token

/-- Refuse a token. -/
def unexpected {α : Type} (token : Token) (expected : Option String := none) : Parse α := do
  let (start, rest) := (← get).token
  match token with
  | .ending => malformed (.ended expected)
  | .newline => do
      -- The extended shell speaks of the line that ends there.
      let line := (← get).line
      let flaw : Flaw := .unexpected token.name token.name expected
      throw ⟨if ← isExtended then line - 1 else line, flaw⟩
  | _ =>
      malformed (.unexpected token.name (String.ofList (start.take (start.length - rest.length)))
        expected)

/-- Take a keyword or a mark. -/
def expect (inner : Inner) (text : String) (lines : Bool := true) : Parse Unit := do
  match ← next inner lines true with
  | .keyword t | .mark t =>
      if t ≠ text then unexpected (.keyword t) (some ("\"" ++ text ++ "\""))
  | token => unexpected token (some ("\"" ++ text ++ "\""))

/-! ### Redirections -/

/-- The text of a word without its quotes, and whether it had any. -/
def unquoted (w : Word) : String × Bool :=
  w.foldl (fun (text, quoted) p => match p with
    | .text cs q => (text ++ cs, quoted || q)
    | .param (.mk name _ _) _ => (text ++ "$" ++ name, quoted)
    | _ => (text, quoted)) ("", false)

/-- How a redirection is written, given its mark and its target. -/
def writtenRedirect (stream : RedirectedStream) (mark target : String) : String :=
  let named := match stream with
    | .usual => ""
    | .number n => toString n
    | .variable name => "\x7b" ++ name ++ "\x7d"
  let numeric := target ≠ "" && target.toList.all fun c => c.isDigit || c = '-'
  if mark = ">&" ∧ numeric then (if named = "" then "1" else named) ++ ">&" ++ target
  else if mark = "<&" then (if named = "" then "0" else named) ++ "<&" ++ target
  else if mark = ">&" then "&> " ++ target
  else if mark = "<<" ∨ mark = "<<-" then named ++ mark ++ target
  else
    let shown := if (mark = ">" ∨ mark = ">>" ∨ mark = ">|") ∧ named = "1" then ""
      else if (mark = "<" ∨ mark = "<>" ∨ mark = "<<<") ∧ named = "0" then ""
      else named
    shown ++ mark ++ " " ++ target

/-- Read the target of a redirection; how the redirection is written is given too. -/
def parseRedirect (inner : Inner) (stream : RedirectedStream) (mark : String) :
    Parse (Redirect × String) := do
  match ← next inner false false with
  | .word w written =>
      let kind ← match mark with
        | "<" => pure Redirection.read
        | ">" => pure .write
        | ">|" => pure .overwrite
        | ">>" => pure .append
        | "<>" => pure .readWrite
        | "<&" => pure .copyInput
        | ">&" => pure .copyOutput
        | "&>" => pure .writeBoth
        | "&>>" => pure .appendBoth
        | "<<<" => pure .text
        | _ =>
            let (delimiter, quoted) := unquoted w
            let number := (← get).documents.size
            modify fun r =>
              { r with
                documents := r.documents.push []
                awaited := r.awaited ++ [⟨number, r.line, delimiter, quoted, mark = "<<-"⟩] }
            pure (.document number)
      return (.mk stream kind w, writtenRedirect stream mark written)
  | token => unexpected token

/-- Read the redirections that follow a command; how they are written is given too. -/
def parseRedirects (inner : Inner) : Parse (List Redirect × String) := do
  let mut found : List (Redirect × String) := []
  for _ in [0:longestScript] do
    match ← next inner false true with
    | .redirect stream mark => found := (← parseRedirect inner stream mark) :: found
    | token =>
        putBack token
        break
  let all := found.reverse
  return (all.map Prod.fst, " ".intercalate (all.map Prod.snd))

/-! ### Conditions -/

/-- The operators with one operand. -/
def unaryOps : List String :=
  ["-e", "-f", "-d", "-r", "-w", "-x", "-s", "-z", "-n", "-L", "-h", "-p", "-b", "-c", "-S", "-t",
    "-u", "-g", "-k", "-O", "-G", "-N", "-v", "-a", "-o"]

/-- The operators with two operands. -/
def binaryOps : List String :=
  ["=", "==", "!=", "=~", "-eq", "-ne", "-lt", "-le", "-gt", "-ge", "-nt", "-ot", "-ef"]

/-- Refuse what stands where an operator with two operands is expected. -/
def refuseBinary {α : Type} (token : Token) : Parse α := do
  match token with
  | .newline | .ending | .mark _ => unexpected token
  | _ => malformed (.other "conditional binary operator expected")

/-- Read a condition that is not joined to another one. -/
def parseCondition (inner : Inner) (nested : Parse Condition) : Parse Condition := do
  let operand : Parse Word := do
    match ← next inner false false with
    | .word u _ => return u
    | token => unexpected token
  let pattern : Parse Word := do
    skipBlanks
    let before ← get
    let w ← inner.parts .pattern
    modify fun r =>
      let written := before.rest.take (before.rest.length - r.rest.length)
      { r with trail := String.ofList written :: before.trail }
    return w
  match ← next inner true false with
  | .mark "(" => do
      let c ← nested
      match ← next inner true false with
      | .mark ")" => return c
      | token => unexpected token
  | .word w _ =>
      match plainText? w with
      | some "!" => return .not (← nested)
      | text =>
          let op := text.getD ""
          let before ← get
          let second ← next inner false false
          -- A word that stands alone is shown with the operator that tests it.
          let alone : Parse Condition := do
            putBack second
            modify fun r => match r.trail with
              | s :: t :: rest => { r with trail := s :: t :: "-n" :: rest }
              | _ => r
            return .word w
          match second with
          | .word v _ =>
              let middle := (plainText? v).getD ""
              if binaryOps.contains middle then
                if middle = "=~" then return .binary middle w (← pattern)
                return .binary middle w (← operand)
              else if unaryOps.contains op ∧ middle ≠ "]]" then return .unary op v
              else if middle = "]]" then alone
              else refuseBinary second
          | .redirect .usual mark =>
              if mark = "<" ∨ mark = ">" then return .binary mark w (← operand)
              else refuseBinary second
          | .mark "&&" | .mark "||" | .mark ")" => alone
          | token => do
              if unaryOps.contains op then unexpected token
              set { (← get) with line := before.line }
              refuseBinary token
  | token => unexpected token

/-- Read conditions joined by the marks for both and either.  `depth` bounds how deep they
nest. -/
def parseConditions (inner : Inner) : (depth : Nat) → Parse Condition
  | 0 => malformed (.other "condition nested too deep")
  | depth + 1 => do
      let single := parseCondition inner (parseConditions inner depth)
      let mut c ← single
      for _ in [0:longestScript] do
        match ← next inner true false with
        | .mark "&&" => c := .both c (← single)
        | .mark "||" => return .either c (← parseConditions inner depth)
        | token =>
            putBack token
            break
      return c

/-! ### Simple commands -/

/-- The index up to its closing bracket in front of an equals sign, whether a plus stands between
them, and the value. -/
def splitIndex : Word → Option (Word × Bool × Word)
  | [] => none
  | .text cs false :: rest =>
      let before := cs.toList.takeWhile (· ≠ ']')
      let index : Word := if before.isEmpty then [] else [.text (String.ofList before) true]
      let value (cs : List Char) : Word :=
        if cs.isEmpty then rest else .text (String.ofList cs) false :: rest
      match cs.toList.drop before.length with
      | [] => (splitIndex rest).map fun (more, append, value) => (index ++ more, append, value)
      | ']' :: '=' :: cs => some (index, false, value cs)
      | ']' :: '+' :: '=' :: cs => some (index, true, value cs)
      | _ => none
  | p :: rest => (splitIndex rest).map fun (more, append, value) => (p :: more, append, value)

/-- Whether a word assigns: its name, the index, whether it appends, and the value. -/
def assignment? (dialect : Dialect) : Word → Option (String × Option Word × Bool × Word)
  | .text cs false :: rest =>
      let name := cs.toList.takeWhile isNameChar
      let behind := cs.toList.drop name.length
      let value (cs : List Char) : Word :=
        if cs.isEmpty then rest else .text (String.ofList cs) false :: rest
      let named := isVariableName (String.ofList name)
      match behind with
      | '=' :: cs => if named then some (String.ofList name, none, false, value cs) else none
      | '+' :: '=' :: cs =>
          if named ∧ dialect = .extended then some (String.ofList name, none, true, value cs)
          else none
      | '[' :: cs =>
          if named ∧ dialect = .extended then
            (splitIndex (value cs)).map fun (index, append, value) =>
              (String.ofList name, some index, append, value)
          else none
      | _ => none
  | _ => none

/-- The builtin commands that no function can be named after. -/
def specialBuiltins : List String :=
  [".", ":", "break", "continue", "eval", "exec", "exit", "export", "local", "readonly", "return",
    "set", "shift", "times", "trap", "unset"]

/-- Read the words of a list between parentheses, behind the first of them; how they are written is
given too. -/
def parseValues (inner : Inner) : Parse (List Word × String) := do
  let line := (← get).line
  let mut values : List (Word × String) := []
  for _ in [0:longestScript] do
    match ← next inner true false with
    | .word w written => values := (w, written) :: values
    | .mark ")" => break
    | .ending => throw ⟨line, .unclosedList line⟩
    | token => unexpected token
  let all := values.reverse
  return (all.map Prod.fst, "(" ++ " ".intercalate (all.map Prod.snd) ++ ")")

/-- The commands of the extended dialect whose arguments may be assignments. -/
def declaringCommands : List String := ["declare", "typeset", "local", "export", "readonly"]

/-- Whether a token begins a command that is put together from others. -/
def Token.beginsCompound : Token → Bool
  | mark text => text = "("
  | keyword text =>
      ["\x7b", "if", "for", "while", "until", "case", "select", "[[", "coproc"].contains text
  | _ => false

/-- What has been read of a simple command, in reverse. -/
structure Simple where
  assigns : List Assign := []
  words : List Word := []
  redirects : List Redirect := []
  /-- How the assignments and words are written. -/
  written : List String := []
  /-- How the redirections are written. -/
  redirected : List String := []

/-- Read a simple command, or the definition of a function. -/
def parseSimple (inner : Inner) : Parse Command := do
  let dialect := (← get).dialect
  let mut c : Simple := {}
  let mut line := (← get).line
  for round in [0:longestScript] do
    let token ← next inner false false
    -- The extended shell has read the word behind the name when it notes the line.
    match round, token with
    | 1, .word _ _ => if dialect = .extended ∧ c.assigns.isEmpty then line := (← get).line
    | _, _ => pure ()
    match token with
    | .word w written =>
        let isList := dialect = .extended ∧ (← get).rest.head? = some '('
        match (if c.words.isEmpty then assignment? dialect w else none) with
        | some (name, index, append, value) =>
            if isList ∧ value.isEmpty then
              skipChar
              let (values, shown) ← parseValues inner
              c := { c with
                assigns := .list name append values (written ++ shown) :: c.assigns
                written := (written ++ shown) :: c.written }
            else
              c := { c with
                assigns := .word name index append value :: c.assigns
                written := written :: c.written }
        | none =>
            let plain : Simple := { c with words := w :: c.words, written := written :: c.written }
            if isList ∧ (c.words.getLast?.bind plainText?).any declaringCommands.contains then
              match assignment? dialect w with
              | some (name, _, append, []) =>
                  skipChar
                  let (values, shown) ← parseValues inner
                  c := { c with
                    assigns := .list name append values (written ++ shown) :: c.assigns
                    words := [.text name false] :: c.words
                    written := (written ++ shown) :: c.written }
              | _ => c := plain
            else c := plain
    | .redirect stream mark =>
        let (r, written) ← parseRedirect inner stream mark
        c := { c with redirects := r :: c.redirects, redirected := written :: c.redirected }
    | .mark "(" =>
        match c with
        | { words := [w], assigns := [], redirects := [], .. } =>
            match ← next inner false false with
            | .mark ")" => pure ()
            | token => unexpected token (some "\")\"")
            let name := (unquoted w).1
            let allowed :=
              if dialect = .extended then plainText? w = some name
              else isVariableName name && !specialBuiltins.contains name
            if !allowed then malformed (.other "Bad function name")
            line := (← get).line
            let token ← next inner true true
            if dialect = .extended ∧ !token.beginsCompound then unexpected token
            putBack token
            return .define name line (← inner.command)
        | _ => unexpected (.mark "(")
    | token =>
        putBack token
        break
  let written := " ".intercalate (c.redirected ++ c.written).reverse
  return .simple line written c.assigns.reverse c.words.reverse c.redirects.reverse

/-! ### Compound commands -/

/-- Read the branches of a conditional, behind its first word. -/
def parseBranches (inner : Inner) : Parse Command := do
  let mut found : List (Command × Command) := []
  let mut last : Option Command := none
  for _ in [0:longestScript] do
    let test ← inner.list
    expect inner "then"
    let body ← inner.list
    found := (test, body) :: found
    match ← next inner true true with
    | .keyword "elif" => pure ()
    | .keyword "else" =>
        last := some (← inner.list)
        expect inner "fi"
        break
    | .keyword "fi" => break
    | token => unexpected token (some "\"fi\"")
  match found.foldl (fun last (test, body) => some (Command.branch test body last)) last with
  | some c => return c
  | none => return .nothing

/-- Read the words of a loop over words, behind its variable; how they are written is given too. -/
def parseEachWords (inner : Inner) : Parse (Option (List Word) × String) := do
  match ← next inner true true with
  | .keyword "in" =>
      let mut words : List (Word × String) := []
      for _ in [0:longestScript] do
        match ← next inner false false with
        | .word w written => words := (w, written) :: words
        | .newline | .mark ";" => break
        | token => unexpected token
      let all := words.reverse
      return (some (all.map Prod.fst), " ".intercalate (all.map Prod.snd))
  | .mark ";" => return (none, "\"$@\"")
  | token =>
      putBack token
      return (none, "\"$@\"")

/-- A part of the header of a counting loop, and how it is written. -/
def parseHeaderPart (inner : Inner) : Parse (Word × String) := do
  let before := (← get).rest
  let w ← inner.parts .header
  let written := before.take (before.length - (← get).rest.length)
  return (w, String.ofList (written.dropWhile (· = ' ')))

/-- Read the header of a counting loop, behind its two parentheses; how it is written is given
too. -/
def parseHeader (inner : Inner) : Parse (Word × Word × Word × String) := do
  let (start, a) ← parseHeaderPart inner
  skipChar
  let (test, b) ← parseHeaderPart inner
  skipChar
  let (step, c) ← parseHeaderPart inner
  skipChars 2
  match ← next inner false true with
  | .mark ";" => pure ()
  | token => putBack token
  let shown (text : String) : String := if text = "" then "1" else text
  return (start, test, step, shown a ++ "; " ++ shown b ++ "; " ++ shown c)

/-- Read a loop body between its two words, or in braces. -/
def parseBody (inner : Inner) : Parse Command := do
  match ← next inner true true with
  | .keyword "do" =>
      let body ← inner.list
      expect inner "done"
      return body
  | .keyword "\x7b" =>
      if (← get).dialect = .extended then
        let body ← inner.list
        expect inner "\x7d"
        return body
      else unexpected (.keyword "\x7b") (some "\"do\"")
  | token => unexpected token (some "\"do\"")

/-- Read a loop over words, or a choice between words, behind its first word. -/
def parseEach (inner : Inner) (line : Nat) (selects : Bool) : Parse Command := do
  if (← isExtended) ∧ !selects ∧ (← looksAt " ((" <||> looksAt "((") then
    skipBlanks
    skipChars 2
    let (start, test, step, written) ← parseHeader inner
    return .count line written start test step (← parseBody inner)
  match ← next inner false false with
  | .word w _ =>
      match plainText? w with
      | some name =>
          if !isVariableName name ∧ !(← isExtended) then
            malformed (.other "Bad for loop variable")
          let (words, written) ← parseEachWords inner
          let body ← parseBody inner
          return if selects then .select line name written words body
            else .each line name written words body
      | none => malformed (.other "Bad for loop variable")
  | token => if ← isExtended then unexpected token else malformed (.other "Bad for loop variable")

/-- Read the patterns of a case, behind the first token of them; how they are written is given
too. -/
def parsePatterns (inner : Inner) (first : Token) : Parse (List Word × String) := do
  let mut token := first
  let mut patterns : List (Word × String) := []
  for _ in [0:longestScript] do
    match token with
    | .word w written => patterns := (w, written) :: patterns
    | .keyword text => patterns := ([.text text false], text) :: patterns
    | .ending => unexpected .ending (some "\")\"")
    | other => unexpected other
    match ← next inner false false with
    | .mark "|" => token ← next inner false false
    | .mark ")" => break
    | other => unexpected other (some "\")\"")
  let all := patterns.reverse
  return (all.map Prod.fst, " | ".intercalate (all.map Prod.snd))

/-- Read a choice, behind its first word.  `list` reads commands that may be missing. -/
def parseChoice (inner : Inner) (line : Nat) (list : Parse Command) : Parse Command := do
  match ← next inner false false with
  | .word subject shown =>
      match ← next inner true true with
      | .keyword "in" => pure ()
      | token => unexpected token (some "\"in\"")
      let mut cases : List Case := []
      for _ in [0:longestScript] do
        match ← next inner true true with
        | .keyword "esac" => break
        | token =>
            let first ← match token with
              | .mark "(" => next inner false false
              | token => pure token
            let (patterns, written) ← parsePatterns inner first
            let body ← list
            let add (ending : CaseEnd) : List Case := .mk patterns written body ending :: cases
            match ← next inner true true with
            | .mark ";;" => cases := add .stop
            | .mark ";&" => cases := add .runNext
            | .mark ";;&" => cases := add .tryNext
            | .keyword "esac" =>
                cases := add .stop
                break
            | token => unexpected token (some "\";;\"")
      return .choose line shown subject cases.reverse
  | token => unexpected token (some "word")

/-- Read a function that is defined by a word of its own. -/
def parseFunction (inner : Inner) : Parse Command := do
  match ← next inner false false with
  | .word w _ =>
      let line := (← get).line
      match ← next inner false false with
      | .mark "(" =>
          match ← next inner false false with
          | .mark ")" => pure ()
          | token => unexpected token
      | token => putBack token
      let token ← next inner true true
      putBack token
      return .define (unquoted w).1 line (← inner.command)
  | token => unexpected token

/-- Read a coprocess, behind its first word.  Only one that is put together from other commands may
have a name. -/
def parseCoprocess (inner : Inner) : Parse Command := do
  match ← next inner false true with
  | .word w written => do
      let before ← get
      let second ← next inner false true
      if second.beginsCompound then
        putBack second
        return .coprocess (unquoted w).1 (← inner.command)
      -- The word begins the command itself, so it is read again.
      set { before with rest := written.toList ++ before.rest }
      return .coprocess "COPROC" (← inner.command)
  | token => do
      putBack token
      return .coprocess "COPROC" (← inner.command)

/-- Put the text of an alias in place of a word, if the word is one that is not being read. -/
def takeAlias (w : Word) : Parse Bool := do
  let r ← get
  match plainText? w with
  | none => return false
  | some name =>
      let isActive := r.active.any fun (other, length) => other = name && length < r.rest.length
      match r.aliases.lookup name with
      | some text =>
          if isActive then return false
          set { r with rest := text.toList ++ r.rest, active := (name, r.rest.length) :: r.active }
          return true
      | none => return false

/-- Read a command.  `list` reads commands that may be missing. -/
def parseCommand (inner : Inner) (list : Parse Command) (token : Token) : Parse Command := do
  let line := (← get).line
  let compound (c : Command) : Parse Command := do
    match ← parseRedirects inner with
    | ([], _) => return c
    | (redirects, written) => return .redirected line written c redirects
  match token with
  | .keyword "if" => compound (← parseBranches inner)
  | .keyword "while" => do
      let test ← inner.list
      compound (.loop false test (← parseBody inner))
  | .keyword "until" => do
      let test ← inner.list
      compound (.loop true test (← parseBody inner))
  | .keyword "for" => compound (← parseEach inner line false)
  | .keyword "select" => compound (← parseEach inner line true)
  | .keyword "coproc" => parseCoprocess inner
  | .keyword "case" => compound (← parseChoice inner line list)
  | .keyword "function" => parseFunction inner
  | .keyword "\x7b" => do
      let body ← inner.list
      expect inner "\x7d"
      compound (.grouped body)
  | .keyword "[[" => do
      let before ← get
      set { before with trail := [], groups := true }
      let c ← parseConditions inner 100
      let token ← next inner true false
      let written := (← get).trail
      modify fun r => { r with trail := before.trail, groups := before.groups }
      match token with
      | .word w _ =>
          if plainText? w ≠ some "]]" then unexpected token
          let shown := ((written.drop 1).filter (· ≠ "\n")).reverse
          compound (.holds line (" ".intercalate shown) c)
      | token => unexpected token
  | .mark "(" => do
      if (← isExtended) ∧ (← get).rest.head? = some '(' then
        skipChar
        let before := (← get).rest
        let w ← inner.parts .sum
        let size := before.length - (← get).rest.length - 2
        compound (.compute line (String.ofList (before.take size)) w)
      else
        let body ← inner.list
        expect inner ")"
        compound (.subshell body)
  | .word w written => do
      if ← takeAlias w then return ← inner.command
      putBack (.word w written)
      parseSimple inner
  | .redirect stream mark => do
      putBack (.redirect stream mark)
      parseSimple inner
  | token => unexpected token

/-! ### Lists -/

/-- A command whose errors go where its output goes, behind its own redirections. -/
def Command.joined (c : Command) : Command :=
  let both : Redirect := .mk (.number 2) .copyOutput [.text "1" false]
  match c with
  | .simple line written assigns words redirects =>
      .simple line (written ++ " 2>&1") assigns words (redirects ++ [both])
  | .redirected line written body redirects =>
      .redirected line (written ++ " 2>&1") body (redirects ++ [both])
  | c => .redirected 0 "2>&1" c [both]

/-- Read commands joined by bars, the first token of which has been read. -/
def parsePipeline (inner : Inner) (list : Parse Command) (token : Token) : Parse Command := do
  match token with
  | .keyword "!" => do
      match (← isExtended), (← next inner false true) with
      | true, .keyword "!" => stages (← next inner false true)
      | true, .newline => do
          putBack .newline
          return .negated .nothing
      | true, .mark ";" => do
          putBack (.mark ";")
          return .negated .nothing
      | _, token => return .negated (← stages token)
  | .keyword "time" => do
      match ← next inner false true with
      | .word w written => do
          if plainText? w = some "-p" then return .timed true (← stages (← next inner false true))
          return .timed false (← stages (.word w written))
      | .keyword "!" => return .timed false (.negated (← stages (← next inner false true)))
      | .newline => do
          putBack .newline
          return .timed false .nothing
      | .mark ";" => do
          putBack (.mark ";")
          return .timed false .nothing
      | .ending => do
          putBack .ending
          return .timed false .nothing
      | token => return .timed false (← stages token)
  | token => stages token
where
  /-- The commands between the bars. -/
  stages (token : Token) : Parse Command := do
    let first ← parseCommand inner list token
    let mut found : List Command := [first]
    for _ in [0:longestScript] do
      match ← next inner false true with
      | .mark "|" => found := (← parseCommand inner list (← next inner true true)) :: found
      | .mark "|&" =>
          found := match found with
            | c :: rest => c.joined :: rest
            | [] => []
          found := (← parseCommand inner list (← next inner true true)) :: found
      | token =>
          putBack token
          break
    match found with
    | [c] => return c
    | stages => return .pipeline stages.reverse

/-- Read pipelines joined by the marks for both and either. -/
def parseAndOr (inner : Inner) (list : Parse Command) (token : Token) : Parse Command := do
  let mut c ← parsePipeline inner list token
  for _ in [0:longestScript] do
    match ← next inner false true with
    | .mark "&&" => c := .both c (← parsePipeline inner list (← next inner true true))
    | .mark "||" => c := .either c (← parsePipeline inner list (← next inner true true))
    | token =>
        putBack token
        break
  return c

/-- Whether a token ends a list of commands. -/
def Token.endsList : Token → Bool
  | ending => true
  | mark text => text = ")" || text = ";;" || text = ";&" || text = ";;&"
  | keyword text =>
      ["do", "done", "elif", "else", "esac", "fi", "then", "\x7d"].contains text
  | _ => false

/-- Whether a token is the end of the script. -/
def Token.isEnding : Token → Bool
  | ending => true
  | _ => false

/-- Read commands that may stand on several lines, up to a token that ends them.  There may be
none if `orNone` says so. -/
def parseList (inner : Inner) (list : Parse Command) (orNone : Bool) : Parse Command := do
  let mut found : Option Command := none
  for _ in [0:longestScript] do
    let token ← next inner true true
    if token.endsList ∧ (orNone ∨ found.isSome ∨ token.isEnding) then
      putBack token
      break
    let c ← parseAndOr inner list token
    let stop ← next inner false true
    let c := match stop with
      | .mark "&" => .background c
      | _ => c
    found := some (match found with
      | none => c
      | some before => .sequence before c)
    match stop with
    | .mark "&" | .mark ";" | .newline => pure ()
    | token =>
        putBack token
        break
  return found.getD .nothing

/-- Reading with a bound on how deep words and commands nest. -/
def innerWithin : (depth : Nat) → Inner
  | 0 =>
      let tooDeep {α : Type} : Parse α := malformed (.other "nested too deep")
      ⟨fun _ => tooDeep, tooDeep, tooDeep, tooDeep, tooDeep, tooDeep⟩
  | depth + 1 =>
      let parts (around : Surrounding) : Parse Word := parseParts (innerWithin depth) around
      let list (orNone : Bool) : Parse Command :=
        parseList (innerWithin depth) (innerWithin depth).maybe orNone
      { parts := parts
        maybe := list true
        list := list false
        enclosed := do
          let body ← list true
          match ← next (innerWithin depth) false true with
          | .mark ")" => return body
          | token => unexpected token (some "\")\"")
        whole := do
          let body ← list true
          match ← next (innerWithin depth) false true with
          | .ending => return body
          | token => unexpected token
        command := do
          let inner := innerWithin depth
          parseCommand inner inner.maybe (← next inner true true) }

/-- How deep words and commands may nest. -/
def deepest : Nat := 500

/-- Read the next line of commands of a script, with the lines that belong to it; there is none
at its end. -/
def parseLine : Parse (Option Command) := do
  let inner := innerWithin deepest
  let list := inner.maybe
  let mut found : Option Command := none
  for _ in [0:longestScript] do
    let token ← next inner false true
    match token with
    | .newline => return some (found.getD .nothing)
    | .ending => return found
    | _ => pure ()
    let c ← parseAndOr inner list token
    let stop ← next inner false true
    let c := match stop with
      | .mark "&" => .background c
      | _ => c
    found := some (match found with
      | none => c
      | some before => .sequence before c)
    match stop with
    | .mark "&" | .mark ";" => pure ()
    | .newline => return found
    | .ending => return found
    | token => unexpected token
  return found

end ToyLang.Shell
