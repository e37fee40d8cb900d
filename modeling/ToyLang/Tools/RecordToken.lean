import ToyLang.Binary64.Text
import ToyLang.Format.Number
import ToyLang.Tools.RecordPattern
import ToyLang.Tools.RecordScript

/-!
# Tokens of scripts on records

Where a token stands decides what some marks mean: a slash divides behind a value and begins an
expression elsewhere, and a greater-than sign in a printing statement says where output goes.  A
closing brace that follows no end of a statement gets one supplied.

## Main definitions

* `RecordToken` — the tokens.
* `RecordReader`, `ReadRecord` — what is left of a script, and the actions that read it.
* `RecordReader.take`, `RecordReader.peek` — the next token.
-/

namespace ToyLang.Tools

open Text (Regex)

/-- A token of a script. -/
inductive RecordToken where
  | ending
  | newline
  | number (x : Float) (spelling : String)
  | text (s : String)
  | regex (source : String) (r : Regex)
  | word (name : String)
  /-- A name right behind a dollar sign. -/
  | fieldWord (name : String)
  /-- A variable that belongs to the fields. -/
  | fieldVar (name : String)
  | field (index : Float)
  | callee (name : String)
  | builtin (name : String)
  | keyword (name : String)
  | mark (text : String)
  /-- The mark in front of the place that output goes to. -/
  | sink (text : String)
  /-- The mark in front of the file that a line is read from. -/
  | input
  /-- The end of a statement that is supplied before a closing brace. -/
  | supplied
  | strange (c : Char)
  deriving Inhabited

namespace RecordToken

/-- A token as it is named in complaints. -/
def name : RecordToken → String
  | ending => "end of file"
  | newline => "end of line"
  | number _ spelling => spelling
  | text s => s
  | regex source _ => "/" ++ source ++ "/"
  | word w | fieldWord w | callee w | builtin w | keyword w => w
  | fieldVar _ | field _ => "$"
  | mark m | sink m => m
  | input => "<"
  | supplied => "\x7d"
  | strange c => String.singleton c

/-- Whether a token ends a statement. -/
def isSeparator : RecordToken → Bool
  | newline | supplied | mark ";" => true
  | _ => false

/-- Whether a slash behind a token divides. -/
def allowsDivision : RecordToken → Bool
  | number _ _ | text _ | regex _ _ | word _ | fieldWord _ | fieldVar _ | field _ => true
  | keyword name => name = "getline"
  | mark m => [")", "]", "++", "--"].contains m
  | _ => false

end RecordToken

/-- The marks of a script, longer ones first. -/
def recordMarks : List String :=
  ["&&", "||", "++", "--", "+=", "-=", "*=", "/=", "%=", "^=", "==", "<=", ">=", "!=", "!~",
    "\x7b", "\x7d", "(", ")", "[", "]", ";", ",", "+", "-", "*", "/", "%", "^", "!", ">", "<", "|",
    "?", ":", "~", "$", "="]

/-- The words with a meaning of their own. -/
def recordKeywords : List String :=
  ["BEGIN", "END", "function", "if", "else", "while", "for", "do", "break", "continue",
    "next", "nextfile", "exit", "return", "delete", "in", "getline", "print", "printf"]

/-- The variables that belong to the fields. -/
def recordFieldVars : List String := ["NF", "RS", "FS", "CONVFMT", "OFMT"]

/-- The functions that every script has, with the least and the largest number of arguments. -/
def recordBuiltins : List (String × Nat × Nat) :=
  [("length", 0, 1), ("substr", 2, 3), ("index", 2, 2), ("split", 2, 3), ("sub", 2, 3),
    ("gsub", 2, 3), ("match", 2, 2), ("sprintf", 1, 255), ("sin", 1, 1), ("cos", 1, 1),
    ("atan2", 2, 2), ("exp", 1, 1), ("log", 1, 1), ("sqrt", 1, 1), ("int", 1, 1), ("rand", 0, 0),
    ("srand", 0, 1), ("tolower", 1, 1), ("toupper", 1, 1), ("system", 1, 1), ("close", 1, 1),
    ("fflush", 0, 1), ("strftime", 0, 3), ("mktime", 1, 1), ("systime", 0, 0)]

/-- What part of a script is being read. -/
inductive RecordScope where
  | beginning
  | main
  | ending
  | function
  deriving DecidableEq

/-- A call of a function of the script: where it stands, and what is known of its arguments. -/
structure RecordCall where
  line : Nat
  name : String
  arguments : List (Option RecordNameKind)

/-- Why reading goes on elsewhere, or nowhere. -/
inductive RecordStop where
  | unexpected
  | over

/-- What is left of a script, and what is known of the part before. -/
structure RecordReader where
  rest : List Char
  line : Nat := 1
  /-- The line of the last token. -/
  tokenLine : Nat := 1
  held : Option RecordToken := none
  last : RecordToken := .newline
  braces : Nat := 0
  parens : Nat := 0
  /-- Whether a greater-than sign says where output goes. -/
  isPrinting : Bool := false
  /-- Whether a less-than sign says where a line is read from. -/
  isReading : Bool := false
  /-- What is wrong with the script, the last first. -/
  complaints : List String := []
  names : List (String × RecordNameKind) := []
  /-- The parameters of the function that is read, with what is known of them. -/
  params : List (String × Option RecordNameKind) := []
  scope : RecordScope := .main
  loops : Nat := 0
  calls : List RecordCall := []

/-- Actions that read a script. -/
abbrev ReadRecord := EStateM RecordStop RecordReader

namespace RecordReader

/-- The rounds that a loop over a script may take. -/
def longest : Nat := 1000000

/-- The number of complaints after which reading ends. -/
def mostComplaints : Nat := 5

/-- Say what is wrong. -/
def say (text : String) : ReadRecord Unit := do
  modify fun r => { r with complaints := text :: r.complaints }
  if mostComplaints ≤ (← get).complaints.length then throw .over

/-- Say what is wrong in the line of the last token. -/
def sayHere (text : String) : ReadRecord Unit := do
  say ("line " ++ toString (← get).tokenLine ++ ": " ++ text)

/-- Put a token back. -/
def giveBack (t : RecordToken) : ReadRecord Unit := modify fun r => { r with held := some t }

/-- Refuse a token, which stays the next one. -/
def refuse {α : Type} (t : RecordToken) : ReadRecord α := do
  giveBack t
  let r ← get
  match t with
  | .strange c =>
      say (toString r.tokenLine ++ ": unexpected character '" ++ String.singleton c ++ "'")
  | t =>
      if 0 < r.parens ∧ t.isSeparator then
        modify fun r => { r with parens := 0 }
        sayHere ("missing ) near " ++ t.name)
      else match t with
        | .ending =>
            if 0 < r.braces then sayHere ("missing \x7d near " ++ t.name)
            else sayHere ("syntax error at or near " ++ t.name)
        | t => sayHere ("syntax error at or near " ++ t.name)
  throw .unexpected

/-- Go on with some characters. -/
def goOn (cs : List Char) : ReadRecord Unit := modify fun r => { r with rest := cs }

/-- Pass over blanks, comments, and line breaks behind a backslash. -/
def skipBlanks : ReadRecord Unit := do
  for _ in [0:longest] do
    match (← get).rest with
    | '\\' :: '\n' :: rest => modify fun r => { r with rest := rest, line := r.line + 1 }
    | '#' :: rest => goOn (rest.dropWhile (· ≠ '\n'))
    | c :: rest =>
        if c ≠ '\n' ∧ (c = ' ' ∨ ('\t' ≤ c ∧ c ≤ '\r')) then goOn rest
        else break
    | [] => break

/-- Pass over line breaks too. -/
def skipLines : ReadRecord Unit := do
  for _ in [0:longest] do
    skipBlanks
    match (← get).rest with
    | '\n' :: rest => modify fun r => { r with rest := rest, line := r.line + 1 }
    | _ => break

/-- Pass over a semicolon. -/
def skipSemicolon : ReadRecord Unit := do
  skipBlanks
  match (← get).rest with
  | ';' :: rest => goOn rest
  | _ => pure ()

/-- The start of a text that is shown where its end is missing. -/
def beginning (cs : List Char) : String := String.ofList (cs.take 10)

/-- Take a text up to its closing quote. -/
def scanText (cs : List Char) : ReadRecord RecordToken := do
  let rec cut : List Char → List Char → Option (List Char × List Char)
    | _, [] | _, '\n' :: _ => none
    | found, '"' :: cs => some (found.reverse, cs)
    | found, '\\' :: '\n' :: cs => cut found cs
    | found, '\\' :: c :: cs => cut (c :: '\\' :: found) cs
    | found, c :: cs => cut (c :: found) cs
  match cut [] cs with
  | some (found, rest) =>
      goOn rest
      return .text (String.ofList (recordUnescaped (found.length + 1) found))
  | none =>
      sayHere ("runaway string constant \"" ++ beginning (cs.takeWhile (· ≠ '\n')) ++ " ...")
      throw .over

/-- Take an expression up to its closing slash. -/
def scanRegex (cs : List Char) : ReadRecord RecordToken := do
  let rec cut : (inSet : Bool) → List Char → List Char → Except (List Char) (List Char × List Char)
    | _, found, [] | _, found, '\n' :: _ => .error found.reverse
    | inSet, found, '\\' :: '/' :: cs => cut inSet ('/' :: found) cs
    | inSet, found, '\\' :: '\n' :: cs => cut inSet found cs
    | inSet, found, '\\' :: c :: cs => cut inSet (c :: '\\' :: found) cs
    | inSet, found, c :: cs =>
        if c = '/' ∧ !inSet then .ok (found.reverse, cs)
        else if c = '[' ∧ !inSet then
          -- A bracket that closes a set may stand first in it.
          match cs with
          | ']' :: cs => cut true (']' :: '[' :: found) cs
          | '^' :: ']' :: cs => cut true (']' :: '^' :: '[' :: found) cs
          | cs => cut true ('[' :: found) cs
        else if c = ']' ∧ inSet ∧ found.head? ≠ some ':' then cut false (c :: found) cs
        else cut inSet (c :: found) cs
  match cut false [] cs with
  | .error found =>
      sayHere ("runaway regular expression /" ++ beginning found ++ " ...")
      throw .over
  | .ok (found, rest) =>
      goOn rest
      let source := String.ofList found
      match recordRegex? source with
      | .ok r => return .regex source r
      | .error fault =>
          sayHere ("regular expression compile failed (" ++ fault ++ ")\n" ++ source)
          return .regex source .empty

/-- The digits of a number at the start of some characters. -/
def numberSpelling (cs : List Char) : List Char :=
  let whole := cs.takeWhile Char.isDigit
  let rest := cs.drop whole.length
  let fraction := match rest with
    | '.' :: more => '.' :: more.takeWhile Char.isDigit
    | _ => []
  let rest := rest.drop fraction.length
  let exponent := match rest with
    | e :: more =>
        if e = 'e' ∨ e = 'E' then
          let (sign, more) := match more with
            | '+' :: more => (['+'], more)
            | '-' :: more => (['-'], more)
            | more => ([], more)
          let digits := more.takeWhile Char.isDigit
          if digits.isEmpty then [] else e :: sign ++ digits
        else []
    | [] => []
  whole ++ fraction ++ exponent

/-- The number that a spelling stands for. -/
def spelledNumber (spelling : List Char) : Float :=
  Float.ofBits (Format.readFraction (String.ofList spelling)).value.bits

/-- Whether characters begin a number. -/
def beginsNumber : List Char → Bool
  | '.' :: c :: _ => c.isDigit
  | c :: _ => c.isDigit
  | [] => false

/-- Take a word, which stands at the start of what is left. -/
def scanWord (cs : List Char) : ReadRecord RecordToken := do
  let chars := cs.takeWhile fun c => c.isAlphanum || c = '_'
  let rest := cs.drop chars.length
  let name := String.ofList chars
  goOn rest
  let r ← get
  let isField := match r.last with
    | .mark "$" => true
    | _ => false
  if recordKeywords.contains name then
    if name = "getline" then modify fun r => { r with isReading := true }
    return .keyword name
  if recordFieldVars.contains name then return .fieldVar name
  if (recordBuiltins.lookup name).isSome then return .builtin name
  if (r.params.lookup name).isNone then
    if r.names.lookup name = some .function then return .callee name
    if (r.names.lookup name).isNone ∧ rest.head? = some '(' then
      modify fun r => { r with names := (name, .function) :: r.names }
      return .callee name
  return if isField then .fieldWord name else .word name

/-- Take a mark, and do what it does to those that follow. -/
def scanMark (m : String) (before rest : List Char) : ReadRecord (Option RecordToken) := do
  goOn rest
  let r ← get
  let one (act : RecordReader → RecordReader) : ReadRecord (Option RecordToken) := do
    modify act
    return some (.mark m)
  match m with
  | "\x7b" =>
      skipLines
      one fun r => { r with braces := r.braces + 1 }
  | "\x7d" =>
      if r.braces = 0 then
        sayHere "extra '\x7d'"
        skipSemicolon
        return none
      let isEnded := match r.last with
        | .mark "\x7d" => true
        | t => t.isSeparator
      if isEnded then
        modify fun r => { r with braces := r.braces - 1 }
        if r.braces = 1 then skipSemicolon
        skipLines
        return some (.mark m)
      goOn before
      return some .supplied
  | "(" => one fun r => { r with parens := r.parens + 1 }
  | ")" =>
      if r.parens = 0 then
        sayHere "extra ')'"
        return none
      one fun r => { r with parens := r.parens - 1 }
  | ";" | "," | "&&" | "||" =>
      skipLines
      return some (.mark m)
  | ">" =>
      if r.isPrinting ∧ r.parens = 0 then
        modify fun r => { r with isPrinting := false }
        match rest with
        | '>' :: rest =>
            goOn rest
            return some (.sink ">>")
        | _ => return some (.sink ">")
      return some (.mark m)
  | "|" =>
      if r.isPrinting ∧ r.parens = 0 then
        modify fun r => { r with isPrinting := false }
        return some (.sink "|")
      return some (.mark m)
  | "<" =>
      if r.isReading then
        modify fun r => { r with isReading := false }
        return some .input
      return some (.mark m)
  | "$" =>
      skipBlanks
      let cs := (← get).rest
      if beginsNumber cs then
        let spelling := numberSpelling cs
        goOn (cs.drop spelling.length)
        return some (.field (spelledNumber spelling))
      return some (.mark m)
  | m => return some (.mark m)

/-- Read a token, unless what stands here is none. -/
def scanOne : ReadRecord (Option RecordToken) := do
  skipBlanks
  modify fun r => { r with tokenLine := r.line }
  let r ← get
  match r.rest with
  | [] => return some .ending
  | '\n' :: rest =>
      modify fun r => { r with rest := rest, line := r.line + 1 }
      skipLines
      return some .newline
  | '"' :: rest => return some (← scanText rest)
  | c :: rest =>
      if c.isAlpha ∨ c = '_' then return some (← scanWord r.rest)
      if beginsNumber r.rest then
        let spelling := numberSpelling r.rest
        goOn (r.rest.drop spelling.length)
        return some (.number (spelledNumber spelling) (String.ofList spelling))
      if c = '/' ∧ !r.last.allowsDivision then return some (← scanRegex rest)
      match recordMarks.find? fun m => m.toList.isPrefixOf r.rest with
      | some m => scanMark m r.rest (r.rest.drop m.length)
      | none =>
          goOn rest
          return some (.strange c)

/-- Take the next token. -/
def take : ReadRecord RecordToken := do
  match (← get).held with
  | some t =>
      modify fun r => { r with held := none }
      return t
  | none =>
      for _ in [0:longest] do
        match ← scanOne with
        | some t =>
            modify fun r => { r with last := t }
            return t
        | none => pure ()
      throw .over

/-- The next token, left in place. -/
def peek : ReadRecord RecordToken := do
  let t ← take
  giveBack t
  return t

/-- Whether a mark comes next. -/
def looksAt (m : String) : ReadRecord Bool := do
  match ← peek with
  | .mark n => return n = m
  | _ => return false

/-- Take a mark if it comes next. -/
def accept (m : String) : ReadRecord Bool := do
  if ← looksAt m then
    discard take
    return true
  return false

/-- Take a keyword if it comes next. -/
def acceptWord (name : String) : ReadRecord Bool := do
  match ← peek with
  | .keyword w =>
      if w = name then
        discard take
        return true
      return false
  | _ => return false

/-- Take a mark. -/
def expect (m : String) : ReadRecord Unit := do
  if !(← accept m) then refuse (← take)

/-- Take the end of a statement. -/
def expectSeparator : ReadRecord Unit := do
  let t ← take
  if !t.isSeparator then refuse t
  modify fun r => { r with isPrinting := false }

end RecordReader

end ToyLang.Tools
