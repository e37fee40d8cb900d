import ToyLang.Shell.Basic

/-!
# Reading a script

A script is read character by character.  Documents that redirections announce follow behind
the line that announces them, so they wait until the line is through.

## Main definitions

* `Reader` — what is left of a script, and what waits.
* `Parse` — actions that read.
* `Token`, `readToken` — what stands between blanks.
-/

namespace ToyLang.Shell

/-- What is wrong with a script. -/
inductive Flaw where
  /-- The script ends where something is expected. -/
  | ended (expected : Option String)
  /-- Something stands where it cannot: what it is, how it is written, and what is expected. -/
  | unexpected (name written : String) (expected : Option String)
  /-- What begins with a line is not closed by its mark. -/
  | unclosed (mark : String) (start : Nat)
  /-- The script ends within the commands of a substitution. -/
  | unclosedOutput
  /-- A list of words that begins with a line is not closed. -/
  | unclosedList (start : Nat)
  | other (text : String)
  deriving Repr

/-- What is wrong with a script, and in which line. -/
structure Malformed where
  line : Nat
  flaw : Flaw
  deriving Repr

/-- What is wrong, in the words of the standard shell. -/
def Flaw.plainText : Flaw → String
  | ended expected => "end of file unexpected" ++ expecting expected
  | unexpected name _ expected => name ++ " unexpected" ++ expecting expected
  | unclosed mark _ =>
      if mark = "\"" ∨ mark = "'" then "Unterminated quoted string"
      else if mark = "\x60" then "EOF in backquote substitution"
      else "Missing '" ++ mark ++ "'"
  | unclosedOutput | unclosedList _ => "Missing ')'"
  | other text => text
where
  /-- What is expected. -/
  expecting : Option String → String
    | some text => " (expecting " ++ text ++ ")"
    | none => ""

/-- What is wrong, in the words of the extended shell, given the line that holds it.  Each line
of the words comes with the line of the script that it is about.  Each line of a script counts as
ended. -/
def Malformed.extendedTexts (m : Malformed) (source : String) (isEnded : Bool) :
    List (Nat × String) :=
  let last := if isEnded then m.line else m.line + 1
  let unclosed (mark : String) : String :=
    "unexpected EOF while looking for matching \x60" ++ mark ++ "'"
  match m.flaw with
  | .ended _ => [(last, "syntax error: unexpected end of file")]
  | .unclosedOutput => [(last, unclosed ")")]
  | .unclosedList start => [(start, unclosed ")")]
  | .unexpected _ written _ =>
      [(m.line, "syntax error near unexpected token \x60" ++ written ++ "'"),
        (m.line, "\x60" ++ source ++ "'")]
  | .unclosed mark start =>
      [(start, unclosed (String.ofList (mark.toList.take 1)))]
  | .other text => [(m.line, text)]

/-- What commands consist of. -/
inductive Token where
  | ending
  | newline
  | mark (text : String)
  | redirect (stream : RedirectedStream) (mark : String)
  /-- A word, and how it is written. -/
  | word (w : Word) (written : String)
  | keyword (text : String)

/-- A document that a redirection has announced. -/
structure Awaited where
  number : Nat
  /-- The line that announces it. -/
  line : Nat
  delimiter : String
  /-- Whether the document is taken as it is. -/
  quoted : Bool
  /-- Whether tabs at the start of its lines are dropped. -/
  untabbed : Bool

/-- The state of reading. -/
structure Reader where
  rest : List Char
  line : Nat
  /-- A token that was read and put back. -/
  held : Option Token := none
  /-- The script from the last token on, and behind it. -/
  token : List Char × List Char := ([], [])
  /-- The tokens read so far, as they are written, the last one first. -/
  trail : List String := []
  awaited : List Awaited := []
  /-- The documents read so far, which are named by their numbers. -/
  documents : Array Word := #[]
  dialect : Dialect
  /-- What is odd about the script, with the lines in which it shows. -/
  warnings : List (Nat × String) := []
  /-- What stands for other text at the start of a command. -/
  aliases : List (String × String) := []
  /-- The aliases whose text is being read, with the number of characters behind it. -/
  active : List (String × Nat) := []
  /-- Whether words may hold groups of patterns. -/
  groups : Bool := false

/-- Actions that read a script. -/
abbrev Parse := EStateM Malformed Reader

/-- The rounds that a loop over a script may take.  Each takes at least one character, and no
script that is read is this long. -/
def longestScript : Nat := 10000000

/-- Refuse a script in the present line. -/
def malformed {α : Type} (flaw : Flaw) : Parse α := do
  throw ⟨(← get).line, flaw⟩

/-- The dialect in which the script is written. -/
def isExtended : Parse Bool := do return (← get).dialect = .extended

/-! ### Characters -/

/-- Drop the line breaks that a backslash takes away. -/
def dropJoins : (line : Nat) → List Char → Nat × List Char
  | line, '\\' :: '\n' :: cs => dropJoins (line + 1) cs
  | line, cs => (line, cs)

/-- The next character, left in place. -/
def peek : Parse (Option Char) := do
  let r ← get
  let (line, rest) := dropJoins r.line r.rest
  set { r with line := line, rest := rest }
  return rest.head?

/-- Whether the text goes on with some characters. -/
def looksAt (text : String) : Parse Bool := do
  discard peek
  return text.toList.isPrefixOf (← get).rest

/-- Drop the next character. -/
def skipChar : Parse Unit :=
  modify fun r => match r.rest with
    | [] => r
    | c :: cs => { r with rest := cs, line := if c = '\n' then r.line + 1 else r.line }

/-- Drop some characters. -/
def skipChars (n : Nat) : Parse Unit := do
  for _ in [0:n] do
    skipChar

/-- Take the longest run of characters of a kind, which holds no line break. -/
def takeWhile (p : Char → Bool) : Parse String := do
  discard peek
  let r ← get
  let found := r.rest.takeWhile p
  set { r with rest := r.rest.drop found.length }
  return String.ofList found

/-! ### Classes of characters -/

/-- Whether a character may begin the name of a variable. -/
def isNameStart (c : Char) : Bool := c.isAlpha || c = '_'

/-- Whether a character may stand in the name of a variable. -/
def isNameChar (c : Char) : Bool := c.isAlphanum || c = '_'

/-- Whether a text can name a variable. -/
def isVariableName (text : String) : Bool :=
  match text.toList with
  | [] => false
  | c :: cs => isNameStart c && cs.all isNameChar

/-- The characters of which marks between words are made. -/
def isMarkChar (c : Char) : Bool := [';', '&', '|', '<', '>', '(', ')'].contains c

/-- Whether a character ends a word outside of quotes. -/
def endsWord (c : Char) : Bool := c = ' ' || c = '\t' || c = '\n' || isMarkChar c

/-- The words that have a meaning of their own where a command begins. -/
def keywords : Dialect → List String
  | .plain => ["!", "\x7b", "\x7d", "case", "do", "done", "elif", "else", "esac", "fi", "for", "if",
      "in", "then", "until", "while"]
  | .extended => ["!", "\x7b", "\x7d", "case", "do", "done", "elif", "else", "esac", "fi", "for",
      "if", "in", "then", "until", "while", "function", "[[", "time", "select", "coproc"]

end ToyLang.Shell
