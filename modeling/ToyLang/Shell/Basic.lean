/-!
# Scripts

What a shell script consists of: words, which hold quoted and plain text and what is to be
put in place of it; and commands, which hold words and other commands.

All texts are raw: a character stands for one byte.

## Main definitions

* `Dialect` — the two families of shells.
* `Part`, `Param` — the parts of a word.
* `Redirect`, `Command` — commands.
-/

namespace ToyLang.Shell

/-- A family of shells: the standard one and the one with many additions. -/
inductive Dialect where
  | plain
  | extended
  deriving DecidableEq, Repr

/-- When a word stands in for the value of a parameter, and what is done with it. -/
inductive Standby where
  /-- It is used instead of a value that is missing. -/
  | instead
  /-- It is used instead, and assigned. -/
  | assigned
  /-- It is the complaint about a value that is missing. -/
  | complaint
  /-- It is used if the value is there. -/
  | alternate
  deriving DecidableEq, Repr

/-- Where in a value a pattern is replaced. -/
inductive Spot where
  | first
  | everywhere
  | atStart
  | atEnd
  deriving DecidableEq, Repr

/-- How the case of letters is changed. -/
inductive CaseChange where
  | upper
  | lower
  /-- Each letter gets the other case. -/
  | toggle
  deriving DecidableEq, Repr

/-- What a redirection does with a stream. -/
inductive Redirection where
  | read
  | write
  /-- Like `write`, also where files are not to be overwritten. -/
  | overwrite
  | append
  | readWrite
  | copyInput
  | copyOutput
  /-- Both outputs go to a file. -/
  | writeBoth
  | appendBoth
  /-- The word itself is the input. -/
  | text
  /-- The input is a document that follows in the script; it is found by its number. -/
  | document (number : Nat)
  deriving DecidableEq, Repr

/-- How a case of a choice ends. -/
inductive CaseEnd where
  | stop
  /-- The commands of the next case are run too. -/
  | runNext
  /-- The next cases are tried too. -/
  | tryNext
  deriving DecidableEq, Repr

/-- The stream that a redirection is about. -/
inductive RedirectedStream where
  | usual
  | number (n : Nat)
  /-- A free one, whose number goes to a variable. -/
  | variable (name : String)
  deriving DecidableEq, Repr

mutual

/-- A part of a word. -/
inductive Part where
  /-- Text that stands for itself. -/
  | text (cs : String) (quoted : Bool)
  /-- What a parameter stands for. -/
  | param (p : Param) (quoted : Bool)
  /-- What commands write. -/
  | output (body : Command) (quoted : Bool)
  /-- The value of an arithmetic expression. -/
  | sum (expression : List Part) (quoted : Bool)
  /-- A file that commands write to or read from. -/
  | channel (body : Command) (write : Bool)

/-- A parameter: its name, the index into it if it is a list, and how it is used. -/
inductive Param where
  | mk (name : String) (index : Option (List Part)) (use : Use)

/-- How a parameter is used. -/
inductive Use where
  | value
  | length
  /-- With a word that stands by; the flag says that an empty value counts as missing. -/
  | standby (kind : Standby) (orEmpty : Bool) (word : List Part)
  /-- Without what a pattern matches at one end. -/
  | trim (atEnd longest : Bool) (pattern : List Part)
  /-- Some of its characters. -/
  | slice (start : List Part) (count : Option (List Part))
  /-- With a text in place of what a pattern matches. -/
  | replace (spot : Spot) (pattern text : List Part)
  /-- With letters that a pattern matches in another case: the first one, or all of them. -/
  | recase (change : CaseChange) (everywhere : Bool) (pattern : List Part)
  /-- The parameter that is named by the value, used in some way. -/
  | indirect (use : Use)
  /-- The indices of a list. -/
  | indices
  /-- The names of the variables that begin with the name. -/
  | names (joined : Bool)
  /-- In a form that a letter says. -/
  | transform (form : Char)
  /-- Not a way to use a parameter. -/
  | bad (written : String)

/-- A redirection of a stream, of one whose number goes to a variable, or of the usual one for
its kind. -/
inductive Redirect where
  | mk (stream : RedirectedStream) (kind : Redirection) (target : List Part)

/-- An assignment to a variable or to a place in a list, with a word or a list of words, of which
is kept how the whole assignment is written. -/
inductive Assign where
  | word (name : String) (index : Option (List Part)) (append : Bool) (value : List Part)
  | list (name : String) (append : Bool) (values : List (List Part)) (written : String)

/-- A case of a choice, with its patterns as they are written. -/
inductive Case where
  | mk (patterns : List (List Part)) (written : String) (body : Command) (ending : CaseEnd)

/-- A condition between double brackets. -/
inductive Condition where
  | word (w : List Part)
  | unary (op : String) (w : List Part)
  | binary (op : String) (lhs rhs : List Part)
  | not (c : Condition)
  | both (a b : Condition)
  | either (a b : Condition)

/-- A command.  Where a `written` text is kept, it is how the words of the command are written. -/
inductive Command where
  | nothing
  | simple (line : Nat) (written : String) (assigns : List Assign) (words : List (List Part))
      (redirects : List Redirect)
  | pipeline (stages : List Command)
  | negated (c : Command)
  | both (a b : Command)
  | either (a b : Command)
  | sequence (a b : Command)
  | background (c : Command)
  | subshell (body : Command)
  /-- Commands in braces. -/
  | grouped (body : Command)
  | redirected (line : Nat) (written : String) (body : Command) (redirects : List Redirect)
  | branch (test body : Command) (otherwise : Option Command)
  /-- Run the body while the test succeeds, or while it fails. -/
  | loop (whileFails : Bool) (test body : Command)
  | each (line : Nat) (name written : String) (words : Option (List (List Part)))
      (body : Command)
  /-- Let the user choose one of some words. -/
  | select (line : Nat) (name written : String) (words : Option (List (List Part)))
      (body : Command)
  | choose (line : Nat) (written : String) (subject : List Part) (cases : List Case)
  | define (name : String) (line : Nat) (body : Command)
  | holds (line : Nat) (written : String) (c : Condition)
  | compute (line : Nat) (written : String) (expression : List Part)
  | count (line : Nat) (written : String) (start test step : List Part) (body : Command)
  | timed (brief : Bool) (c : Command)
  /-- A job with pipes to and from it, whose ends go to a list. -/
  | coprocess (name : String) (body : Command)

end

/-- Whether a list of words is assigned. -/
def Assign.isList : Assign → Bool
  | list _ _ _ _ => true
  | word _ _ _ _ => false

/-- A word: its parts in order.  An empty pair of quotes is an empty part. -/
abbrev Word := List Part

instance : Inhabited Command := ⟨.nothing⟩

instance : Inhabited Part := ⟨.text "" false⟩

/-- The text of a word that holds nothing but unquoted text. -/
def plainText? : Word → Option String
  | [] => none
  | [.text cs false] => some cs
  | .text cs false :: rest => (plainText? rest).map (cs ++ ·)
  | _ => none

end ToyLang.Shell
