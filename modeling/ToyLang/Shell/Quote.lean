import ToyLang.Process.Machine
import ToyLang.Shell.Basic
import ToyLang.Text.CharClass

/-!
# How a shell shows what it holds

Texts are shown by the extended shell in quotes, in a form in which they can be read again.

A command is printed in a layout of its own, not in the one in which it was written.  Commands that
follow one another stand on lines of their own, indented by what they stand in.

## Main definitions

* `singleQuoted`, `doubleQuoted`, `escapeQuoted` — the kinds of quotes.
* `reusable`, `maybeQuoted` — a text in the quotes that it needs.
* `declaration` — a variable as the command that makes it.
* `printed`, `printedFunction` — a command, and the definition of a function.
-/

namespace ToyLang.Shell

/-! ### Quotes -/

/-- A text in single quotes. -/
def singleQuoted (text : String) : String :=
  "'" ++ "'\\''".intercalate (text.splitOn "'") ++ "'"

/-- A text in double quotes. -/
def doubleQuoted (text : String) : String :=
  "\"" ++ String.ofList (text.toList.flatMap fun c =>
    if ['"', '\\', '$', '\x60'].contains c then ['\\', c] else [c]) ++ "\""

/-- Whether a character has to be spelled by an escape. -/
def needsEscape (c : Char) : Bool := !Text.isPrintable c

/-- A byte in three octal digits. -/
def octalEscape (c : Char) : List Char :=
  let digit (n : Nat) : Char := Char.ofNat ('0'.toNat + n % 8)
  ['\\', digit (c.toNat / 64), digit (c.toNat / 8), digit c.toNat]

/-- A character as it is spelled between extended quotes. -/
def escapeSpelling (c : Char) : List Char :=
  match c with
  | '\n' => ['\\', 'n']
  | '\t' => ['\\', 't']
  | '\r' => ['\\', 'r']
  | '\x07' => ['\\', 'a']
  | '\x08' => ['\\', 'b']
  | '\x0b' => ['\\', 'v']
  | '\x0c' => ['\\', 'f']
  | '\x1b' => ['\\', 'E']
  | '\\' => ['\\', '\\']
  | '\'' => ['\\', '\'']
  | c => if needsEscape c then (Text.narrowChar c).flatMap octalEscape else Text.narrowChar c

/-- A text in extended quotes, with escapes. -/
def escapeQuoted (text : String) : String :=
  "$'" ++ String.ofList ((Text.widen text).toList.flatMap escapeSpelling) ++ "'"

/-- Whether a text has to be spelled with escapes. -/
def hasEscapes (text : String) : Bool := (Text.widen text).toList.any needsEscape

/-- A text in quotes, from which it can be read again. -/
def reusable (text : String) : String :=
  if hasEscapes text then escapeQuoted text else singleQuoted text

/-- The characters that have a meaning of their own in a script. -/
def metaChars : List Char :=
  [' ', '\t', '\n', '\'', '"', '\\', '|', '&', ';', '(', ')', '<', '>', '!', '\x7b', '\x7d', '*',
    '[', ']', '?', '^', '$', '\x60']

/-- Whether a text means something else where it is read without quotes. -/
def hasMetaChars (text : String) : Bool :=
  text.toList.any metaChars.contains || text.startsWith "~" || text.startsWith "#"
    || ((text.splitOn ":~").length > 1) || ((text.splitOn "=~").length > 1)

/-- A text in quotes, if it needs them. -/
def maybeQuoted (text : String) : String :=
  if hasEscapes text then escapeQuoted text
  else if hasMetaChars text then singleQuoted text
  else text

/-- A text with a backslash in front of every character that has a meaning of its own. -/
def backslashQuoted (text : String) : String :=
  let rec quote (before : Option Char) : List Char → List Char
    | [] => []
    | c :: cs =>
        let first := before.isNone
        let opens := c = '~' && (first || before = some ':' || before = some '=')
        let special := c = ',' || metaChars.contains c || opens || (first && c = '#')
        (if special then ['\\', c] else [c]) ++ quote (some c) cs
  String.ofList (quote none text.toList)

/-- A text with what it takes to be read again as one word. -/
def asWord (text : String) : String :=
  if text = "" then "''"
  else if hasEscapes text then escapeQuoted text
  else backslashQuoted text

/-- A text as it is shown in a declaration. -/
def declaredText (text : String) : String :=
  if hasEscapes text then escapeQuoted text else doubleQuoted text

/-- An index as it is shown in a declaration. -/
def declaredIndex (text : String) : String :=
  if hasEscapes text then escapeQuoted text
  else if hasMetaChars text ∨ text = "" then doubleQuoted text
  else text

/-- A list as it is shown in a declaration. -/
def declaredList (keyed : Bool) (entries : List (String × String)) : String :=
  "(" ++ " ".intercalate
    (entries.map fun (i, s) => "[" ++ declaredIndex i ++ "]=" ++ declaredText s)
    ++ (if keyed && !entries.isEmpty then " )" else ")")

/-- The indices and texts of a list, each behind the other. -/
def pairedList (keyed : Bool) (entries : List (String × String)) : String :=
  " ".intercalate (entries.map fun (i, s) => declaredIndex i ++ " " ++ declaredText s)
    ++ (if keyed && !entries.isEmpty then " " else "")

/-- The letters for what is special about a variable. -/
def letters (v : Variable) : String :=
  (match v.value with
    | .list true _ => "A"
    | .list false _ => "a"
    | _ => "")
  ++ (if v.isNumber then "i" else "") ++ (if v.isReference then "n" else "")
  ++ (if v.fixed then "r" else "") ++ (if v.isTraced then "t" else "")
  ++ (if v.exported then "x" else "")
  ++ (match v.upper with
    | none => ""
    | some upper => if upper then "u" else "l")

/-- A variable as the command that makes it. -/
def declaration (name : String) (v : Variable) : String :=
  let letters := letters v
  let text := match v.value with
    | .unset => ""
    | .text s => "=" ++ declaredText s
    | .list keyed entries => if v.isBare then "" else "=" ++ declaredList keyed entries
  "declare -" ++ (if letters = "" then "-" else letters) ++ " " ++ name ++ text

/-- The value of a variable in an assignment to it. -/
def assignedText : Value → Option String
  | .unset => none
  | .text s => some (maybeQuoted s)
  | .list keyed entries => some (declaredList keyed entries)

/-! ### Commands -/

/-- The blanks in front of a line. -/
def margin (indent : Nat) : String := String.ofList (List.replicate indent ' ')

/-- The blanks by which a line is indented more than the ones around it. -/
def indentStep : Nat := 4

/-- A new line that begins with a text. -/
def lineOf (indent : Nat) (text : String) : String := "\n" ++ margin indent ++ text

/-- A text with a semicolon behind it, unless it ends in a way that makes one needless. -/
def closed (text : String) : String :=
  if text.endsWith "&" ∨ text.endsWith "\n" then text else text ++ ";"

/-- A body on lines of its own, which are indented more. -/
def nested (indent : Nat) (body : String) : String := margin (indent + indentStep) ++ body

mutual

/-- A command, the first line of which is not indented. -/
def printed (indent : Nat) : Command → String
  | .nothing => ""
  | .simple _ written _ _ _ => written
  | .pipeline stages => " | ".intercalate (printedStages indent stages)
  | .negated c => "! " ++ printed indent c
  | .both a b => printed indent a ++ " && " ++ printed indent b
  | .either a b => printed indent a ++ " || " ++ printed indent b
  | .sequence a b =>
      let first := printed indent a
      if first.endsWith "&" then first ++ " " ++ printed indent b
      else first ++ ";\n" ++ margin indent ++ printed indent b
  | .background c => printed indent c ++ " &"
  | .subshell body => "( " ++ printed indent body ++ " )"
  | .grouped body =>
      "\x7b \n" ++ nested indent (printed (indent + indentStep) body) ++ lineOf indent "\x7d"
  | .redirected _ written body _ => printed indent body ++ " " ++ written
  | .branch test body otherwise =>
      let more := match otherwise with
        | none => ""
        | some c =>
            ";" ++ lineOf indent "else\n" ++ nested indent (printed (indent + indentStep) c)
      closed ("if " ++ closed (printed indent test) ++ " then\n"
        ++ nested indent (printed (indent + indentStep) body) ++ more) ++ lineOf indent "fi"
  | .loop whileFails test body =>
      (if whileFails then "until " else "while ") ++ closed (printed indent test) ++ " do\n"
        ++ closed (nested indent (printed (indent + indentStep) body)) ++ lineOf indent "done"
  | .each _ name written _ body =>
      "for " ++ name ++ " in " ++ written ++ ";" ++ lineOf indent "do\n"
        ++ closed (nested indent (printed (indent + indentStep) body)) ++ lineOf indent "done"
  | .select _ name written _ body =>
      "select " ++ name ++ " in " ++ written ++ ";" ++ lineOf indent "do\n"
        ++ closed (nested indent (printed (indent + indentStep) body)) ++ lineOf indent "done"
  | .choose _ written _ cases =>
      "case " ++ written ++ " in " ++ printedCases indent cases ++ lineOf indent "esac"
  | .define name _ body =>
      "function " ++ name ++ " () " ++ lineOf indent "\x7b \n"
        ++ nested indent (printedBody (indent + indentStep) body) ++ lineOf indent "\x7d"
  | .holds _ written _ => "[[ " ++ written ++ " ]]"
  | .compute _ written _ => "((" ++ written ++ "))"
  | .count _ written _ _ _ body =>
      "for ((" ++ written ++ "))" ++ lineOf indent "do\n"
        ++ closed (nested indent (printed (indent + indentStep) body)) ++ lineOf indent "done"
  | .timed brief c => (if brief then "time -p " else "time ") ++ printed indent c
  | .coprocess name body => "coproc " ++ name ++ " " ++ printed indent body

/-- Some commands. -/
def printedStages (indent : Nat) : List Command → List String
  | [] => []
  | c :: cs => printed indent c :: printedStages indent cs

/-- The cases of a choice. -/
def printedCases (indent : Nat) : List Case → String
  | [] => ""
  | .mk _ written body ending :: cases =>
      let mark := match ending with
        | .stop => ";;"
        | .runNext => ";&"
        | .tryNext => ";;&"
      let action := match body with
        | .nothing => ""
        | body => nested (indent + indentStep) (printed (indent + 2 * indentStep) body)
      lineOf (indent + indentStep) (written ++ ")\n") ++ action
        ++ lineOf (indent + indentStep) mark ++ printedCases indent cases

/-- The commands of the body of a function, without the braces around them. -/
def printedBody (indent : Nat) : Command → String
  | .grouped body => printed indent body
  | c => printed indent c

end

/-- The definition of a function. -/
def printedFunction (name : String) (body : Command) : String :=
  let closing (text : String) : String :=
    name ++ " () \n\x7b \n" ++ nested 0 text ++ "\n\x7d"
  match body with
  | .redirected _ written (.grouped body) _ =>
      closing (printed indentStep body) ++ " " ++ written ++ "\n"
  | body => closing (printedBody indentStep body) ++ "\n"

end ToyLang.Shell
