import ToyLang.Text.CharClass
import ToyLang.Text.Width

/-!
# Names in messages

Programs show names in quotes: in those of a shell, so that the name can be used again, or in those
of a printed text.  A character that cannot be shown is spelled by an escape.

## Main definitions

* `quoted` — a name in the quotes of a shell.
* `quotedIfNeeded` — the same, if it could be misread without quotes.
* `mentioned` — a name in the quotes of a printed text.
* `NameStyle` — the ways to show a name.
* `NameStyle.shown` — a name, shown in one of them.
* `textWidth` — the columns that a text takes.
-/

namespace ToyLang.Text

/-- The letter that spells a control character behind a backslash. -/
def controlLetter? (c : Char) : Option Char :=
  match c with
  | '\x07' => some 'a'
  | '\x08' => some 'b'
  | '\x0c' => some 'f'
  | '\n' => some 'n'
  | '\r' => some 'r'
  | '\t' => some 't'
  | '\x0b' => some 'v'
  | _ => none

/-- A byte in three octal digits behind a backslash. -/
def octal (c : Char) : List Char :=
  let digit (n : Nat) : Char := Char.ofNat ('0'.toNat + n % 8)
  ['\\', digit (c.toNat / 64), digit (c.toNat / 8), digit c.toNat]

/-- A character that cannot be shown, as it is spelled. -/
def spelled (c : Char) : List Char :=
  match controlLetter? c with
  | some letter => ['\\', letter]
  | none => (narrowChar c).flatMap octal

/-- The characters that have a meaning for a shell wherever they stand. -/
def shellMarks : List Char := " !\"$&'()*;<=>?[\\^\x60|".toList

/-- Whether a text could be misread without quotes by a shell. -/
def isDelicate (text : String) : Bool :=
  let cs := (widen text).toList
  cs.isEmpty || cs.any (fun c => shellMarks.contains c || !isPrintable c)
    || cs.head? = some '#' || cs.head? = some '~' || cs = ['\x7b'] || cs = ['\x7d']

/-- Whether a text means the same between double quotes as between single ones. -/
def isPlainInDouble (cs : List Char) : Bool :=
  let plain (c : Char) : Bool :=
    c.isAlphanum || c.toNat ≥ 0x80 || " %+,-./:@]_\x7b\x7d'".toList.contains c
  cs.all fun c => plain c && isPrintable c

/-- The characters of a text between single quotes, each of which may have to leave them; the flag
says that the quotes are left for escapes. -/
def betweenQuotes : (escaping : Bool) → List Char → List Char
  | true, [] => ['\'']
  | false, [] => []
  | escaping, c :: cs =>
      if c = '\'' then "'\\''".toList ++ betweenQuotes false cs
      else if isPrintable c then
        (if escaping then ['\'', '\''] else []) ++ narrowChar c ++ betweenQuotes false cs
      else (if escaping then [] else "'$'".toList) ++ spelled c ++ betweenQuotes true cs

/-- A text in the quotes of a shell. -/
def quoted (text : String) : String :=
  let cs := (widen text).toList
  if cs.contains '\'' && isPlainInDouble cs then "\"" ++ text ++ "\""
  else
    let inside := String.ofList (betweenQuotes false cs)
    "'" ++ inside ++ (if cs.getLast?.any fun c => !isPrintable c then "" else "'")

/-- A text in the quotes of a shell if a shell could misread it. -/
def quotedForShell (text : String) : String := if isDelicate text then quoted text else text

/-- A text in the quotes of a shell if it could be misread, also for its colons. -/
def quotedIfNeeded (text : String) : String :=
  if text.contains ':' then quoted text else quotedForShell text

/-- A text in the quotes of a printed text. -/
def mentioned (text : String) : String :=
  let shown (c : Char) : List Char :=
    if c = '\\' ∨ c = '’' then '\\' :: narrowChar c
    else if isPrintable c then narrowChar c
    else spelled c
  raw "‘" ++ String.ofList ((widen text).toList.flatMap shown) ++ raw "’"

/-! ### How names are shown

A name can be shown as it is, with escapes, or in quotes of several kinds. -/

/-- The ways to show a name. -/
inductive NameStyle where
  | literal
  /-- In the quotes of a shell, if it could be misread without them. -/
  | shell
  | shellAlways
  /-- In the quotes of a shell, with escapes for what cannot be shown. -/
  | shellEscape
  | shellEscapeAlways
  /-- Between double quotes, with escapes. -/
  | c
  /-- Between double quotes if there have to be escapes. -/
  | cMaybe
  /-- With escapes alone. -/
  | escape
  /-- In the quotes of a printed text, with escapes. -/
  | locale
  deriving DecidableEq

namespace NameStyle

/-- The words for the styles. -/
def words : List (List String × NameStyle) :=
  [(["literal"], .literal), (["shell"], .shell), (["shell-always"], .shellAlways),
    (["shell-escape"], .shellEscape), (["shell-escape-always"], .shellEscapeAlways), (["c"], .c),
    (["c-maybe"], .cMaybe), (["escape"], .escape), (["locale"], .locale), (["clocale"], .locale)]

/-- A character with a backslash in front if it is among some, or spelled if it cannot be shown. -/
def escaped (marks : List Char) (ch : Char) : List Char :=
  if ch ∈ marks then '\\' :: narrowChar ch
  else if isPrintable ch then narrowChar ch
  else spelled ch

/-- Whether a shell could misread a text that is shown without escapes. -/
def isDelicateAsIs (cs : List Char) : Bool :=
  cs.isEmpty || cs.any (fun ch => shellMarks.contains ch || ch ∈ ['\n', '\r', '\t'])
    || cs.head? = some '#' || cs.head? = some '~' || cs = ['\x7b'] || cs = ['\x7d']

/-- A text in the quotes of a shell, as it is. -/
def quotedAsIs (text : String) : String :=
  let cs := (widen text).toList
  if cs.contains '\'' && isPlainInDouble cs then "\"" ++ text ++ "\""
  else "'" ++ "'\\''".intercalate (text.splitOn "'") ++ "'"

/-- A name in a style; some further characters are not to stand alone. -/
def shown (s : NameStyle) (marks : List Char) (name : String) : String :=
  let cs := (widen name).toList
  let hasMark := cs.any marks.contains
  let spelledOut (more : List Char) : String :=
    String.ofList (cs.flatMap (escaped (more ++ marks)))
  let inDouble : String := "\"" ++ spelledOut ['\\', '"'] ++ "\""
  match s with
  | .literal => name
  | .shell => if hasMark || isDelicateAsIs cs then quotedAsIs name else name
  | .shellAlways => quotedAsIs name
  | .shellEscape => if hasMark || isDelicate name then quoted name else name
  | .shellEscapeAlways => quoted name
  | .c => inDouble
  | .cMaybe =>
      if hasMark || cs.any (fun ch => ch = '"' || !isPrintable ch) then inDouble else name
  | .escape => spelledOut ['\\']
  | .locale => raw "‘" ++ spelledOut ['\\', '’'] ++ raw "’"

/-- Whether a name may be shown in quotes or without them. -/
def varies : NameStyle → Bool
  | .shell | .shellEscape | .cMaybe => true
  | _ => false

/-- Whether characters that cannot be shown may stand in a name. -/
def isOpen : NameStyle → Bool
  | .literal | .shell | .shellAlways => true
  | _ => false

end NameStyle

/-- A text with question marks for what cannot be shown. -/
def maskedText (text : String) : String :=
  String.ofList ((widen text).toList.flatMap fun ch =>
    if isPrintable ch then narrowChar ch else ['?'])

/-- The columns that a text takes. -/
def textWidth (text : String) : Nat :=
  (widen text).toList.foldl (fun n ch =>
    n + if isPrintable ch then width ch else if isStray ch then 1 else 0) 0

end ToyLang.Text
