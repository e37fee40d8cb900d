import ToyLang.Text.Identifier
import ToyLang.Text.LetterCase
import ToyLang.Text.Octets
import ToyLang.Text.Width

/-!
# Classes of characters

The members of a set of characters, as patterns write them between brackets.

## Main definitions

* `isInClass` — the classes that have a name, for characters that are bytes.
* `isInWideClass` — the same for all characters.
* `CharItem` — a member of a set.
-/

namespace ToyLang.Text

/-- Whether a character belongs to a named class. -/
def isInClass (name : String) (c : Char) : Bool :=
  match name with
  | "alpha" => c.isAlpha
  | "digit" => c.isDigit
  | "alnum" => c.isAlphanum
  | "upper" => c.isUpper
  | "lower" => c.isLower
  | "space" => c = ' ' || ('\t' ≤ c && c ≤ '\r')
  | "blank" => c = ' ' || c = '\t'
  | "punct" => '!' ≤ c && c ≤ '~' && !c.isAlphanum
  | "print" => ' ' ≤ c && c ≤ '~'
  | "graph" => '!' ≤ c && c ≤ '~'
  | "cntrl" => c < ' ' || c = '\x7f'
  | "xdigit" => c.isDigit || ('a' ≤ c && c ≤ 'f') || ('A' ≤ c && c ≤ 'F')
  | _ => false

/-- The names of the classes. -/
def classNames : List String :=
  ["alpha", "digit", "alnum", "upper", "lower", "space", "blank", "punct", "print", "graph",
    "cntrl", "xdigit"]

/-- The blanks beyond ASCII at which a line may be broken. -/
def breakableRanges : Ranges :=
  [(0x1680, 0x1680), (0x2000, 0x2006), (0x2008, 0x200a), (0x205f, 0x205f), (0x3000, 0x3000)]

/-- Whether a character is a letter, or counts as one: a digit beyond ASCII does. -/
def isWideLetter (c : Char) : Bool :=
  if c.toNat < 0x80 then c.isAlpha
  else identifierStartRanges.hasChar c
    || (identifierMarkRanges.hasChar c && width c ≠ 0 && c ≠ '·' && c ≠ '·')

/-- Whether a character controls something instead of being shown. -/
def isWideControl (c : Char) : Bool :=
  c < ' ' || ('\x7f' ≤ c && c.toNat < 0xa0) || c = '\u2028' || c = '\u2029'

/-- Whether a character can be shown. -/
def isPrintable (c : Char) : Bool := !isWideControl c && !isStray c

/-- Whether a character belongs to a named class, if characters beyond ASCII may. -/
def isInWideClass (name : String) (c : Char) : Bool :=
  if c.toNat < 0x80 then isInClass name c
  else if isStray c then false
  else
    let blank := breakableRanges.hasChar c
    match name with
    | "alpha" | "alnum" => isWideLetter c
    | "upper" => lower c ≠ c
    | "lower" => upper c ≠ c || c = 'ß'
    | "space" => blank || c = '\u2028' || c = '\u2029'
    | "blank" => blank
    | "punct" => isPrintable c && !blank && !isWideLetter c
    | "print" => isPrintable c
    | "graph" => isPrintable c && !blank
    | "cntrl" => isWideControl c
    | _ => false

/-- A member of a set of characters. -/
inductive CharItem where
  | range (lowest highest : Char)
  | cls (name : String)
  deriving DecidableEq, Repr

/-- Whether an item holds a character.  The flag says that characters are more than bytes. -/
def CharItem.has (wide : Bool) (c : Char) : CharItem → Bool
  | range lowest highest => lowest ≤ c && c ≤ highest
  | cls name => if wide then isInWideClass name c else isInClass name c

end ToyLang.Text
