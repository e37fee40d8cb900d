import ToyLang.Text.Identifier

/-!
# Scanning

What a token is, character by character.  A scanner takes a token off the front of a text
and returns it with what is left, or refuses; none of them skips anything in front.

## Main definitions

* `skipTrivia` — drop blanks and comments.
* `takeWord?`, `takeName?`, `takeKeyword?` — words, which are taken greedily.
* `takeSymbol?` — a fixed sequence of characters.
* `takeWhole?`, `takeFractional?` — the two kinds of numeral.
-/

namespace ToyLang.Source

open Text

/-- Drop blanks and comments.  The flag says whether the text begins inside a comment; a
comment runs up to the next line feed, which is itself a blank. -/
def skipTriviaFrom : (comment : Bool) → List Char → List Char
  | _, [] => []
  | true, c :: cs => if c = '\n' then skipTriviaFrom false cs else skipTriviaFrom true cs
  | false, '/' :: '/' :: cs => skipTriviaFrom true cs
  | false, c :: cs => if isBlank c then skipTriviaFrom false cs else c :: cs

/-- Drop the blanks and comments at the front of a text. -/
def skipTrivia (cs : List Char) : List Char := skipTriviaFrom false cs

/-- Take a word, as long as it goes. -/
def takeWord? : List Char → Option (String × List Char)
  | [] => none
  | c :: cs =>
      if isStart c then
        some (String.ofList (c :: cs.takeWhile isContinue), cs.dropWhile isContinue)
      else none

/-- Take a word that is not reserved. -/
def takeName? (cs : List Char) : Option (String × List Char) :=
  (takeWord? cs).filter fun r => !isKeyword r.1

/-- Take a whole word that is the given keyword. -/
def takeKeyword? (k : Keyword) (cs : List Char) : Option (Unit × List Char) :=
  match takeWord? cs with
  | some (word, rest) => if word = k.spelling then some ((), rest) else none
  | none => none

/-- Take a fixed sequence of characters. -/
def takeSymbol? : (symbol : List Char) → List Char → Option (List Char)
  | [], cs => some cs
  | s :: symbol, c :: cs => if s = c then takeSymbol? symbol cs else none
  | _ :: _, [] => none

/-- Take an optional minus sign. -/
def takeSign : List Char → Bool × List Char
  | '-' :: cs => (true, cs)
  | cs => (false, cs)

/-- Take the digits of a whole number: a lone zero, or digits that begin with another
one. -/
def takeDigits? : List Char → Option (List Char × List Char)
  | [] => none
  | c :: cs =>
      if c = '0' then some (['0'], cs)
      else if c.isDigit then some (c :: cs.takeWhile Char.isDigit, cs.dropWhile Char.isDigit)
      else none

/-- A numeral without a fraction: its sign and its digits. -/
structure WholeNumeral where
  negative : Bool
  digits : List Char
  deriving DecidableEq, Repr

/-- The number of characters of a numeral. -/
def WholeNumeral.width (n : WholeNumeral) : Nat :=
  (if n.negative then 1 else 0) + n.digits.length

/-- A numeral with a fraction: its sign and the digits on both sides of the point. -/
structure FractionalNumeral where
  negative : Bool
  digits : List Char
  fraction : List Char
  deriving DecidableEq, Repr

/-- Take a numeral without a fraction. -/
def takeWhole? (cs : List Char) : Option (WholeNumeral × List Char) :=
  let (negative, cs) := takeSign cs
  (takeDigits? cs).map fun (digits, rest) => (⟨negative, digits⟩, rest)

/-- Take a point and the digits after it, at least one. -/
def takeFraction? : List Char → Option (List Char × List Char)
  | '.' :: c :: cs =>
      if c.isDigit then some (c :: cs.takeWhile Char.isDigit, cs.dropWhile Char.isDigit)
      else none
  | _ => none

/-- Take a numeral with a fraction. -/
def takeFractional? (cs : List Char) : Option (FractionalNumeral × List Char) :=
  (takeWhole? cs).bind fun (whole, rest) =>
    (takeFraction? rest).map fun (fraction, rest) =>
      (⟨whole.negative, whole.digits, fraction⟩, rest)

/-- Take the first symbol of a list that fits. -/
def takeOneOf? {α : Type} (token : α → String) (choices : List α) (cs : List Char) :
    Option (α × List Char) :=
  choices.findSome? fun a => (takeSymbol? (token a).toList cs).map fun rest => (a, rest)

end ToyLang.Source
