import ToyLang.Text.CharClass

/-!
# Version numbers

Texts with numbers in them compare by those: stretches of digits count as numbers, and what stands
between them compares letter by letter.  What a name of a file ends with counts only between
names that are else the same.

## Main definitions

* `compareRuns` — the order of texts by their stretches.
* `compareVersions` — the order of names.
-/

namespace ToyLang.Text

/-- The weight of what stands at a place between numbers: a tilde comes before the end, which comes
before letters, which come before all else. -/
def versionWeight : Option Char → Int
  | none => -1
  | some '~' => -2
  | some c => if c.isDigit then 0 else if c.isAlpha then c.toNat else c.toNat + 0x100

/-- The order of what stands in front of the next numbers; the texts behind it.  Each step takes a
character at least. -/
def compareWords : (steps : Nat) → List Char → List Char → Ordering × List Char × List Char
  | 0, a, b => (.eq, a, b)
  | steps + 1, a, b =>
      let isOver (cs : List Char) : Bool := (cs.head?).all Char.isDigit
      if isOver a && isOver b then (.eq, a, b)
      else
        let order := Ord.compare (versionWeight a.head?) (versionWeight b.head?)
        if order = .eq then compareWords steps (a.drop 1) (b.drop 1) else (order, a, b)

/-- The order of two texts: words and numbers in turn.  Each step takes a character at least. -/
def compareRuns : (steps : Nat) → List Char → List Char → Ordering
  | 0, _, _ => .eq
  | steps + 1, a, b =>
      if a.isEmpty && b.isEmpty then .eq
      else
        let (order, a, b) := compareWords (a.length + b.length) a b
        let number (cs : List Char) : Nat := Nat.ofDigitChars 10 (cs.takeWhile Char.isDigit) 0
        order.then ((Ord.compare (number a) (number b)).then
          (compareRuns steps (a.dropWhile Char.isDigit) (b.dropWhile Char.isDigit)))

/-- The length of what a name ends with: words behind points, each of which starts with a letter or
a tilde.  The name is given from its end, and `word` counts the letters of a word that has not met
its point. -/
def endingLength : (length word : Nat) → (starts : Bool) → List Char → Nat
  | length, _, _, [] | length, _, _, [_] => length
  | length, word, starts, c :: cs =>
      if c = '.' then
        if starts then endingLength (length + word + 1) 0 false cs else length
      else if c.isAlphanum || c = '~' then
        endingLength length (word + 1) (c.isAlpha || c = '~') cs
      else length

/-- A name without what it ends with. -/
def withoutEnding (cs : List Char) : List Char :=
  cs.take (cs.length - endingLength 0 0 false cs.reverse)

/-- The order of two names, in which those with a point in front come first. -/
def compareVersions (a b : List Char) : Ordering :=
  let rank (cs : List Char) : Nat :=
    match cs with
    | [] => 0
    | ['.'] => 1
    | ['.', '.'] => 2
    | '.' :: _ => 3
    | _ => 4
  let steps := a.length + b.length + 1
  (Ord.compare (rank a) (rank b)).then
    ((compareRuns steps (withoutEnding a) (withoutEnding b)).then (compareRuns steps a b))

end ToyLang.Text
