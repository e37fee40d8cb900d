import ToyLang.Shell.Words
import ToyLang.Text.CharClass
import ToyLang.Tools.Basic

/-!
# Characters in place of others

The characters of a set are written one by one, as ranges, classes and repetitions.

## Main definitions

* `SetItem`, `CharSet` — written sets.
* `readItems` — the items that a text spells.
* `replacements` — which characters take the places of which.
* `tr` — characters in place of others.
-/

namespace ToyLang.Tools

open Run Text

/-! ### Written sets -/

/-- Whether a class consists of the letters of one case. -/
inductive CaseClass where
  | upper
  | lower
  deriving DecidableEq

/-- A member of a written set. -/
inductive SetItem where
  | range (first last : Char)
  | named (name : String)
  /-- The characters that count as one. -/
  | alike (c : Char)
  /-- A character so many times, or as often as needed. -/
  | times (c : Char) (count : Option Nat)
  deriving DecidableEq

/-- A written set. -/
abbrev CharSet := List SetItem

/-- All the characters that bytes can be. -/
def allChars : List Char := (List.range 256).map Char.ofNat

namespace SetItem

/-- The case of the letters that an item consists of. -/
def case? : SetItem → Option CaseClass
  | named "upper" => some .upper
  | named "lower" => some .lower
  | _ => none

/-- The characters of an item; what is repeated as often as needed is left out. -/
def chars : SetItem → List Char
  | range a b => (List.range (b.toNat + 1 - a.toNat)).map fun i => Char.ofNat (a.toNat + i)
  | named name => allChars.filter (isInClass name)
  | alike c => [c]
  | times c count => List.replicate (count.getD 0) c

/-- Whether an item is repeated as often as needed. -/
def isOpen : SetItem → Bool
  | times _ none => true
  | _ => false

end SetItem

/-! ### Reading a set -/

/-- The characters of a text with its escapes replaced, each with whether it was escaped, and the
warnings about them. -/
def unescapeSet : List Char → List (Char × Bool) × List String
  | '\\' :: c :: cs =>
      let octal := (c :: cs.take 2).takeWhile fun c => '0' ≤ c && c ≤ '7'
      let value := Nat.ofDigitChars 8 octal 0
      if octal.isEmpty then
        let (more, warnings) := unescapeSet cs
        (((Shell.letterEscape? c).getD c, true) :: more, warnings)
      else if value < 256 then
        let (more, warnings) := unescapeSet (cs.drop (octal.length - 1))
        ((Char.ofNat value, true) :: more, warnings)
      else
        let (more, warnings) := unescapeSet (cs.drop 1)
        let shown := String.ofList (octal.take 2)
        let last := String.ofList (octal.drop 2)
        ((Char.ofNat (value / 8), true) :: more,
          ("warning: the ambiguous octal escape \\" ++ shown ++ last
            ++ " is being\n\tinterpreted as the 2-byte sequence \\0" ++ shown ++ ", " ++ last)
            :: warnings)
  | ['\\'] =>
      ([('\\', false)],
        ["warning: an unescaped backslash at end of string is not portable"])
  | c :: cs =>
      let (more, warnings) := unescapeSet cs
      ((c, false) :: more, warnings)
  | [] => ([], [])
termination_by cs => cs.length
decreasing_by all_goals simp_all <;> omega

/-- A character as it is shown in a complaint. -/
def shownChar (c : Char) : String :=
  match c with
  | '\\' => "\\\\"
  | c =>
      match controlLetter? c with
      | some letter => String.ofList ['\\', letter]
      | none =>
          if ' ' ≤ c && c ≤ '~' then String.singleton c else String.ofList (octal c)

/-- Characters as they are shown in a complaint. -/
def shownChars (cs : List (Char × Bool)) : String := String.join (cs.map fun c => shownChar c.1)

/-- The characters up to a mark in front of a closing bracket, and what is behind that. -/
def takeEnclosed (mark : Char) : List (Char × Bool) →
    Option (List (Char × Bool) × List (Char × Bool))
  | [] => none
  | c :: cs =>
      if c = (mark, false) ∧ cs.head? = some (']', false) then some ([], cs.drop 1)
      else (takeEnclosed mark cs).map fun (found, rest) => (c :: found, rest)

/-- Whether a repetition goes on from its star to its end. -/
def goesOnRepeating : List (Char × Bool) → Bool
  | ('*', false) :: cs => (cs.dropWhile fun c => c.1.isDigit).head? = some (']', false)
  | _ => false

/-- The repetition of a character, given what is behind the opening bracket: the item, and what is
left. -/
def repetition? (cs : List (Char × Bool)) :
    Except String (Option (SetItem × List (Char × Bool))) :=
  match cs with
  | (c, _) :: ('*', false) :: more =>
      let count := more.takeWhile fun d => !d.2 && d.1 ≠ ']'
      match more.drop count.length with
      | (']', false) :: rest =>
          let digits := count.map Prod.fst
          let base := if digits.head? = some '0' then 8 else 10
          if digits.isEmpty then .ok (some (.times c none, rest))
          else if digits.all fun d => d.isDigit && (base = 10 || d < '8') then
            let n := Nat.ofDigitChars base digits 0
            .ok (some (.times c (if n = 0 then none else some n), rest))
          else
            .error ("invalid repeat count " ++ mentioned (shownChars count)
              ++ " in [c*n] construct")
      | _ => .ok none
  | _ => .ok none

/-- A class or a repetition, given what is behind the opening bracket: the item, and what is
left. -/
def bracketed? (cs : List (Char × Bool)) : Except String (Option (SetItem × List (Char × Bool))) :=
  match cs with
  | (mark, false) :: more =>
      if mark ≠ ':' ∧ mark ≠ '=' then repetition? cs
      else match takeEnclosed mark more with
        | none => repetition? cs
        | some (found, rest) =>
            let name := String.ofList (found.map Prod.fst)
            let again (text : String) : Except String (Option (SetItem × List (Char × Bool))) :=
              if goesOnRepeating more then repetition? cs else .error text
            if mark = ':' then
              if found.isEmpty then .error "missing character class name '[::]'"
              else if classNames.contains name then .ok (some (.named name, rest))
              else again ("invalid character class " ++ mentioned (shownChars found))
            else match found with
              | [] => .error "missing equivalence class character '[==]'"
              | [(c, _)] => .ok (some (.alike c, rest))
              | _ => again
                  (shownChars found ++ ": equivalence class operand must be a single character")
  | _ => repetition? cs

/-- The items that characters spell; each step takes one of them at least. -/
def readItems : (steps : Nat) → List (Char × Bool) → Except String CharSet
  | 0, _ | _, [] => .ok []
  | steps + 1, (c, escaped) :: cs => do
      let plain : Except String CharSet :=
        match cs with
        | ('-', false) :: (last, _) :: rest =>
            if last < c then
              .error ("range-endpoints of '" ++ shownChar c ++ "-" ++ shownChar last
                ++ "' are in reverse collating sequence order")
            else (readItems steps rest).map (.range c last :: ·)
        | _ => (readItems steps cs).map (.range c c :: ·)
      if c = '[' ∧ !escaped ∧ 2 ≤ cs.length then
        match ← bracketed? cs with
        | some (item, rest) => (readItems steps rest).map (item :: ·)
        | none => plain
      else plain

/-! ### Two sets -/

/-- The characters of a set in order; what is repeated as often as needed is repeated `count`
times. -/
def charsOf (count : Nat) (set : CharSet) : List Char :=
  set.flatMap fun item => match item with
    | .times c none => List.replicate count c
    | item => item.chars

/-- Fill a set up to a size by what may be repeated, if that is one item. -/
def filled (size : Nat) (set : CharSet) : CharSet :=
  let length := (charsOf 0 set).length
  if (set.filter SetItem.isOpen).length = 1 ∧ length ≤ size then
    set.map fun item => match item with
      | .times c none => .times c (some (size - length))
      | item => item
  else set

/-- Whether a case class of the second set begins where none of the first begins; a class is passed
over where both begin one. -/
def areMisaligned : (steps : Nat) → (first second : CharSet) → (i j : Nat) → Bool
  | 0, _, _, _, _ => false
  | steps + 1, a :: as, b :: bs, i, j =>
      match b.case?, j with
      | some _, 0 =>
          if a.case?.isSome ∧ i = 0 then areMisaligned steps as bs 0 0 else true
      | _, _ =>
          let left := a.chars.length - i
          let right := b.chars.length - j
          let n := max 1 (min left right)
          let (as, i) := if left ≤ n then (as, 0) else (a :: as, i + n)
          let (bs, j) := if right ≤ n then (bs, 0) else (b :: bs, j + n)
          areMisaligned steps as bs i j
  | _, _, _, _, _ => false

/-- Which characters take the places of which, in order; a case class meets another one as a
whole. -/
def pairsFrom : (steps : Nat) → (first second : CharSet) → (i j : Nat) → List (Char × Char)
  | 0, _, _, _, _ => []
  | steps + 1, a :: as, b :: bs, i, j =>
      match b.case?, j with
      | some case, 0 =>
          let change : Char → Char := if case = .upper then Char.toUpper else Char.toLower
          let same := a.case? = some case
          (a.chars.map fun c => (c, if same then c else change c))
            ++ pairsFrom steps as bs 0 0
      | _, _ =>
          let left := a.chars.drop i
          let right := b.chars.drop j
          let n := max 1 (min left.length right.length)
          let (as, i) := if left.length ≤ n then (as, 0) else (a :: as, i + n)
          let (bs, j) := if right.length ≤ n then (bs, 0) else (b :: bs, j + n)
          left.zip right ++ pairsFrom steps as bs i j
  | _, _, _, _, _ => []

/-- How characters are replaced. -/
structure Replacing where
  complement : Bool
  truncate : Bool

/-- The size of a set; case classes that meet others count as one character. -/
def sizeWithout (set other : CharSet) (complement : Bool) : Nat :=
  if complement || !(other.any fun item => item matches .named _) then (charsOf 0 set).length
  else set.foldl (fun n item => n + if item.case?.isSome then 1 else item.chars.length) 0

/-- Which characters take the places of which, and all those that do, or why the sets do not fit
together. -/
def replacements (t : Replacing) (first second : CharSet) :
    Except String (List (Char × Char) × List Char) := do
  let held := charsOf 0 first
  let missing := allChars.filter fun c => !held.contains c
  let domain := if t.complement then missing else held
  let second := filled domain.length second
  if 1 < (second.filter SetItem.isOpen).length then
    throw "only one [c*] repeat construct may appear in string2"
  if second.any fun item => item matches .alike _ then
    throw "[=c=] expressions may not appear in string2 when translating"
  if second.any fun item => item.case?.isNone && item matches .named _ then
    throw ("when translating, the only character classes that may appear in\n"
      ++ "string2 are 'upper' and 'lower'")
  let hasClass := second.any fun item => item matches .named _
  let steps := 2 * (held.length + (charsOf 0 second).length) + 2
  if !t.complement && hasClass && areMisaligned steps first second 0 0 then
    throw "misaligned [:upper:] and/or [:lower:] construct"
  let size := if t.complement then domain.length else sizeWithout first second false
  let size' := if t.complement then (charsOf 0 second).length else sizeWithout second second false
  let second ← if size' < size && !t.truncate then do
      if size' = 0 then throw "when not truncating set1, string2 must be non-empty"
      match second.getLast? with
      | some (.range _ last) => pure (second ++ [.times last (some (size - size'))])
      | some (.times c _) => pure (second ++ [.times c (some (size - size'))])
      | _ => throw ("when translating with string1 longer than string2,\n"
          ++ "the latter string must not end with a character class")
    else pure second
  let images := charsOf 0 second
  let isConstant := images.all fun c => some c = images.head?
  if t.complement && first.any (fun item => item matches .named _)
      && !(images.length = domain.length && isConstant) then
    throw ("when translating with complemented character classes,\n"
      ++ "string2 must map all characters in the domain to one")
  let pairs := if t.complement then domain.zip images
    else pairsFrom (2 * (held.length + images.length) + 2) first second 0 0
  return (pairs, images)

/-! ### The program -/

/-- A table of which bytes a set holds. -/
def tableOf (cs : List Char) : Array Bool :=
  cs.foldl (fun t c => t.setIfInBounds c.toNat true) (Array.replicate 256 false)

/-- Keep only one of the same characters in a row, if they are to be squeezed. -/
def squeeze (table : Array Bool) (cs : List Char) : List Char :=
  (cs.foldl (fun ((out, last) : List Char × Option Char) c =>
    if table.getD c.toNat false && last = some c then (out, last) else (c :: out, some c))
    (([] : List Char), none)).1.reverse

/-- Replace, squeeze or delete characters. -/
def tr : Tool := fun name arguments =>
  withOptions name
    { flags := "cCdst", inOrder := true
      long := [("complement", 'c', .none), ("delete", 'd', .none), ("squeeze-repeats", 's', .none),
        ("truncate-set1", 't', .none)] } arguments fun g => do
    let deletes := g.has 'd'
    let squeezes := g.has 's'
    let least := if deletes = squeezes then 2 else 1
    let most := if deletes && !squeezes then 1 else 2
    if g.operands.isEmpty then return ← missingOperand name []
    if g.operands.length < least then
      blame name ("missing operand after " ++ mentioned (g.operands.headD ""))
      complain (if squeezes then
        "Two strings must be given when both deleting and squeezing repeats.\n"
        else "Two strings must be given when translating.\n")
      return ← askForHelp name 1
    if let some extra := g.operands[most]? then
      blame name ("extra operand " ++ mentioned extra)
      if g.operands.length = 2 then
        complain "Only one string may be given when deleting without squeezing repeats.\n"
      return ← askForHelp name 1
    let mut sets : List CharSet := []
    for text in g.operands do
      let (cs, warnings) := unescapeSet text.toList
      for warning in warnings do
        blame name warning
      match readItems (cs.length + 1) cs with
      | .error fault =>
          blame name fault
          return 1
      | .ok items => sets := sets ++ [items]
    let first := sets.headD []
    let second := sets.getD 1 []
    if first.any SetItem.isOpen then
      blame name "the [c*] repeat construct may not appear in string1"
      return 1
    let complement := g.has 'c' || g.has 'C'
    let held := tableOf (charsOf 0 first)
    let isHeld (c : Char) : Bool := held.getD c.toNat false != complement
    let replaces := sets.length = 2 && !deletes
    if !replaces && second.any SetItem.isOpen then
      blame name "the [c*] construct may appear in string2 only when translating"
      return 1
    match if replaces then replacements ⟨complement, g.has 't'⟩ first second else .ok ([], charsOf 0 second) with
    | .error fault =>
        blame name fault
        return 1
    | .ok (pairs, images) =>
        match ← readAll 0 with
        | .error e =>
            blame name ("read error: " ++ e.reason)
            return 1
        | .ok text =>
            let kept := if deletes then text.toList.filter (!isHeld ·) else text.toList
            let table := pairs.foldl (fun (t : Array Char) (c, d) =>
              t.setIfInBounds c.toNat d) allChars.toArray
            let moved := if replaces then kept.map fun c => table.getD c.toNat c else kept
            let squeezed :=
              tableOf (if sets.length = 2 then images else allChars.filter isHeld)
            put (String.ofList (if squeezes then squeeze squeezed moved else moved))
            return 0

end ToyLang.Tools
