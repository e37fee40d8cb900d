import ToyLang.Text.CharClass

/-!
# Regular expressions

Regular expressions with groups and references to them.  Of all matches at the first place where
there is one, the longest counts.

## Main definitions

* `Regex` — regular expressions.
* `Regex.ends` — where matches from some places may end.
* `Regex.match?`, `Regex.find?` — the longest match at a place, and from a place on.
-/

namespace ToyLang.Text

/-- A regular expression. -/
inductive Regex where
  | empty
  | char (c : Char)
  | any
  | set (negated : Bool) (items : List CharItem)
  | atStart
  | atEnd
  /-- The start and the end of the whole text, whatever counts as a line. -/
  | textStart
  | textEnd
  | wordStart
  | wordEnd
  | wordEdge
  | wordInside
  /-- No word goes up to the place, or goes on there. -/
  | noWordBefore
  | noWordAfter
  | seq (a b : Regex)
  | alt (a b : Regex)
  | rep (r : Regex) (least : Nat) (most : Option Nat)
  | group (number : Nat) (r : Regex)
  | back (number : Nat)
  deriving Inhabited

/-- What is searched, and how. -/
structure Subject where
  text : Array Char
  /-- Whether upper and lower case count as the same. -/
  fold : Bool := false
  /-- What separates lines within the text, if anything does.  A line break is then no character
  that stands for any other. -/
  lines : Option Char := none
  /-- Whether the characters are more than bytes. -/
  wide : Bool := false

/-- The parts of a text that groups have matched: number, start and end. -/
abbrev Groups := List (Nat × Nat × Nat)

namespace Subject

/-- Whether a character belongs to a word. -/
def isWordChar (s : Subject) (c : Char) : Bool :=
  c.isAlphanum || c = '_' || (s.wide && isInWideClass "alnum" c)

/-- Whether a word goes up to a place. -/
def wordBefore (s : Subject) (i : Nat) : Bool := 0 < i && (s.text[i - 1]?).any s.isWordChar

/-- Whether a word goes on at a place. -/
def wordAfter (s : Subject) (i : Nat) : Bool := (s.text[i]?).any s.isWordChar

/-- The characters that count as the same as another one. -/
def variants (s : Subject) (c : Char) : List Char :=
  if !s.fold then [c]
  else if s.wide then [c, lower c, upper c]
  else [c, c.toLower, c.toUpper]

/-- Whether two characters count as the same. -/
def same (s : Subject) (c d : Char) : Bool :=
  c = d || (s.fold && if s.wide then lower c = lower d else c.toLower = d.toLower)

/-- Whether a character is one that a mark for any other stands for: it is one at all, and not a
byte that belongs to none. -/
def isWhole (s : Subject) (c : Char) : Bool :=
  !(s.wide && isStray c) && !(s.lines.isSome && c = '\n')

/-- Whether a part that stands for one character, or for a place, matches at a place; the answer
is where it ends. -/
def single? (s : Subject) (i : Nat) : Regex → Option Nat
  | .empty => some i
  | .char c => match s.text[i]? with
    | some d =>
        if (s.variants d).contains c || (s.variants c).contains d then some (i + 1) else none
    | none => none
  | .any => if (s.text[i]?).any s.isWhole then some (i + 1) else none
  | .set negated items => match s.text[i]? with
    | some d =>
        let held := (s.variants d).any fun d => items.any fun item => item.has s.wide d
        if held != negated ∧ (s.isWhole d ∨ (held ∧ d = '\n')) then some (i + 1) else none
    | none => none
  | .atStart =>
      if i = 0 ∨ (s.lines.isSome ∧ s.text[i - 1]? = s.lines) then some i else none
  | .atEnd =>
      if i = s.text.size ∨ (s.lines.isSome ∧ s.text[i]? = s.lines) then some i else none
  | .textStart => if i = 0 then some i else none
  | .textEnd => if i = s.text.size then some i else none
  | .wordStart => if !s.wordBefore i && s.wordAfter i then some i else none
  | .wordEnd => if s.wordBefore i && !s.wordAfter i then some i else none
  | .wordEdge => if s.wordBefore i != s.wordAfter i then some i else none
  | .wordInside => if s.wordBefore i == s.wordAfter i then some i else none
  | .noWordBefore => if s.wordBefore i then none else some i
  | .noWordAfter => if s.wordAfter i then none else some i
  | _ => none

/-- Where the text that a group has matched ends if it stands again at a place. -/
def again? (s : Subject) (groups : Groups) (number i : Nat) : Option Nat :=
  match groups.lookup number with
  | none => none
  | some (start, stop) =>
      let old := s.text.extract start stop
      let new := s.text.extract i (i + old.size)
      if new.size = old.size ∧ (old.toList.zip new.toList).all fun (c, d) => s.same c d then
        some (i + old.size)
      else none

end Subject

namespace Regex

/-! ### Where matches may end -/

/-- Some places without repetitions. -/
def distinct (places : List Nat) : List Nat :=
  places.foldl (fun found i => if found.contains i then found else i :: found) []

/-- The places that a step leads to from some others, once or several times; `steps` bounds how
often. -/
def reach (step : List Nat → List Nat) : (steps : Nat) → (fresh seen : List Nat) → List Nat
  | 0, _, seen => seen
  | steps + 1, fresh, seen =>
      let new := (distinct (step fresh)).filter fun i => !seen.contains i
      if new.isEmpty then seen else reach step steps new (new ++ seen)

/-- The places that a step leads to, done a number of times. -/
def times (step : List Nat → List Nat) : Nat → List Nat → List Nat
  | 0, places => places
  | n + 1, places => times step n (distinct (step places))

/-- Whether an expression matches the empty text anywhere, whatever is around it. -/
def isOptional : Regex → Bool
  | .empty => true
  | .seq a b => a.isOptional && b.isOptional
  | .alt a b => a.isOptional || b.isOptional
  | .rep r least _ => least = 0 || r.isOptional
  | .group _ r => r.isOptional
  | _ => false

/-- Whether an expression can be searched for byte by byte: it has no word marks, and its sets are
lists of single ASCII characters. -/
def isBytewise : Regex → Bool
  | .set negated items => !negated && items.all fun item => match item with
      | .range c d => c = d && c.toNat < 0x80
      | .cls _ => false
  | .wordStart | .wordEnd | .wordEdge | .wordInside | .noWordBefore | .noWordAfter => false
  | .seq a b | .alt a b => a.isBytewise && b.isBytewise
  | .rep r _ _ | .group _ r => r.isBytewise
  | _ => true

/-- Where matches from some places may end.  What a reference stands for is left open. -/
def ends (s : Subject) : Regex → List Nat → List Nat
  | .seq a b, places => b.ends s (a.ends s places)
  | .alt a b, places => distinct (a.ends s places ++ b.ends s places)
  | .group _ r, places => r.ends s places
  | .rep r least most, places =>
      let start := times (r.ends s) least places
      let steps := match most with
        | some n => n - least
        | none => s.text.size + 1
      reach (r.ends s) steps start start
  | .back _, places =>
      distinct (places.flatMap fun i => (List.range (s.text.size - i + 1)).map (i + ·))
  | r, places => places.filterMap fun i => s.single? i r

/-! ### The groups of a match -/

/-- Try to repeat something, as often as possible first. -/
def tryRepeat {α : Type}
    (act : (Nat → Groups → Option α) → Nat → Groups → Option α) :
    (steps least : Nat) → (most : Option Nat) → (Nat → Groups → Option α) → Nat → Groups → Option α
  | 0, _, _, next, i, groups => next i groups
  | steps + 1, 0, most, next, i, groups =>
      if most = some 0 then next i groups
      else
        let again (j : Nat) (groups : Groups) : Option α :=
          if j = i then none else tryRepeat act steps 0 (most.map (· - 1)) next j groups
        match act again i groups with
        | some found => some found
        | none => next i groups
  | steps + 1, least + 1, most, next, i, groups =>
      act (fun j groups => tryRepeat act steps least (most.map (· - 1)) next j groups) i groups

/-- Try the ways to match from a place, and go on with what follows. -/
def tryAt {α : Type} (s : Subject) :
    Regex → (Nat → Groups → Option α) → Nat → Groups → Option α
  | .seq a b, next, i, groups => a.tryAt s (fun j groups => b.tryAt s next j groups) i groups
  | .alt a b, next, i, groups =>
      match a.tryAt s next i groups with
      | some found => some found
      | none => b.tryAt s next i groups
  | .group number r, next, i, groups =>
      let close (j : Nat) (groups : Groups) :=
        next j ((number, i, j) :: groups.filter fun g => g.1 ≠ number)
      r.tryAt s close i groups
  | .rep r least most, next, i, groups =>
      tryRepeat (r.tryAt s) (least + s.text.size + 1) least most next i groups
  | .back number, next, i, groups =>
      match s.again? groups number i with
      | some j => next j groups
      | none => none
  | r, next, i, groups =>
      match s.single? i r with
      | some j => next j groups
      | none => none

/-- The longest match at a place: where it ends, and its groups. -/
def match? (r : Regex) (s : Subject) (i : Nat) : Option (Nat × Groups) :=
  let candidates := (r.ends s [i]).mergeSort fun a b => decide (b ≤ a)
  candidates.findSome? fun stop =>
    r.tryAt s (fun j groups => if j = stop then some (stop, groups) else none) i []

/-- The first match from a place on; `count` places are tried. -/
def findFrom (r : Regex) (s : Subject) : (count : Nat) → (i : Nat) → Option (Nat × Nat × Groups)
  | 0, _ => none
  | count + 1, i =>
      match r.match? s i with
      | some (stop, groups) => some (i, stop, groups)
      | none => findFrom r s count (i + 1)

/-- The first match from a place on: its start, its end and its groups. -/
def find? (r : Regex) (s : Subject) (i : Nat) : Option (Nat × Nat × Groups) :=
  if i ≤ s.text.size then findFrom r s (s.text.size + 1 - i) i else none

/-- The expression that matches nothing but a text. -/
def ofLiteral (text : String) : Regex := text.foldr (fun c r => .seq (.char c) r) .empty

/-- The expression that matches what one of some others does. -/
def oneOf : List Regex → Regex
  | [] => .set false []
  | [r] => r
  | r :: rs => .alt r (oneOf rs)

/-- Whether there is a match anywhere. -/
def isIn (r : Regex) (s : Subject) : Bool := (r.find? s 0).isSome

end Regex

end ToyLang.Text
