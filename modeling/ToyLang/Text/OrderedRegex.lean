import ToyLang.Text.Regex

/-!
# Regular expressions whose ways are tried in order

Here the first match that is found counts, and not the longest: alternatives are tried in order, and
a repetition says whether it takes as much or as little as it can.  An expression may also look at
what is around a place, call its own groups, and move the start of the match.

## Main definitions

* `OrderedRegex` — regular expressions of this kind.
* `OrderedRegex.find?` — the first match from a place on.
* `OrderedRegex.fixedLength?` — how long all matches are.
-/

namespace ToyLang.Text

/-- A member of a set of characters. -/
inductive OrderedItem where
  | range (lowest highest : Char)
  | cls (name : String) (negated : Bool)
  deriving DecidableEq

/-- How much a repetition takes. -/
inductive Greed where
  | most
  | least
  deriving DecidableEq

/-- What is given up where no other way is tried. -/
inductive OrderedCut where
  /-- The whole search. -/
  | search
  /-- The place where the match started. -/
  | place
  /-- All places up to this one. -/
  | upToHere
  /-- The alternative. -/
  | branch
  /-- Nothing, since the match ends here. -/
  | rest
  deriving DecidableEq

/-- A regular expression whose ways are tried in order. -/
inductive OrderedRegex where
  | empty
  | char (fold : Bool) (c : Char)
  /-- Any character, line breaks included or not. -/
  | any (breaks : Bool)
  | set (fold negated : Bool) (items : List OrderedItem)
  /-- The start or the end of a line, or of the whole text. -/
  | atStart (lines : Bool)
  | atEnd (lines : Bool)
  | textEnd
  /-- The place where the search starts. -/
  | searchStart
  | wordEdge (negated : Bool)
  | seq (a b : OrderedRegex)
  | alt (a b : OrderedRegex)
  | rep (r : OrderedRegex) (least : Nat) (most : Option Nat) (greed : Greed)
  | group (number : Nat) (r : OrderedRegex)
  | back (fold : Bool) (number : Nat)
  /-- What a group stands for, or the whole expression. -/
  | call (number : Nat)
  /-- Only the first way. -/
  | once (r : OrderedRegex)
  | ahead (negated : Bool) (r : OrderedRegex)
  | behind (negated : Bool) (r : OrderedRegex)
  /-- The match starts here. -/
  | keep
  /-- One or the other, by whether a group has matched; zero asks whether this is a call. -/
  | choose (number : Nat) (yes no : OrderedRegex)
  /-- No other way is tried once the rest has failed. -/
  | cut (kind : OrderedCut)
  deriving Inhabited

/-- What is known in the middle of a match. -/
structure OrderedState where
  groups : Groups := []
  start : Nat
  /-- The place from which the match is tried. -/
  origin : Nat

/-- What a match takes place in. -/
structure OrderedScene where
  subject : Subject
  /-- Where the search started. -/
  origin : Nat
  /-- What groups stand for; the whole expression has the number zero. -/
  groups : List (Nat × OrderedRegex)
  /-- Whether a group is being called. -/
  called : Bool := false

/-- What trying has come to. -/
inductive OrderedOutcome where
  /-- The place behind a match, with what is known there. -/
  | found (place : Nat) (state : OrderedState)
  | failed
  /-- No other way is tried within the alternative. -/
  | left
  /-- No other way is tried; the search goes on at a place, if anywhere. -/
  | ended (onward : Option Nat)

/-- Try another way if there is to be one. -/
def OrderedOutcome.orElse (o : OrderedOutcome) (other : Unit → OrderedOutcome) : OrderedOutcome :=
  match o with
  | failed => other ()
  | o => o

/-- What is done behind a part that has matched. -/
abbrev OrderedNext := Nat → OrderedState → OrderedOutcome

/-- The blanks that are part of a line, beyond ASCII. -/
def lineBlanks : List Char :=
  ['\u00a0', '\u1680', '\u180e', '\u2000', '\u2001', '\u2002', '\u2003', '\u2004', '\u2005',
    '\u2006', '\u2007', '\u2008', '\u2009', '\u200a', '\u202f', '\u205f', '\u3000']

/-- Whether a character belongs to a class; a class of ASCII has no other characters. -/
def isInOrderedClass (name : String) (c : Char) : Bool :=
  match name with
  | "word" => c.isAlphanum || c = '_'
  | "horizontal" => c = ' ' || c = '\t' || lineBlanks.contains c
  | "vertical" => ('\n' ≤ c && c ≤ '\r') || c = '\u0085' || c = '\u2028' || c = '\u2029'
  | "any" => true
  | "letter" => isInWideClass "alpha" c && !(0x80 ≤ c.toNat && identifierMarkRanges.hasChar c
      && !identifierStartRanges.hasChar c)
  | "upperLetter" => isInWideClass "upper" c
  | "lowerLetter" => isInWideClass "lower" c
  | "number" => c.isDigit || (0x80 ≤ c.toNat && isInWideClass "alpha" c
      && !identifierStartRanges.hasChar c)
  | "mark" => isInWideClass "punct" c && !("$+<=>^|~\x60".toList.contains c)
  | "sign" => "$+<=>^|~\x60".toList.contains c
  | "separator" => c = ' ' || isInWideClass "space" c && 0x80 ≤ c.toNat || c = '\u00a0'
  | "control" => isWideControl c
  | "ascii" => c.toNat < 0x80
  | name => c.toNat < 0x80 && isInClass name c

/-- Whether an item holds a character. -/
def OrderedItem.has (c : Char) : OrderedItem → Bool
  | range lowest highest => lowest ≤ c && c ≤ highest
  | cls name negated => isInOrderedClass name c != negated

namespace OrderedRegex

/-- Whether a word goes up to a place or goes on there, but not both. -/
def isEdge (s : Subject) (i : Nat) : Bool :=
  let isWord (c : Char) : Bool := isInOrderedClass "word" c
  (0 < i && (s.text[i - 1]?).any isWord) != (s.text[i]?).any isWord

/-- Whether a part that stands for one character, or for a place, matches at a place; the answer
is where it ends. -/
def single? (e : OrderedScene) (i : Nat) : OrderedRegex → Option Nat
  | empty => some i
  | char fold c => match e.subject.text[i]? with
    | some d => if { e.subject with fold := fold }.same c d then some (i + 1) else none
    | none => none
  | any breaks =>
      if (e.subject.text[i]?).any fun c => breaks || c ≠ '\n' then some (i + 1) else none
  | set fold negated items => match e.subject.text[i]? with
    | some d =>
        let forms := { e.subject with fold := fold }.variants d
        let held := forms.any fun d => items.any fun item => item.has d
        if held != negated then some (i + 1) else none
    | none => none
  | atStart lines =>
      if i = 0 || lines && e.subject.text[i - 1]? = some '\n' then some i else none
  | atEnd lines =>
      let size := e.subject.text.size
      if i = size || e.subject.text[i]? = some '\n' && (lines || i + 1 = size) then some i else none
  | textEnd => if i = e.subject.text.size then some i else none
  | searchStart => if i = e.origin then some i else none
  | wordEdge negated => if isEdge e.subject i != negated then some i else none
  | _ => none

/-- Try to repeat something; `steps` bounds how often. -/
def tryTimes (act : OrderedNext → OrderedNext) (greed : Greed) :
    (steps least : Nat) → (most : Option Nat) → OrderedNext → OrderedNext
  | 0, _, _, next, i, st => next i st
  | steps + 1, 0, most, next, i, st =>
      if most = some 0 then next i st
      else
        let again (_ : Unit) : OrderedOutcome :=
          act (fun j st =>
            if j = i then .failed else tryTimes act greed steps 0 (most.map (· - 1)) next j st) i st
        match greed with
        | .most => (again ()).orElse fun _ => next i st
        | .least => (next i st).orElse again
  | steps + 1, least + 1, most, next, i, st =>
      act (fun j st => tryTimes act greed steps least (most.map (· - 1)) next j st) i st

/-- The first way to match that is found, and ends at a place. -/
def firstBehind (act : OrderedNext → OrderedNext) (i : Nat) (st : OrderedState) : OrderedOutcome :=
  (List.range (i + 1)).reverse.foldl (fun o j => o.orElse fun _ =>
    act (fun k st => if k = i then .found k st else .failed) j st) .failed

/-- Try the ways to match from a place in order, and go on with what follows.  `calls` says what
calling a group does. -/
def tryWith (e : OrderedScene) (calls : Nat → OrderedNext → OrderedNext) :
    OrderedRegex → OrderedNext → OrderedNext
  | seq a b, next, i, st =>
      a.tryWith e calls (fun j st => b.tryWith e calls next j st) i st
  | alt a b, next, i, st =>
      match a.tryWith e calls next i st with
      | .failed | .left => b.tryWith e calls next i st
      | o => o
  | rep r least most greed, next, i, st =>
      tryTimes (r.tryWith e calls) greed (least + e.subject.text.size + 1) least most next i st
  | group number r, next, i, st =>
      r.tryWith e calls (fun j st =>
        next j { st with groups := (number, i, j) :: st.groups.filter fun g => g.1 ≠ number }) i st
  | back fold number, next, i, st =>
      match { e.subject with fold := fold }.again? st.groups number i with
      | some j => next j st
      | none => .failed
  | call number, next, i, st => calls number (fun j _ => next j st) i st
  | once r, next, i, st =>
      match r.tryWith e calls .found i st with
      | .found j st => next j st
      | o => o
  | ahead negated r, next, i, st =>
      match r.tryWith e calls .found i st with
      | .found _ found => if negated then .failed else next i found
      | _ => if negated then next i st else .failed
  | behind negated r, next, i, st =>
      match firstBehind (r.tryWith e calls) i st with
      | .found _ found => if negated then .failed else next i found
      | _ => if negated then next i st else .failed
  | keep, next, i, st => next i { st with start := i }
  | choose number yes no, next, i, st =>
      if (if number = 0 then e.called else st.groups.any fun g => g.1 = number) then
        yes.tryWith e calls next i st
      else no.tryWith e calls next i st
  | cut kind, next, i, st =>
      match kind with
      | .search => (next i st).orElse fun _ => .ended none
      | .place => (next i st).orElse fun _ => .ended (some (st.origin + 1))
      | .upToHere => (next i st).orElse fun _ => .ended (some (max i (st.origin + 1)))
      | .branch => (next i st).orElse fun _ => .left
      | .rest => .found i st
  | r, next, i, st =>
      match single? e i r with
      | some j => next j st
      | none => .failed

/-- Try the ways to match from a place; `depth` bounds how deep groups call each other. -/
def tryWithin (e : OrderedScene) : (depth : Nat) → OrderedRegex → OrderedNext → OrderedNext
  | 0, r => r.tryWith e fun _ _ _ _ => .failed
  | depth + 1, r => r.tryWith e fun number next i st =>
      match e.groups.lookup number with
      | some r => tryWithin { e with called := true } depth r next i st
      | none => .failed

/-- The groups of an expression with what they stand for. -/
def groupsOf : OrderedRegex → List (Nat × OrderedRegex)
  | seq a b | alt a b | choose _ a b => a.groupsOf ++ b.groupsOf
  | rep r _ _ _ | once r | ahead _ r | behind _ r => r.groupsOf
  | group number r => (number, group number r) :: r.groupsOf
  | _ => []

/-- The first match from a place on; `count` places are tried. -/
def findFrom (e : OrderedScene) (r : OrderedRegex) : (count i : Nat) → Option (Nat × Nat)
  | 0, _ => none
  | count + 1, i =>
      if e.subject.text.size < i then none
      else match r.tryWithin e (e.subject.text.size + 1) .found i { start := i, origin := i } with
      | .found j st => some (st.start, j)
      | .ended none => none
      | .ended (some onward) => findFrom e r count onward
      | _ => findFrom e r count (i + 1)

/-- The first match from a place on: its start and its end. -/
def find? (r : OrderedRegex) (s : Subject) (i : Nat) : Option (Nat × Nat) :=
  if i ≤ s.text.size then findFrom ⟨s, i, (0, r) :: r.groupsOf, false⟩ r (s.text.size + 1 - i) i else none

/-! ### Lengths -/

/-- How long all matches are, if they are all of one length. -/
def fixedLength? : OrderedRegex → Option Nat
  | char _ _ | any _ | set _ _ _ => some 1
  | seq a b => do return (← a.fixedLength?) + (← b.fixedLength?)
  | alt a b | choose _ a b => do
      let n ← a.fixedLength?
      if b.fixedLength? = some n then some n else none
  | rep r least most _ => if most = some least then r.fixedLength?.map (· * least) else none
  | group _ r | once r => r.fixedLength?
  | back _ _ | call _ => none
  | _ => some 0

/-- Whether each of some alternatives has a length of its own. -/
def hasLengths : OrderedRegex → Bool
  | alt a b => a.hasLengths && b.hasLengths
  | r => r.fixedLength?.isSome

/-- The numbers of the groups that are referred to. -/
def references : OrderedRegex → List Nat
  | seq a b | alt a b => a.references ++ b.references
  | choose number a b => number :: (a.references ++ b.references)
  | rep r _ _ _ | once r | ahead _ r | behind _ r | group _ r => r.references
  | back _ number | call number => [number]
  | _ => []

end OrderedRegex

end ToyLang.Text
