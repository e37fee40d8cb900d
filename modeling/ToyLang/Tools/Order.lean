import ToyLang.Tools.Basic

/-!
# Orders of words and lines

## Main definitions

* `Relations` — words of which some come before others.
* `tsort` — words in an order that keeps relations.
* `shuf` — lines in any order.
-/

namespace ToyLang.Tools

open Run

/-! ### Words in order -/

/-- A word that comes before others: how many come before it, and which come after it, the last one
that was given first. -/
structure RelatedWord where
  text : String
  before : Nat := 0
  after : List Nat := []

/-- Words in alphabetical order. -/
abbrev Relations := Array RelatedWord

namespace Relations

/-- The place of a word. -/
def place (r : Relations) (text : String) : Nat := (r.findIdx? fun w => w.text = text).getD 0

/-- Note that one word comes before another. -/
def relate (r : Relations) (a b : String) : Relations :=
  if a = b then r
  else
    let j := r.place a
    let k := r.place b
    (r.modify k fun w => { w with before := w.before + 1 }).modify j fun w =>
      { w with after := k :: w.after }

/-- The relations that pairs of words stand for. -/
def ofPairs (pairs : List (String × String)) : Relations :=
  let words := (pairs.flatMap fun (a, b) => [a, b]).mergeSort fun a b => a ≤ b
  let words := words.foldr (fun w ws => if ws.head? = some w then ws else w :: ws) []
  let r : Relations := (words.map fun w => { text := w }).toArray
  pairs.foldl (fun r (a, b) => r.relate a b) r

/-- Take a word out: those behind it with nothing else before them, in order. -/
def take (r : Relations) (place : Nat) : Relations × List Nat :=
  ((r[place]?).map RelatedWord.after |>.getD []).foldl (fun (r, free) k =>
    let r := r.modify k fun w => { w with before := w.before - 1 }
    (r, if ((r[k]?).map RelatedWord.before) = some 0 then free ++ [k] else free)) (r, [])

/-- Take words out as long as some have nothing before them; each step takes one. -/
def takeFree : (steps : Nat) → Relations → (queue taken : List Nat) → Relations × List Nat
  | 0, r, _, taken => (r, taken)
  | _, r, [], taken => (r, taken)
  | steps + 1, r, k :: queue, taken =>
      let (r, free) := r.take k
      takeFree steps r (queue ++ free) (taken ++ [k])

/-- A search for a loop: the word that is to be reached, and the links by which words reach one
another. -/
structure LoopSearch where
  target : Option Nat := none
  links : List (Nat × Nat) := []

/-- The words from one on that links lead through, up to another one. -/
def chain (links : List (Nat × Nat)) (last : Nat) : (steps : Nat) → Nat → List Nat
  | 0, k => [k]
  | steps + 1, k =>
      if k = last then [k]
      else match links.lookup k with
        | some next => k :: chain links last steps next
        | none => [k]

/-- Look at the words in order for a loop: the words of one, or how far the search has got. -/
def searchLoop (r : Relations) : List Nat → LoopSearch → Except (List Nat) LoopSearch
  | [], s => .ok s
  | k :: ks, s =>
      match r[k]?, s.target with
      | some w, target =>
          if w.before = 0 then searchLoop r ks s
          else match target with
            | none => searchLoop r ks { s with target := some k }
            | some t =>
                if !w.after.contains t then searchLoop r ks s
                else if (s.links.lookup k).isSome then
                  .error (chain s.links k r.size t)
                else searchLoop r ks ⟨some k, (k, t) :: s.links⟩
      | none, _ => searchLoop r ks s

/-- The words of a loop, if there is one; the search starts again until it finds one. -/
def findLoop (r : Relations) : (steps : Nat) → LoopSearch → Option (List Nat)
  | 0, _ => none
  | steps + 1, s =>
      match r.searchLoop (List.range r.size) s with
      | .error loop => some loop
      | .ok s => findLoop r steps s

/-- Forget the relation of the last word of a loop to the first one. -/
def breakLoop (r : Relations) (loop : List Nat) : Relations :=
  match loop.head?, loop.getLast? with
  | some first, some last =>
      (r.modify last fun w => { w with after := w.after.erase first }).modify first fun w =>
        { w with before := w.before - 1 }
  | _, _ => r

end Relations

/-- Show words in an order, round by round; each round takes words out, or breaks a loop. -/
def showInOrder (name file : String) : (rounds : Nat) → Relations → (shown : List Nat) →
    (status : Nat) → Run Nat
  | 0, _, _, status => return status
  | rounds + 1, r, shown, status => do
      let isFree (k : Nat) : Bool :=
        !shown.contains k && ((r[k]?).map RelatedWord.before) = some 0
      let (r, taken) := Relations.takeFree r.size r ((List.range r.size).filter isFree) []
      put (String.join (taken.map fun k => ((r[k]?).map RelatedWord.text).getD "" ++ "\n"))
      let shown := shown ++ taken
      if r.size ≤ shown.length then return status
      blame name (quotedIfNeeded file ++ ": input contains a loop:")
      match r.findLoop (2 * r.size + 2) {} with
      | none => return 1
      | some loop =>
          for k in loop do
            blame name (((r[k]?).map RelatedWord.text).getD "")
          showInOrder name file rounds (r.breakLoop loop) shown 1

/-- Put words in pairs. -/
def pairsOf : List String → List (String × String)
  | a :: b :: rest => (a, b) :: pairsOf rest
  | _ => []

/-- Show words in an order that keeps the relations between them. -/
def tsort : Tool := fun name arguments =>
  withOptions name {} arguments fun g => do
    if let _ :: extra :: _ := g.operands then return ← extraOperand name extra
    let file := g.operands.headD "-"
    match ← readInput file with
    | .error e =>
        blame name (quotedIfNeeded file ++ ": " ++ e.reason)
        return 1
    | .ok text =>
        let blank (c : Char) : Char := if c = '\n' ∨ c = '\t' then ' ' else c
        let words :=
          ((String.ofList (text.toList.map blank)).splitOn " ").filter (· ≠ "")
        if words.length % 2 = 1 then
          blame name (quotedIfNeeded file ++ ": input contains an odd number of tokens")
          return 1
        let r := Relations.ofPairs (pairsOf words)
        showInOrder name file (words.length + 1) r [] 0

/-! ### Lines in any order -/

/-- The lines that whole numbers of a range stand for. -/
def rangeLines? (text : String) : Option (List String) :=
  match text.splitOn "-" with
  | [a, b] =>
      match a.toNat?, b.toNat? with
      | some a, some b =>
          if b + 1 < a then none
          else some ((List.range (min (b + 1 - a) rounds)).map fun i => toString (a + i))
      | _, _ => none
  | _ => none

/-- Show lines in some order; every order will do, so they stay in their own. -/
def shuf : Tool := fun name arguments =>
  withOptions name
    { flags := "erz", valued := "ino"
      long := [("echo", 'e', .none), ("input-range", 'i', .required), ("head-count", 'n', .required),
        ("output", 'o', .required), ("random-source", 'R', .required), ("repeat", 'r', .none),
        ("zero-terminated", 'z', .none)] } arguments fun g => do
    let counts := g.values 'n'
    if let some bad := counts.find? fun n => n.toNat?.isNone then
      blame name ("invalid line count: " ++ mentioned bad)
      return 1
    let range ← match (g.value? 'i').map rangeLines? with
      | some none => do
          blame name ("invalid input range: " ++ mentioned ((g.value? 'i').getD ""))
          return 1
      | some (some lines) => pure (some lines)
      | none => pure none
    if range.isSome && g.has 'e' then
      return ← misused name "cannot combine -e and -i options"
    let spare := if range.isSome then g.operands else g.operands.drop 1
    if let (false, extra :: _) := (g.has 'e', spare) then
      return ← extraOperand name extra
    let stop := if g.has 'z' then "\x00" else "\n"
    let count := counts.foldl (fun n text => min n (text.toNat?.getD 0)) rounds
    let lines ← match range, g.has 'e' with
      | some lines, _ => pure lines
      | none, true => pure g.operands
      | none, false => do
          if count = 0 then pure []
          else
            let file := g.operands.headD "-"
            match ← readInput file with
            | .error e =>
                blame name (quotedIfNeeded file ++ ": " ++ e.reason)
                return 1
            | .ok text => pure (piecesOf stop text)
    let chosen ← if g.has 'r' then do
        if lines.isEmpty then
          if count = 0 then pure []
          else
            blame name "no lines to repeat"
            return 1
        else pure ((List.range count).map fun i => lines.getD (i % lines.length) "")
      else pure (lines.take count)
    let out := String.join (chosen.map (· ++ stop))
    match g.value? 'o' with
    | none =>
        put out
        return 0
    | some file =>
        match ← writePath file out with
        | .ok () => return 0
        | .error e =>
            blame name (quotedIfNeeded file ++ ": " ++ e.reason)
            return 1

end ToyLang.Tools
