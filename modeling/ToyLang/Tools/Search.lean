import ToyLang.Text.OrderedSyntax
import ToyLang.Tools.Basic

/-!
# Searching lines

Patterns of one of four kinds are searched for in the lines of a text.

## Main definitions

* `Finder` — what is searched for.
* `Search` — how lines are selected and shown.
* `Searching.step` — what a line adds.
* `Search.run` — what comes of a text.
-/

namespace ToyLang.Tools

open Run Text

/-! ### Patterns -/

/-- How patterns are written. -/
inductive PatternKind where
  | basic
  | extended
  | literal
  | ordered
  deriving DecidableEq

/-- What is searched for. -/
inductive Finder where
  | longest (r : Regex)
  | first (r : OrderedRegex)

/-- The first match from a place on. -/
def Finder.find? (f : Finder) (s : Subject) (i : Nat) : Option (Nat × Nat) :=
  match f with
  | longest r => (r.find? s i).map fun (start, stop, _) => (start, stop)
  | first r => r.find? s i

/-- How much of a line, or what part of it, has to match. -/
inductive MatchExtent where
  | anything
  | words
  | lines
  deriving DecidableEq

/-- The number of the group around a whole pattern, which nothing refers to. -/
def outerGroup : Nat := 1000

/-- The finder for patterns, with what is strange about them. -/
def Finder.ofTexts? (kind : PatternKind) (extent : MatchExtent) (fold : Bool)
    (texts : List String) : Except String (Finder × List String) := do
  match kind with
  | .ordered =>
      let text ← match texts with
        | [text] => pure text
        | _ => throw "the -P option only supports a single pattern"
      let text := match extent with
        | .anything => text
        | .words => "(?<!\\w)(?:" ++ text ++ ")(?!\\w)"
        | .lines => "^(?:" ++ text ++ ")$"
      let r ← OrderedRegex.ofText? { fold := fold } (widen text)
      return (.first r, [])
  | kind =>
      let one (text : String) : Except String (Regex × List String) := do
        let (r, warnings) ←
          if kind = .literal then pure (Regex.ofLiteral (widen text), [])
          else
            let (r, _, warnings) ← Regex.read? { extended := kind = .extended, marked := true } (widen text)
            pure (r, warnings)
        return (match extent with
          | .anything => r
          | .words => .seq .noWordBefore (.seq (.group outerGroup r) .noWordAfter)
          | .lines => .seq .atStart (.seq (.group outerGroup r) .atEnd), warnings)
      let found ← texts.mapM one
      return (.longest (Regex.oneOf (found.map Prod.fst)), (found.map Prod.snd).flatten)

/-! ### Lines -/

/-- How bytes are treated that are no text. -/
inductive BinaryKind where
  | noticed
  | text
  | skipped
  deriving DecidableEq

/-- What is searched for, and how lines are shown. -/
structure Search where
  finder : Finder
  fold : Bool
  inverted : Bool
  /-- The most lines that are selected in one input. -/
  most : Option Nat
  before : Nat
  after : Nat
  /-- What stands between lines that are apart. -/
  separator : Option String
  numbered : Bool
  offsets : Bool
  onlyHits : Bool
  titled : Bool
  /-- What follows the name of a file. -/
  nameEnd : Option String
  tabbed : Bool
  /-- Whether nothing but the number of selected lines matters, or whether there are any. -/
  counted : Bool
  binary : BinaryKind
  colored : Bool
  mark : Char

/-- Where going through an input has got to. -/
structure Searching where
  count : Nat := 0
  /-- What is shown, the last piece first. -/
  out : List String := []
  /-- The lines passed that may be shown as context, the last one first: number, offset, text. -/
  passed : List (Nat × Nat × String) := []
  /-- How many lines behind a selected one are still to be shown. -/
  owed : Nat := 0
  /-- The number of the last line that was shown. -/
  shown : Nat := 0
  number : Nat := 0
  offset : Nat := 0
  /-- Whether a line was left out that is no text. -/
  isBinary : Bool := false
  /-- The offset behind the last selected line. -/
  selectedEnd : Nat := 0

/-- The matches in a line; each step goes on by a character at least. -/
def hitsIn (f : Finder) (s : Subject) : (steps i : Nat) → List (Nat × Nat)
  | 0, _ => []
  | steps + 1, i =>
      match f.find? s i with
      | none => []
      | some (start, stop) =>
          if stop ≤ start then hitsIn f s steps (max i start + 1)
          else (start, stop) :: hitsIn f s steps (max stop (i + 1))

namespace Search

/-- A text in a color. -/
def paint (s : Search) (color text : String) : String :=
  if s.colored then "\x1b[" ++ color ++ "m\x1b[K" ++ text ++ "\x1b[m\x1b[K" else text

/-- What stands in front of a line. -/
def lead (s : Search) (file : String) (number offset : Nat) (sign : String) : String :=
  let count (n : Nat) : String :=
    s.paint "32" (padLeft (if s.tabbed && !s.titled then 19 else 0) (toString n)) ++ s.paint "36" sign
  (if s.titled then s.paint "35" file ++ (s.nameEnd.getD (s.paint "36" sign)) else "")
    ++ (if s.numbered then count number else "")
    ++ (if s.offsets then count offset else "")
    ++ (if s.tabbed && (s.titled || s.numbered || s.offsets) then "\t" else "")

/-- What is shown for a line: pieces, each with whether it is text.  The line is given with its
characters and its matches. -/
def pieces (s : Search) (file : String) (number offset : Nat) (line : Array Char) (selected : Bool)
    (hits : List (Nat × Nat)) : List (String × Bool) :=
  let part (i j : Nat) : String := narrow (String.ofList (line.extract i j).toList)
  let isText (i j : Nat) : Bool := !(line.extract i j).any isStray
  let mark := String.singleton s.mark
  if s.onlyHits then
    if selected && !s.inverted then
      hits.map fun (i, j) =>
        (s.lead file number (offset + (part 0 i).length) ":" ++ s.paint "01;31" (part i j) ++ mark,
          isText i j)
    else []
  else
    let body :=
      if s.colored && (selected != s.inverted) then
        let (text, last) := hits.foldl (fun (text, last) (i, j) =>
          (text ++ part last i ++ s.paint "01;31" (part i j), j)) ("", 0)
        text ++ part last line.size
      else part 0 line.size
    [(s.lead file number offset (if selected then ":" else "-") ++ body ++ mark,
      isText 0 line.size)]

end Search

/-- Show a line, unless it is no text. -/
def Searching.show (s : Search) (file : String) (p : Searching) (number offset : Nat)
    (text : String) (selected : Bool) (hits : List (Nat × Nat)) : Searching :=
  if s.counted then p
  else
    let pieces := s.pieces file number offset (widen text).toList.toArray selected hits
    let isFit (piece : String × Bool) : Bool := piece.2 || s.binary = .text
    { p with
      out := ((pieces.filter isFit).map Prod.fst).reverse ++ p.out
      isBinary := p.isBinary || !pieces.all isFit }

/-- Go on by a line. -/
def Searching.step (s : Search) (file : String) (p : Searching) (line : String) : Searching :=
  let chars := (widen line).toList.toArray
  let subject : Subject := { text := chars, fold := s.fold, wide := true }
  let number := p.number + 1
  let p' := { p with number := number, offset := p.offset + line.length + 1 }
  let hits (_ : Unit) : List (Nat × Nat) :=
    if s.onlyHits || s.colored then hitsIn s.finder subject (chars.size + 2) 0 else []
  let isOver := s.most.any (· ≤ p.count)
  let selected := !isOver && (s.finder.find? subject 0).isSome != s.inverted
  if selected then
    let before := (p.passed.take s.before).reverse
    let first := (before.head?.map Prod.fst).getD number
    let isApart := (0 < s.before || 0 < s.after) && 0 < p.shown && p.shown + 1 < first
    let p' := match s.separator with
      | some text =>
          if isApart && !s.counted then
            { p' with out := (s.paint "36" text ++ "\n") :: p'.out }
          else p'
      | none => p'
    let p' := before.foldl (fun p (n, o, text) => p.show s file n o text false []) p'
    { p'.show s file number p.offset line true (hits ()) with
      count := p.count + 1
      passed := []
      owed := s.after
      shown := number
      selectedEnd := p'.offset }
  else if 0 < p.owed then
    { p'.show s file number p.offset line false (if s.inverted then hits () else []) with
      owed := p.owed - 1
      shown := number }
  else if isOver then p'
  else { p' with passed := ((number, p.offset, line) :: p.passed).take s.before }

/-- What comes of a text.  Bytes that are zero end lines where a text should have none; then
nothing is shown. -/
def Search.run (s : Search) (file text : String) : Searching :=
  let hasZeros := s.mark = '\n' && s.binary ≠ .text && text.contains '\x00'
  if hasZeros && s.binary = .skipped then {}
  else
    let text := if hasZeros then text.map fun c => if c = '\x00' then '\n' else c else text
    let plan := if hasZeros then { s with counted := true } else s
    let lines := piecesOf (String.singleton s.mark) text
    let p := lines.foldl (fun p line => p.step plan file line) ({} : Searching)
    if hasZeros then { p with isBinary := !s.counted && 0 < p.count } else p

end ToyLang.Tools
