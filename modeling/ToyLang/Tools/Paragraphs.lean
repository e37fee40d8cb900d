import ToyLang.Tools.Basic

/-!
# Paragraphs

Text is filled again: the breaks between its lines are those that cost least.

## Main definitions

* `TextWord` — a word with what is behind it.
* `Filling` — how lines are filled.
* `Filling.breaks` — the lines of a paragraph.
* `fmt` — text with its paragraphs filled.
-/

namespace ToyLang.Tools

open Run

/-- A word of a paragraph. -/
structure TextWord where
  text : List Char
  /-- The blanks behind it. -/
  space : Nat
  /-- Whether it begins with a parenthesis or a quote. -/
  opens : Bool
  /-- Whether it ends like a sentence. -/
  period : Bool
  /-- Whether it ends with a mark. -/
  marked : Bool
  /-- Whether it ends a sentence. -/
  final : Bool

/-- The number of characters of a word. -/
def TextWord.length (w : TextWord) : Nat := w.text.length

/-- Whether a word ends like a sentence, perhaps inside quotes. -/
def endsLikeSentence (cs : List Char) : Bool :=
  let rec strip : List Char → List Char
    | [c] => [c]
    | c :: cs => if [')', ']', '\'', '"'].contains c then strip cs else c :: cs
    | [] => []
  ((strip cs.reverse).head?).any ['.', '?', '!'].contains

/-- Whether a character is a mark. -/
def isMark (c : Char) : Bool := '!' ≤ c && c ≤ '~' && !c.isAlphanum

/-- A word of a line, with the blanks behind it, if there is more on the line. -/
def TextWord.of (uniform : Bool) (cs : List Char) (space : Nat) (isLast : Bool) : TextWord :=
  let period := endsLikeSentence cs
  let final := period && (isLast || 1 < space)
  let space := if isLast || uniform then (if final then 2 else 1) else space
  ⟨cs, space, (cs.head?).any ['(', '[', '\'', '\x60', '"'].contains, period,
    (cs.getLast?).any isMark, final⟩

/-! ### Lines of input -/

/-- The column behind blanks. -/
def behindBlanks (column : Nat) (cs : List Char) : Nat :=
  cs.foldl (fun n c => if c = '\t' then n + 8 - n % 8 else n + 1) column

/-- The words of a line; `column` is where they begin. -/
def lineWords (uniform : Bool) : (steps : Nat) → (column : Nat) → List Char → List TextWord
  | 0, _, _ => []
  | steps + 1, column, cs =>
      let isEnd (c : Char) : Bool := c = ' ' || ('\t' ≤ c && c ≤ '\x0d')
      -- A control character that ends a word begins the next one.
      let word := cs.take 1 ++ (cs.drop 1).takeWhile fun c => !isEnd c
      let rest := cs.drop word.length
      let blanks := rest.takeWhile fun c => c = ' ' || c = '\t'
      let behind := column + word.length
      let next := behindBlanks behind blanks
      let rest := rest.drop blanks.length
      if word.isEmpty then []
      else TextWord.of uniform word (next - behind) rest.isEmpty
        :: lineWords uniform steps next rest

/-- A line of input: where its words begin, and the words. -/
structure TextLine where
  indent : Nat
  words : List TextWord

/-- Read a line. -/
def TextLine.of (uniform : Bool) (line : String) : TextLine :=
  let cs := line.toList
  let blanks := cs.takeWhile fun c => c = ' ' || c = '\t'
  let indent := behindBlanks 0 blanks
  ⟨indent, lineWords uniform cs.length indent (cs.drop blanks.length)⟩

/-! ### Where lines break -/

/-- How lines are filled. -/
structure Filling where
  width : Nat := 75
  goal : Nat := 70
  /-- Whether blanks may be shown as tabs. -/
  tabs : Bool := false

/-- The cheapest way to set the words from one on: its cost, the number of words on its first
line, and the width of that line. -/
structure Setting where
  cost : Int
  count : Nat
  width : Int

/-- A square. -/
def square (n : Int) : Int := n * n

/-- The cost of a line that is so much shorter or longer than it should be. -/
def shortCost (n : Int) : Int := square (10 * n)

/-- The cost of the difference between lines. -/
def raggedCost (n : Int) : Int := shortCost n / 2

/-- The cost of breaking in front of a word, whatever the line is; `before` are the words in front
of it, the last one first. -/
def breakCost (before : List TextWord) (w : TextWord) : Int :=
  let base := square 70
  let behind : Int := match before with
    | [] => 0
    | p :: more =>
        if p.period then (if p.final then -square 50 else square 600)
        else if p.marked then -square 40
        else if more.head?.any TextWord.final then square 200 / ((p.length : Int) + 2)
        else 0
  let ahead : Int :=
    if w.opens then -square 40
    else if w.final then square 150 / ((w.length : Int) + 2)
    else 0
  base + behind + ahead

namespace Filling

/-- The cost of a line of a width in front of a way to set the rest. -/
def lineCost (f : Filling) (width : Int) : List Setting → Int
  | [] => 0
  | next :: more =>
      shortCost (f.goal - width)
        + (if next.count = more.length + 1 then 0 else raggedCost (width - next.width))

/-- The cheapest first line among those that end behind some word: each step adds a word to the
line.  `settings` are the ways to set what is behind it. -/
def cheapest (f : Filling) : List TextWord → List Setting → (count : Nat) → (width : Int) →
    (best : Option Setting) → Option Setting
  | w :: rest, settings, count, width, best =>
      let cost := f.lineCost width settings + ((settings.head?).map Setting.cost).getD 0
      let best := match best with
        | some b => if cost < b.cost then some ⟨cost, count, width⟩ else some b
        | none => some ⟨cost, count, width⟩
      match rest, settings with
      | next :: _, _ :: settings' =>
          let width := width + w.space + next.length
          if width < f.width then f.cheapest rest settings' (count + 1) width best else best
      | _, _ => best
  | [], _, _, _, best => best

/-- The ways to set the words from each one on. -/
def settings (f : Filling) (first other : Nat) : (before : List TextWord) → List TextWord →
    List Setting
  | _, [] => []
  | before, w :: rest =>
      let later := f.settings first other (w :: before) rest
      let indent := if before.isEmpty then first else other
      match f.cheapest (w :: rest) later 1 ((indent : Int) + w.length) none with
      | some s => { s with cost := s.cost + breakCost before w } :: later
      | none => later

/-- The lines of words that are set in a way. -/
def breaks : (steps : Nat) → List TextWord → List Setting → List (List TextWord)
  | 0, _, _ => []
  | steps + 1, words, settings =>
      match settings with
      | [] => []
      | s :: _ =>
          let n := max 1 s.count
          words.take n :: breaks steps (words.drop n) (settings.drop n)

/-- Blanks from a column on. -/
def blanks (f : Filling) (column count : Nat) : List Char :=
  let target := column + count
  let tabTarget := target / 8 * 8
  if f.tabs && column + 1 < tabTarget then
    List.replicate ((tabTarget - column / 8 * 8) / 8) '\t'
      ++ List.replicate (target - tabTarget) ' '
  else List.replicate count ' '

/-- A line of words as it is shown. -/
def line (f : Filling) (indent : Nat) (words : List TextWord) : String :=
  let start := f.blanks 0 indent
  let count := words.length
  let (out, _) := words.zipIdx.foldl (fun ((out, column) : List Char × Nat) (w, i) =>
    let column := column + w.length
    if i + 1 = count then (out ++ w.text, column)
    else (out ++ w.text ++ f.blanks column w.space, column + w.space)) (start, indent)
  String.ofList out ++ "\n"

/-- A paragraph as it is shown. -/
def paragraph (f : Filling) (first other : Nat) (words : List TextWord) : String :=
  let words := match words.reverse with
    | last :: rest => ({ last with period := true, final := true } :: rest).reverse
    | [] => []
  let lines := breaks words.length words (f.settings first other [] words)
  String.join (lines.zipIdx.map fun (words, i) => f.line (if i = 0 then first else other) words)

end Filling

/-! ### Which lines make a paragraph -/

/-- Which lines make a paragraph. -/
inductive ParagraphKind where
  /-- Lines with the same indent. -/
  | plain
  /-- The second line has an indent of its own. -/
  | crown
  /-- The second line has an indent that is another one. -/
  | tagged
  /-- Each line is one. -/
  | split
  deriving DecidableEq

/-- The next paragraph: the indent of its later lines, its own lines behind the first, and what is
left.  `last` is the indent of later lines so far. -/
def takeParagraph (kind : ParagraphKind) (last : Nat) (first : TextLine) (rest : List TextLine) :
    Nat × List TextLine × List TextLine :=
  let next? := (rest.head?).filter fun line => !line.words.isEmpty
  let taken (indent : Nat) : Nat × List TextLine × List TextLine :=
    let more := rest.takeWhile fun line => !line.words.isEmpty && line.indent = indent
    (indent, more, rest.drop more.length)
  let alone (indent : Nat) : Nat × List TextLine × List TextLine := (indent, [], rest)
  match kind, next? with
  | .split, _ => alone first.indent
  | .plain, _ => taken first.indent
  | .crown, some next => taken next.indent
  | .crown, none => alone first.indent
  | .tagged, next? =>
      match next?.filter fun next => next.indent ≠ first.indent with
      | some next => taken next.indent
      | none =>
          alone (if last = first.indent then (if first.indent = 0 then 3 else 0) else last)

/-- Fill the paragraphs of some lines; each step takes a line at least. -/
def fillLines (f : Filling) (kind : ParagraphKind) : (steps last : Nat) → List TextLine →
    List String
  | 0, _, _ => []
  | _, _, [] => []
  | steps + 1, last, line :: rest =>
      if line.words.isEmpty then
        "\n" :: fillLines f kind steps last rest
      else
        let (other, more, rest) := takeParagraph kind last line rest
        let words := line.words ++ more.flatMap TextLine.words
        f.paragraph line.indent other words :: fillLines f kind steps other rest

/-- Show text with its paragraphs filled. -/
def fmt : Tool := fun name arguments =>
  withOptions name
    { flags := "cstu", valued := "wgp"
      long := [("crown-margin", 'c', .none), ("split-only", 's', .none),
        ("tagged-paragraph", 't', .none), ("uniform-spacing", 'u', .none),
        ("width", 'w', .required), ("goal", 'g', .required), ("prefix", 'p', .required)] }
    (match arguments with
      | first :: rest =>
          (match first.toList with
            | '-' :: cs => if !cs.isEmpty && cs.all Char.isDigit then "-w" ++ String.ofList cs
                else first
            | _ => first) :: rest
      | [] => []) fun g => do
    let limit := 2500
    let width? := (g.value? 'w').map (fun text => wholeNumber "width" 0 text limit)
    let goal? := (g.value? 'g').map fun text =>
      match width? with
      | some (.ok w) => wholeNumber "width" 0 text w
      | some (.error _) => wholeNumber "width" 0 text limit
      | none => wholeNumber "width" 0 text 75
    if let some text := [width?, goal?].findSome? fun n => match n with
        | some (.error text) => some text
        | _ => none then
      blame name text
      return 1
    let width := width?.bind Except.toOption
    let goal := goal?.bind Except.toOption
    let f : Filling := match width, goal with
      | some w, some g => { width := w, goal := g }
      | some w, none => { width := w, goal := w * 187 / 200 }
      | none, some g => { width := g + 10, goal := g }
      | none, none => {}
    let kind : ParagraphKind := match g.last? ['c', 's', 't'] with
      | some 'c' => .crown
      | some 's' => .split
      | some _ => .tagged
      | none => .plain
    let fill (_ text : String) : Run Unit := do
      let f := { f with tabs := text.contains '\t' }
      let lines := (linesOf text).map (TextLine.of (g.has 'u'))
      put (String.join (fillLines f kind lines.length 0 lines))
    forInputs name g.operands fill unopened

end ToyLang.Tools
