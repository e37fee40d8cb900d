import ToyLang.Tools.Basic

/-!
# How pages look

Text is set in pages with a header, in one column or several, from one input or from several side
by side.

## Main definitions

* `PageStyle` — how pages look.
* `PageStyle.ofOptions` — the style that options ask for.
* `PageStyle.settled` — a style for so many inputs.
-/

namespace ToyLang.Tools

/-- What pages look like. -/
structure PageStyle where
  /-- The first page, and the last one. -/
  first : Option Nat := none
  last : Option Nat := none
  columns : Nat := 1
  countsColumns : Bool := false
  /-- Whether lines go across the columns, and not down. -/
  goesAcross : Bool := false
  /-- Whether each input has a column of its own. -/
  isParallel : Bool := false
  /-- Whether control characters are shown behind a hat, or as numbers. -/
  showsControls : Bool := false
  showsNumbers : Bool := false
  isDoubled : Bool := false
  dateFormat : String := "%Y-%m-%d %H:%M"
  header : Option String := none
  /-- The tab of the input, and how far apart places for it are. -/
  tabIn : Char × Nat := ('\t', 8)
  expands : Bool := false
  /-- The tab of the output. -/
  tabOut : Char × Nat := ('\t', 8)
  compresses : Bool := false
  endsByFeed : Bool := false
  isJoined : Bool := false
  length : Nat := 66
  /-- The mark behind a number, and how wide a number is. -/
  number : Option (Char × Nat) := none
  start : Option Int := none
  margin : Nat := 0
  isQuiet : Bool := false
  separator : Option String := none
  /-- Whether a separator was given in the older way, and a width. -/
  hasOldSeparator : Bool := false
  hasOldWidth : Bool := false
  usesOlder : Bool := false
  usesSeparator : Bool := false
  /-- Whether pages have headers and footers. -/
  isFramed : Bool := true
  keepsFeeds : Bool := false
  width : Nat := 72
  cuts : Bool := false
  deriving Inhabited

/-- A complaint about options, and whether help is offered with it. -/
structure PageFault where
  text : String
  offersHelp : Bool := false

/-- The lines of a header, and those of a footer. -/
def frameLines : Nat × Nat := (5, 5)

/-- The greatest number that options take. -/
def mostPages : Nat := twoTo 31 - 1

namespace PageStyle

/-- Read a range of pages behind a mark; something else may be no range at all. -/
def pageRange (mark text : String) : Except PageFault (Option (Nat × Option Nat)) :=
  let cs := text.toList
  let digits := cs.takeWhile Char.isDigit
  let rest := cs.drop digits.length
  let number (cs : List Char) : Nat := Nat.ofDigitChars 10 cs 0
  let invalid : Except PageFault (Option (Nat × Option Nat)) :=
    .error ⟨"invalid " ++ mark ++ " argument '" ++ text ++ "'", false⟩
  if digits.isEmpty then invalid
  else if number digits = 0 then .ok none
  else match rest with
    | [] => .ok (some (number digits, none))
    | ':' :: cs =>
        if cs.isEmpty || !cs.all Char.isDigit then invalid
        else if number cs < number digits then .ok none
        else .ok (some (number digits, some (number cs)))
    | _ => .ok none

/-- Read a character and a number, one of which may be missing. -/
def markAndWidth (letter : Char) (old : Char × Nat) (text : String) :
    Except PageFault (Char × Nat) :=
  let (mark, digits) := match text.toList with
    | [] => (old.1, [])
    | c :: cs => if c.isDigit then (old.1, c :: cs) else (c, cs)
  if digits.isEmpty then .ok (mark, old.2)
  else
    let n := Nat.ofDigitChars 10 digits 0
    let wrong (reason : String) : Except PageFault (Char × Nat) :=
      .error ⟨"'-" ++ String.singleton letter
        ++ "' extra characters or invalid number in the argument: "
        ++ mentioned (String.ofList digits) ++ reason, true⟩
    if !digits.all Char.isDigit || n = 0 then wrong ""
    else if mostPages < n then wrong ": Value too large for defined data type"
    else .ok (mark, n)

/-- Read a number that is not too small. -/
def count (complaint : String) (least : Nat) (text : String) : Except PageFault Nat :=
  let isNegative := text.startsWith "-" && (text.toList.drop 1).all Char.isDigit
  match numberOr complaint least text mostPages with
  | .ok n => .ok n
  | .error e =>
      .error ⟨if isNegative then e ++ ": Numerical result out of range" else e, false⟩

/-- Read the number of columns. -/
def withColumns (s : PageStyle) (text : String) : Except PageFault PageStyle :=
  (count "invalid number of columns" 1 text).map fun n =>
    { s with columns := n, countsColumns := true }

/-- Take an option. -/
def take (s : PageStyle) (option : Char × String) : Except PageFault PageStyle :=
  let (c, text) := option
  match c with
  | 'P' => match pageRange "--pages" text with
      | .error fault => .error fault
      | .ok (some (first, last)) => .ok { s with first := some first, last := last }
      | .ok none => .error ⟨"invalid page range " ++ mentioned text, false⟩
  | 'C' => s.withColumns text
  | 'a' => .ok { s with goesAcross := true }
  | 'c' => .ok { s with showsControls := true }
  | 'd' => .ok { s with isDoubled := true }
  | 'D' => .ok { s with dateFormat := text }
  | 'e' => (markAndWidth c s.tabIn text).map fun tab => { s with tabIn := tab, expands := true }
  | 'f' | 'F' => .ok { s with endsByFeed := true }
  | 'h' => .ok { s with header := some text }
  | 'i' => (markAndWidth c s.tabOut text).map fun tab =>
      { s with tabOut := tab, compresses := true }
  | 'J' => .ok { s with isJoined := true }
  | 'l' => (count "'-l PAGE_LENGTH' invalid number of lines" 1 text).map fun n =>
      { s with length := n }
  | 'm' => .ok { s with isParallel := true }
  | 'n' => (markAndWidth c (s.number.getD ('\t', 5)) text).map fun form =>
      { s with number := some form }
  | 'N' =>
      let digits := if text.startsWith "-" then String.ofList (text.toList.drop 1) else text
      let complaint := "'-N NUMBER' invalid starting line number"
      match numberOr complaint 0 digits mostPages with
      | .ok n => .ok { s with start := some (if digits = text then n else -(n : Int)) }
      | .error _ => .error ⟨complaint ++ ": " ++ mentioned text, false⟩
  | 'o' => (count "'-o MARGIN' invalid line offset" 0 text).map fun n => { s with margin := n }
  | 'r' => .ok { s with isQuiet := true }
  | 's' =>
      let s := { s with usesOlder := true, hasOldSeparator := true }
      .ok (if s.usesSeparator || text = "" then s else { s with separator := some text })
  | 'S' =>
      .ok { s with hasOldSeparator := false, usesSeparator := true, separator := some text }
  | 't' => .ok { s with isFramed := false, keepsFeeds := true }
  | 'T' => .ok { s with isFramed := false, keepsFeeds := false }
  | 'v' => .ok { s with showsNumbers := true }
  | 'w' => (count "'-w PAGE_WIDTH' invalid number of characters" 1 text).map fun n =>
      let s := { s with usesOlder := true, hasOldWidth := true }
      if s.cuts then s else { s with width := n }
  | 'W' => (count "'-W PAGE_WIDTH' invalid number of characters" 1 text).map fun n =>
      { s with hasOldWidth := false, cuts := true, width := n }
  | _ => .ok s

/-- The number that consecutive options spell with their digits. -/
def spelledColumns (options : List (Char × String)) : Option String :=
  let digits := (options.reverse.dropWhile fun o => !o.1.isDigit).takeWhile fun o => o.1.isDigit
  if digits.isEmpty then none else some (String.ofList (digits.reverse.map Prod.fst))

/-- What older options stand for. -/
def modern (s : PageStyle) : PageStyle :=
  let hasColumns := s.isParallel || s.countsColumns
  if !s.usesOlder then s
  else if s.hasOldWidth then
    if hasColumns then
      { s with cuts := true, usesSeparator := s.usesSeparator || s.hasOldSeparator }
    else { s with isJoined := true }
  else if !s.usesSeparator && s.hasOldSeparator && hasColumns then
    if s.cuts then { s with usesSeparator := true }
    else { s with isJoined := true, usesSeparator := (s.separator.getD "") ≠ "" }
  else s

/-- The style that options ask for. -/
def ofOptions (options : List (Char × String)) : Except PageFault PageStyle := do
  let s ← options.foldlM take {}
  let s ← match spelledColumns options with
    | some text => if options.any fun o => o.1 = 'C' then .ok s else s.withColumns text
    | none => .ok s
  if s.isParallel && s.countsColumns then
    throw ⟨"cannot specify number of columns when printing in parallel", false⟩
  if s.isParallel && s.goesAcross then
    throw ⟨"cannot specify both printing across and printing in parallel", false⟩
  return s.modern

/-! ### Widths -/

/-- How far it is to the next place for a tab. -/
def tabWidth (gap place : Nat) : Nat := gap - place % gap

/-- How wide a number is together with what follows it. -/
def numberWidth (s : PageStyle) : Nat :=
  match s.number with
  | none => 0
  | some (mark, width) => if mark = '\t' then width + tabWidth 8 width else width + 1

/-- Whether columns are filled one after the other. -/
def isStored (s : PageStyle) : Bool := 1 < s.columns && !s.isParallel && !s.goesAcross

/-- The separator of columns. -/
def gap (s : PageStyle) : String := s.separator.getD ""

/-- The lines of a page between header and footer. -/
def bodyLines (s : PageStyle) : Nat :=
  let lines := if s.isFramed then s.length - frameLines.1 - frameLines.2 else s.length
  if s.isDoubled then max 1 (lines / 2) else lines

/-- How wide a column is. -/
def columnWidth (s : PageStyle) : Nat :=
  let forNumber := if s.isParallel then s.numberWidth else 0
  (s.width - forNumber - (s.columns - 1) * s.gap.length) / s.columns

/-- The style for so many inputs; none stands for standard input. -/
def settled (s : PageStyle) (inputs : Nat) : PageStyle :=
  let s := if s.length ≤ frameLines.1 + frameLines.2 then
      { s with isFramed := false, keepsFeeds := true } else s
  let s := { s with isParallel := s.isParallel && inputs ≠ 0 }
  let s := if s.isParallel then { s with columns := inputs } else s
  let s := if s.columns ≤ 1 then s
    else
      let s := if !s.usesSeparator then
          { s with separator := some (if s.isJoined then "\t" else " "), usesSeparator := true }
        else if !s.isJoined && s.gap = "\t" then { s with separator := some " " }
        else s
      { s with cuts := true, compresses := true, expands := s.expands || s.gap ≠ "\t" }
  if s.isJoined then { s with cuts := false } else s

end PageStyle

end ToyLang.Tools
