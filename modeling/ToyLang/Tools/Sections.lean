import ToyLang.Format.Number
import ToyLang.Text.RegexSyntax
import ToyLang.Tools.Basic

/-!
# Inputs in sections

An input is cut where a line has some number, or matches an expression; each section becomes a file.

## Main definitions

* `Border`, `readBorders` — where an input is cut.
* `Sectioning`, `sections` — the sections of an input.
* `SectionNames` — the names of files.
* `csplit` — the program.
-/

namespace ToyLang.Tools

open Run Text

/-! ### Borders -/

/-- What a section ends in front of. -/
inductive BorderKind where
  | line (number : Nat)
  /-- A line near one that matches; the section itself may not be wanted. -/
  | matching (r : Regex) (distance : Int) (isDropped : Bool)

/-- A border: how it is written, and how many more times it is used; none stands for as often as
possible. -/
structure Border where
  text : String
  kind : BorderKind
  again : Option Nat := some 0

/-- The number that a text is, with a sign if that is allowed. -/
def wholeText? (text : String) (signed : Bool) : Option Int :=
  let cs := text.toList.dropWhile fun c => c = ' ' || ('\t' ≤ c && c ≤ '\x0d')
  let digits := if cs.head? = some '+' ∨ (signed ∧ cs.head? = some '-') then cs.drop 1 else cs
  if digits.isEmpty || !digits.all Char.isDigit then none
  else
    let n := Nat.ofDigitChars 10 digits 0
    if twoTo 63 ≤ n then none else some (if cs.head? = some '-' then -(n : Int) else n)

/-- Read an expression between marks, and the distance behind it. -/
def readMatching (mark : Char) (text : String) : Except String BorderKind := do
  let rest := text.toList.drop 1
  let behind := rest.reverse.takeWhile (· ≠ mark)
  if behind.length = rest.length then
    throw (text ++ ": closing delimiter '" ++ String.singleton mark ++ "' missing")
  let pattern := String.ofList (rest.take (rest.length - behind.length - 1))
  match Regex.ofText? { extended := false } (widen pattern) with
  | .error e => throw (mentioned text ++ ": invalid regular expression: " ++ e)
  | .ok (r, _) =>
      let distance := String.ofList behind.reverse
      if distance = "" then return .matching r 0 (mark = '%')
      match wholeText? distance true with
      | some n => return .matching r n (mark = '%')
      | none => throw (mentioned text ++ ": integer expected after delimiter")

/-- Read how many more times a border is used. -/
def readAgain (text : String) : Except String (Option Nat) :=
  match text.toList.drop 1 with
  | ['*', '\x7d'] => .ok none
  | cs =>
      if cs.getLast? ≠ some '\x7d' then
        .error (mentioned text ++ ": '\x7d' is required in repeat count")
      else match wholeText? (String.ofList cs.dropLast) false with
        | some n => .ok (some n.toNat)
        | none => .error (mentioned (String.ofList text.toList.dropLast)
            ++ "\x7d: integer required between '\x7b' and '\x7d'")

/-- Read borders, of which `last` is the last line number.  What is strange about them comes with
them, also if one of them is wrong. -/
def readBorders : (last : Nat) → List String → List String × Except String (List Border)
  | _, [] => ([], .ok [])
  | last, text :: rest =>
      let mark? := (text.toList.head?).filter fun c => c = '/' || c = '%'
      let read : List String × Except String (BorderKind × Nat) := match mark? with
        | some mark => ([], (readMatching mark text).map fun kind => (kind, last))
        | none => match wholeText? text false with
            | none => ([], .error (mentioned text ++ ": invalid pattern"))
            | some 0 => ([], .error (text ++ ": line number must be greater than zero"))
            | some n =>
                if n < last then
                  ([], .error ("line number " ++ mentioned text
                    ++ " is smaller than preceding line number, " ++ toString last))
                else if n = last then
                  (["warning: line number " ++ mentioned text
                    ++ " is the same as preceding line number"], .ok (.line last, last))
                else ([], .ok (.line n.toNat, n.toNat))
      match read.2 with
      | .error e => (read.1, .error e)
      | .ok (kind, last) =>
          let isCount (next : String) : Bool := next.startsWith "\x7b"
          match rest with
          | next :: others =>
              if isCount next then
                match readAgain next with
                | .error e => (read.1, .error e)
                | .ok again =>
                    let (told, found) := readBorders last others
                    (read.1 ++ told, found.map ({ text := text, kind := kind, again := again } :: ·))
              else
                let (told, found) := readBorders last (next :: others)
                (read.1 ++ told, found.map ({ text := text, kind := kind } :: ·))
          | [] => (read.1, .ok [{ text := text, kind := kind }])

/-! ### Sections -/

/-- How cutting ends before all borders have been used. -/
inductive SectionEnd where
  /-- There are no more matches, and that is all right. -/
  | done
  | failed (text : String)
  /-- There is nothing to read. -/
  | vanished

/-- An input that is being cut. -/
structure Sectioning where
  /-- The lines, and how many of them have been taken. -/
  lines : Array String
  taken : Nat := 0
  /-- The number of the line that was looked at last. -/
  current : Nat := 0
  /-- The sections, the last one first. -/
  closed : List String := []
  /-- The lines of the section that is open, the last one first. -/
  opened : Option (List String) := none
  /-- Whether the lines that match are left out. -/
  leavesOut : Bool := false

namespace Sectioning

/-- Take the next line, if there is one. -/
def remove (s : Sectioning) : Option (String × Sectioning) :=
  (s.lines[s.taken]?).map fun line =>
    (line, { s with taken := s.taken + 1, current := max s.current (s.taken + 1) })

/-- Leave out the next line, if there is one. -/
def skip (s : Sectioning) : Sectioning := (s.remove.map Prod.snd).getD s

/-- Put a line into the section that is open. -/
def save (s : Sectioning) (line : String) : Sectioning :=
  { s with opened := s.opened.map (line :: ·) }

/-- Begin a section. -/
def begin_ (s : Sectioning) : Sectioning := { s with opened := some [] }

/-- End the section that is open. -/
def close (s : Sectioning) : Sectioning :=
  match s.opened with
  | none => s
  | some lines => { s with opened := none, closed := String.join lines.reverse :: s.closed }

/-- Put all that is left into the section that is open. -/
def saveRest (s : Sectioning) : Sectioning :=
  let rest := (s.lines.extract s.taken s.lines.size).toList
  { s with taken := s.lines.size, opened := s.opened.map (rest.reverse ++ ·) }

/-- Take lines until so many have been taken; without enough of them there is no answer. -/
def takeTo (s : Sectioning) (count : Nat) : Sectioning × Bool :=
  let lines := (s.lines.extract s.taken (max s.taken count)).toList
  let taken := s.taken + lines.length
  ({ s with
      taken := taken
      current := if lines.isEmpty then s.current else max s.current taken
      opened := s.opened.map (lines.reverse ++ ·) },
    count ≤ taken)

/-- Say what is wrong the `round`-th time that a border is used again. -/
def complaint (text what : String) (round : Nat) : String :=
  mentioned text ++ ": " ++ what
    ++ (if round = 0 then "" else " on repetition " ++ toString round)

/-- Cut in front of a line. -/
def atLine (s : Sectioning) (text : String) (number round : Nat) :
    Sectioning × Option SectionEnd :=
  let s := s.begin_
  let shown := toString number
  let isOver (s : Sectioning) : Bool := s.lines.size ≤ s.current
  let fail (s : Sectioning) : Sectioning × Option SectionEnd :=
    (s, some (.failed (complaint (if text = "" then text else shown)
      "line number out of range" round)))
  if isOver s && s.leavesOut then fail s
  else if s.lines.size ≤ s.taken then (s, some .vanished)
  else
    let (s, isEnough) := s.takeTo (number * (round + 1) - 1)
    if !isEnough then fail s
    else
      let s := s.close
      if s.leavesOut then (s.skip, none)
      else if isOver s then fail s
      else (s, none)

/-- The number of the first line behind some others that matches. -/
def findLine? (s : Sectioning) (r : Regex) (behind : Nat) : Option Nat :=
  ((List.range' behind (s.lines.size - behind)).find? fun i =>
    let line := s.lines.getD i ""
    let text := if line.endsWith "\n" then String.ofList line.toList.dropLast else line
    r.isIn { text := (widen text).toList.toArray, wide := true }).map (· + 1)

/-- Cut near a line that matches. -/
def atMatch (s : Sectioning) (text : String) (r : Regex) (distance : Int) (isDropped endless : Bool)
    (round : Nat) : Sectioning × Option SectionEnd :=
  let s := if isDropped then s else s.begin_
  let fail (s : Sectioning) (what : String) (round : Nat) : Sectioning × Option SectionEnd :=
    (s, some (.failed (complaint text what round)))
  match s.findLine? r s.current with
  | none =>
      let s := if isDropped then s else s.saveRest.close
      if endless then (s, some .done) else fail s "match not found" round
  | some number =>
      let s := if distance < 0 then { s with current := number }
        else { (s.takeTo (number - 1)).1 with current := number }
      let border : Int := number + distance
      if s.lines.size ≤ s.taken then (s, some .vanished)
      else if border < s.taken + 1 then fail s "line number out of range" 0
      else
        let (s, isEnough) := s.takeTo (border.toNat - 1)
        if !isEnough then fail s "line number out of range" 0
        else
          let s := s.close
          let s := if 0 < distance then { s with current := border.toNat } else s
          (if s.leavesOut then s.skip else s, none)

/-- Cut at a border, as often as it is used. -/
def atBorder (b : Border) : (steps round : Nat) → Sectioning → Sectioning × Option SectionEnd
  | 0, _, s => (s, none)
  | steps + 1, round, s =>
      if b.again.any (· < round) then (s, none)
      else
        let (s, stop?) := match b.kind with
          | .line number => s.atLine b.text number round
          | .matching r distance isDropped =>
              s.atMatch b.text r distance isDropped b.again.isNone round
        if stop?.isSome then (s, stop?) else atBorder b steps (round + 1) s

/-- Cut at some borders.  Each use of a border takes a line, or finds a later one. -/
def atBorders (s : Sectioning) : List Border → Sectioning × Option SectionEnd
  | [] => (s.begin_.saveRest.close, none)
  | b :: rest =>
      match atBorder b (s.lines.size + b.again.getD 0 + 2) 0 s with
      | (s, none) => s.atBorders rest
      | (s, some stop) => (s, some stop)

end Sectioning

/-! ### Names -/

/-- How the names of files are made. -/
structure SectionNames where
  start : String := "xx"
  digits : Nat := 2
  /-- What stands in front of the number, how it is shown, and what follows. -/
  form : Option (String × Format.Conversion × String) := none

/-- The name for a section. -/
def SectionNames.name (t : SectionNames) (n : Nat) : String :=
  t.start ++ match t.form with
    | none => String.ofList
        (({ letter := 'd', flags := ['0'], width := t.digits } : Format.Conversion).integer n)
    | some (before, c, after) => before ++ String.ofList (c.integer n) ++ after

/-- Cut a text at the first conversion in it; two marks stand for one. -/
def untilConversion : List Char → List Char × List Char
  | '%' :: '%' :: cs => let (before, rest) := untilConversion cs; ('%' :: before, rest)
  | '%' :: cs => ([], '%' :: cs)
  | c :: cs => let (before, rest) := untilConversion cs; (c :: before, rest)
  | [] => ([], [])

/-- Read the form of the ends of names. -/
def sectionForm (text : String) : Except String (String × Format.Conversion × String) := do
  let (before, rest) := untilConversion text.toList
  if rest.isEmpty then throw "missing % conversion specification in suffix"
  let rest := rest.drop 1
  let flags := rest.takeWhile fun c => ['-', '0', '\'', '#'].contains c
  let rest := rest.drop flags.length
  let width := rest.takeWhile Char.isDigit
  let rest := rest.drop width.length
  let places? := if rest.head? = some '.' then some ((rest.drop 1).takeWhile Char.isDigit) else none
  let rest := rest.drop ((places?.map fun places => places.length + 1).getD 0)
  let number (digits : List Char) : Nat := Nat.ofDigitChars 10 digits 0
  match rest with
  | [] => throw "missing conversion specifier in suffix"
  | letter :: rest =>
      let refused? : Option Char ← match letter with
        | 'd' | 'i' | 'u' => pure (some '#')
        | 'o' | 'x' | 'X' => pure (some '\'')
        | c => throw ("invalid conversion specifier in suffix: " ++ String.singleton c)
      if let some flag := refused?.filter flags.contains then
        throw ("invalid flags in conversion specification: %" ++ String.singleton flag
          ++ String.singleton letter)
      let (after, more) := untilConversion rest
      if !more.isEmpty then throw "too many % conversion specifications in suffix"
      let c : Format.Conversion :=
        { flags := flags.filter (· ≠ '\''), width := number width, precision := places?.map number
          letter := letter }
      return (String.ofList before, c, String.ofList after)

/-! ### The program -/

/-- Write sections to files, and show how long they are.  The answer is how many there are, or the
file that cannot be made. -/
def writeSections (t : SectionNames) (g : Given) (found : List String) :
    Run (Nat × Option (String × FileError)) := do
  let mut count := 0
  for text in found do
    if !(g.has 'z' && text = "") then
      let target := t.name count
      if let .error e ← writePath target text then return (count, some (target, e))
      count := count + 1
      if !(g.has 's' || g.has 'q') then put (toString text.length ++ "\n")
  return (count, none)

/-- Cut an input into sections. -/
def csplit : Tool := fun name arguments =>
  withOptions name
    { flags := "ksqz", valued := "fbn"
      long := [("digits", 'n', .required), ("quiet", 'q', .none), ("silent", 's', .none),
        ("keep-files", 'k', .none), ("elide-empty-files", 'z', .none), ("prefix", 'f', .required),
        ("suffix-format", 'b', .required), ("suppress-matched", 'm', .none)] }
    arguments fun g => do
      let fail (text : String) : Run Nat := do
        blame name text
        return 1
      match wholeNumber "number" 0 ((g.value? 'n').getD "2") (twoTo 31 - 1) with
      | .error e => fail e
      | .ok digits =>
      match g.operands with
      | [] => missingOperand name []
      | [file] => missingOperand name [file]
      | file :: patterns =>
          let form? ← match g.value? 'b' with
            | none => pure none
            | some text => match sectionForm text with
                | .ok form => pure (some form)
                | .error e => return ← fail e
          let t : SectionNames :=
            { start := (g.value? 'f').getD "xx", digits := digits, form := form? }
          let input ← readInput file
          if let .error e := input then
            if e ≠ .isDirectory then
              return ← fail ("cannot open " ++ quoted file ++ " for reading: " ++ e.reason)
          let (told, found) := readBorders 0 patterns
          for text in told do blame name text
          match found with
          | .error e => fail e
          | .ok borders =>
              let lines := (endedLines (input.toOption.getD "")).toArray
              let (s, stop?) :=
                ({ lines := lines, leavesOut := g.has 'm' } : Sectioning).atBorders borders
              let (s, stop?) : Sectioning × Option SectionEnd := match input with
                | .ok _ => (s, stop?)
                | .error e =>
                    ({ lines := #[], closed := [""] }, some (.failed ("read error: " ++ e.reason)))
              let isKept := match stop? with
                | some .vanished => true
                | _ => false
              let all := if isKept then s.closed.reverse else s.close.closed.reverse
              let (count, fault?) ← writeSections t g all
              let undo : Run Nat := do
                if !g.has 'k' then
                  for n in List.range count do
                    discard (change fun tree folder => tree.removeName folder (t.name n))
                return 1
              match fault?, stop? with
              | some (target, e), _ =>
                  blame name (unread target e)
                  undo
              | none, some (.failed text) =>
                  blame name text
                  undo
              | none, some .vanished =>
                  discard (writePath (t.name count) "")
                  fail "input disappeared"
              | none, _ => return 0

end ToyLang.Tools
