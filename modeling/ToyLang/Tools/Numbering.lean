import ToyLang.Text.RegexSyntax
import ToyLang.Tools.Basic

/-!
# Lines with numbers

A text has pages, and a page has three sections; lines that consist of marks separate them.  Each
section says which of its lines have numbers.

## Main definitions

* `Numbering` — which lines have numbers.
* `nl` — lines with numbers.
-/

namespace ToyLang.Tools

open Run Text

/-- Which lines of a section have numbers. -/
inductive Numbering where
  | all
  | nonempty
  | none
  | matching (r : Regex)

/-- Read which lines have numbers. -/
def Numbering.ofText? (text : String) : Option (Except String Numbering) :=
  match text.toList with
  | ['a'] => some (.ok .all)
  | ['t'] => some (.ok .nonempty)
  | ['n'] => some (.ok .none)
  | 'p' :: pattern =>
      match Regex.ofText? { extended := false } (String.ofList pattern) with
      | .ok (r, _) => some (.ok (.matching r))
      | .error text => some (.error text)
  | _ => Option.none

/-- Where a number stands in its column. -/
inductive NumberPlace where
  | left
  | right
  | zeros

/-- How lines are numbered. -/
structure NumberStyle where
  header : Numbering := .none
  body : Numbering := .nonempty
  footer : Numbering := .none
  start : Int := 1
  step : Int := 1
  /-- How many empty lines count as one. -/
  blanks : Nat := 1
  width : Nat := 6
  place : NumberPlace := .right
  separator : String := "\t"
  /-- Whether numbers go on from page to page. -/
  goesOn : Bool := false
  /-- The mark of which the lines between sections consist. -/
  mark : List Char := ['\\', ':']

/-- The number of the next line, the section, and the empty lines just passed. -/
structure NumberState where
  number : Int
  section_ : Numbering
  blanks : Nat := 0

namespace NumberStyle

/-- A number in its column. -/
def shown (s : NumberStyle) (n : Int) : String :=
  let digits := toString n.natAbs
  let sign := if n < 0 then "-" else ""
  match s.place with
  | .left => padRight s.width (sign ++ digits)
  | .right => padLeft s.width (sign ++ digits)
  | .zeros =>
      sign ++ String.ofList (List.replicate (s.width - sign.length - digits.length) '0') ++ digits

/-- The section that a line begins, if it consists of marks. -/
def opened? (s : NumberStyle) (line : String) : Option Numbering :=
  let cs := line.toList
  if s.mark.length < 2 then none
  else if cs = s.mark ++ s.mark ++ s.mark then some s.header
  else if cs = s.mark ++ s.mark then some s.body
  else if cs = s.mark then some s.footer
  else none

/-- Whether a line has a number, and how many empty lines have passed with it. -/
def counts (s : NumberStyle) (state : NumberState) (line : String) : Bool × Nat :=
  match state.section_ with
  | .all =>
      if s.blanks ≤ 1 then (true, 0)
      else if line ≠ "" then (true, 0)
      else if state.blanks + 1 = s.blanks then (true, 0)
      else (false, state.blanks + 1)
  | .nonempty => (line ≠ "", state.blanks)
  | .none => (false, state.blanks)
  | .matching r => (r.isIn { text := line.toList.toArray }, state.blanks)

/-- A line as it is shown, and what comes next. -/
def line (s : NumberStyle) (state : NumberState) (text : String) : String × NumberState :=
  match s.opened? text with
  | some next =>
      ("\n", { state with
        section_ := next
        number := if s.goesOn then state.number else s.start })
  | none =>
      let (counted, blanks) := s.counts state text
      if counted then
        (s.shown state.number ++ s.separator ++ text ++ "\n",
          { state with number := state.number + s.step, blanks := blanks })
      else
        (padRight (s.width + s.separator.length) "" ++ text ++ "\n",
          { state with blanks := blanks })

end NumberStyle

/-- A whole number, or what is wrong with it. -/
def signedNumber (what text : String) (least : Int) : Except String Int :=
  match text.toInt? with
  | some n =>
      if n < least then
        .error ("invalid " ++ what ++ ": " ++ mentioned text ++ ": Numerical result out of range")
      else .ok n
  | none => .error ("invalid " ++ what ++ ": " ++ mentioned text)

/-- Pass the lines of inputs on with their numbers. -/
def nl : Tool := fun name arguments =>
  withOptions name
    { flags := "p", valued := "bdfhilnsvw"
      long := [("body-numbering", 'b', .required), ("footer-numbering", 'f', .required),
        ("header-numbering", 'h', .required), ("join-blank-lines", 'l', .required),
        ("line-increment", 'i', .required), ("no-renumber", 'p', .none),
        ("number-format", 'n', .required), ("number-separator", 's', .required),
        ("number-width", 'w', .required), ("section-delimiter", 'd', .required),
        ("starting-line-number", 'v', .required)] } arguments fun g => do
    let mut style : NumberStyle := { goesOn := g.has 'p' }
    let mut usable := true
    for (c, text) in g.options do
      let lowest : Int := -(twoTo 63 : Int)
      match c with
      | 'b' | 'f' | 'h' =>
          let what := if c = 'b' then "body" else if c = 'f' then "footer" else "header"
          match Numbering.ofText? text with
          | some (.ok numbering) =>
              style := if c = 'b' then { style with body := numbering }
                else if c = 'f' then { style with footer := numbering }
                else { style with header := numbering }
          | some (.error fault) =>
              blame name fault
              return 1
          | none =>
              blame name ("invalid " ++ what ++ " numbering style: " ++ mentioned text)
              usable := false
      | 'n' =>
          match text with
          | "ln" => style := { style with place := .left }
          | "rn" => style := { style with place := .right }
          | "rz" => style := { style with place := .zeros }
          | _ =>
              blame name ("invalid line numbering format: " ++ mentioned text)
              usable := false
      | 's' => style := { style with separator := text }
      | 'd' =>
          style := { style with mark := match text.toList with
            | [c] => [c, ':']
            | cs => cs }
      | 'v' | 'i' | 'l' | 'w' =>
          let (what, least) : String × Int := match c with
            | 'v' => ("starting line number", lowest)
            | 'i' => ("line number increment", lowest)
            | 'l' => ("line number of blank lines", 0)
            | _ => ("line number field width", 1)
          match signedNumber what text least with
          | .error fault =>
              blame name fault
              return 1
          | .ok n =>
              style := match c with
                | 'v' => { style with start := n }
                | 'i' => { style with step := n }
                | 'l' => { style with blanks := n.toNat }
                | _ => { style with width := n.toNat }
      | _ => pure ()
    if !usable then return ← askForHelp name 1
    let mut state : NumberState := { number := style.start, section_ := style.body }
    let mut status := 0
    for file in inputsOf g.operands do
      match ← readInput file with
      | .error e =>
          blame name (quotedIfNeeded file ++ ": " ++ e.reason)
          status := 1
      | .ok text =>
          let mut out := ""
          for text in linesOf text do
            let (shown, next) := style.line state text
            out := out ++ shown
            state := next
          put out
    return status

end ToyLang.Tools
