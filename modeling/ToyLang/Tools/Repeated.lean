import ToyLang.Tools.Basic

/-!
# Lines that are the same

## Main definitions

* `uniq` — lines that stand one behind the other.
* `comm` — lines of two sorted inputs.
-/

namespace ToyLang.Tools

open Run

/-! ### Runs of lines -/

/-- Which part of a line is compared. -/
structure ComparedPart where
  skippedFields : Nat := 0
  skippedCharacters : Nat := 0
  width : Option Nat := none
  ignoresCase : Bool := false

/-- The part of a line that is compared. -/
def ComparedPart.of (p : ComparedPart) (line : String) : List Char :=
  let blank (c : Char) : Bool := c = ' ' || c = '\t' || c = '\n'
  let drop (cs : List Char) : List Char := (cs.dropWhile blank).dropWhile fun c => !blank c
  let cs := (List.range p.skippedFields).foldl (fun cs _ => drop cs) line.toList
  let cs := cs.drop p.skippedCharacters
  let cs := match p.width with
    | some n => cs.take n
    | none => cs
  if p.ignoresCase then cs.map Char.toLower else cs

/-- Runs of lines that compare equal, in order. -/
def runsOf (same : String → String → Bool) (lines : List String) : List (List String) :=
  lines.foldr (fun line runs => match runs with
    | (next :: more) :: rest =>
        if same line next then (line :: next :: more) :: rest
        else [line] :: (next :: more) :: rest
    | runs => [line] :: runs) []

/-- Where empty lines stand between groups of lines. -/
inductive GroupMarks where
  | before
  | after
  | between
  | around
  deriving DecidableEq

/-- Which lines of a run are shown. -/
structure RunStyle where
  single : Bool := true
  firstRepeated : Bool := true
  laterRepeated : Bool := false
  counted : Bool := false

/-- The lines of a run that are shown. -/
def RunStyle.lines (s : RunStyle) (run : List String) : List String :=
  let shown (line : String) : String :=
    if s.counted then padLeft 7 (toString run.length) ++ " " ++ line else line
  match run with
  | [line] => if s.single then [shown line] else []
  | run =>
      if s.laterRepeated then
        run.dropLast ++ (if s.firstRepeated then run.getLast?.toList else [])
      else if s.firstRepeated then (run.take 1).map shown else []

/-- The lines of groups, and empty lines where marks ask for them. -/
def markGroups (marks : Option GroupMarks) (groups : List (List String)) : List String :=
  let groups := groups.filter (!·.isEmpty)
  match marks with
  | none => groups.flatten
  | some .before => groups.flatMap ("" :: ·)
  | some .after => groups.flatMap (· ++ [""])
  | some .between => [""].intercalate groups
  | some .around => if groups.isEmpty then [] else groups.flatMap ("" :: ·) ++ [""]

/-- Put the number of fields or characters that is given alone into its option. -/
def skippingArgument (argument : String) : List String :=
  match argument.toList with
  | '-' :: cs =>
      if !cs.isEmpty && cs.all Char.isDigit then ["-f", String.ofList cs] else [argument]
  | '+' :: cs =>
      if !cs.isEmpty && cs.all Char.isDigit then ["-s", String.ofList cs] else [argument]
  | _ => [argument]

/-- Show lines that stand one behind the other only once. -/
def uniq : Tool := fun name arguments =>
  withOptions name
    { flags := "cduizD", valued := "fsw"
      long := [("count", 'c', .none), ("repeated", 'd', .none), ("all-repeated", 'A', .optional),
        ("group", 'g', .optional), ("ignore-case", 'i', .none), ("unique", 'u', .none),
        ("skip-fields", 'f', .required), ("skip-chars", 's', .required),
        ("check-chars", 'w', .required), ("zero-terminated", 'z', .none)] }
    (arguments.flatMap skippingArgument) fun g => do
    let asked := [('f', "fields to skip"), ('s', "bytes to skip"), ('w', "bytes to compare")]
    for (c, what) in asked do
      if let some text := g.value? c then
        if text.toNat?.isNone then
          blame name (text ++ ": invalid number of " ++ what)
          return 1
    let number (c : Char) : Option Nat := (g.value? c).bind String.toNat?
    let part : ComparedPart :=
      ⟨(number 'f').getD 0, (number 's').getD 0, number 'w', g.has 'i'⟩
    let grouped := (g.value? 'g').map fun word => if word = "" then "separate" else word
    let repeated := (g.value? 'A').map fun word => if word = "" then "none" else word
    let all := g.has 'D' || g.has 'A'
    withChoice name "--group" (grouped.getD "separate")
      [(["prepend"], GroupMarks.before), (["append"], .after), (["separate"], .between),
        (["both"], .around)] fun groupMarks =>
    withChoice name "--all-repeated" (repeated.getD "none")
      [(["none"], (none : Option GroupMarks)), (["prepend"], some .before),
        (["separate"], some .between)] fun repeatMarks => do
    if let _ :: _ :: extra :: _ := g.operands then return ← extraOperand name extra
    if grouped.isSome && (all || g.has 'c' || g.has 'd' || g.has 'u') then
      return ← misused name "--group is mutually exclusive with -c/-d/-D/-u"
    if all && g.has 'c' then
      return ← misused name
        "printing all duplicated lines and repeat counts is meaningless"
    let file := g.operands.headD "-"
    match ← readInput file with
    | .error .isDirectory =>
        blame name ("error reading " ++ quoted file ++ ": " ++ FileError.isDirectory.reason)
        return 1
    | .error e =>
        blame name (quotedIfNeeded file ++ ": " ++ e.reason)
        return 1
    | .ok text =>
        let stop := if g.has 'z' then "\x00" else "\n"
        let runs := runsOf (fun a b => part.of a = part.of b) (piecesOf stop text)
        let style : RunStyle :=
          { single := !(g.has 'd' || all), firstRepeated := !g.has 'u', laterRepeated := all
            counted := g.has 'c' }
        let lines :=
          if grouped.isSome then markGroups (some groupMarks) runs
          else markGroups repeatMarks (runs.map style.lines)
        let out := String.join (lines.map (· ++ stop))
        match g.operands with
        | [_, target] =>
            match ← writePath target out with
            | .ok () => return 0
            | .error e =>
                blame name (quotedIfNeeded target ++ ": " ++ e.reason)
                return 1
        | _ =>
            put out
            return 0

/-! ### Two sorted inputs -/

/-- How much the order of lines matters. -/
inductive OrderCheck where
  | always
  | ifUnpaired
  | never
  deriving DecidableEq

/-- What comes of comparing: a line for one of three columns, or an input that is out of order. -/
inductive Compared where
  | line (column : Nat) (text : String)
  | disorder (input : Nat)

/-- How far comparing two inputs has got. -/
structure Comparing where
  unpaired : Bool := false
  blamed : List Nat := []
  found : List Compared := []

namespace Comparing

/-- Note a line that stands in front of a smaller one. -/
def check (s : Comparing) (order : OrderCheck) (input : Nat) (a b : Option String) : Comparing :=
  match a, b with
  | some a, some b =>
      if (order = .always || order = .ifUnpaired && s.unpaired) && !s.blamed.contains input
          && b < a then
        { s with blamed := input :: s.blamed, found := .disorder input :: s.found }
      else s
  | _, _ => s

/-- Step behind the first line of an input.  At its end, the last two lines are checked again. -/
def step (s : Comparing) (order : OrderCheck) (input : Nat) (before : Option String) :
    List String → Comparing
  | a :: b :: _ => s.check order input (some a) (some b)
  | [a] => s.check order input before (some a)
  | [] => s

/-- Compare lines, each of which is taken in one step; `a` and `b` are the ones before. -/
def run (order : OrderCheck) : (steps : Nat) → (before before' : Option String) →
    List String → List String → Comparing → Comparing
  | 0, _, _, _, _, s => s
  | steps + 1, p, q, as, bs, s =>
      let first (s : Comparing) : Comparing :=
        let s := { s with unpaired := true }
        let s := { s with found := .line 1 (as.headD "") :: s.found }
        s.step order 1 p as
      let second (s : Comparing) : Comparing :=
        let s := { s with unpaired := true }
        let s := { s with found := .line 2 (bs.headD "") :: s.found }
        s.step order 2 q bs
      match as, bs with
      | [], [] => s
      | [], b :: rest => run order steps p (some b) [] rest (second s)
      | a :: rest, [] => run order steps (some a) q rest [] (first s)
      | a :: as', b :: bs' =>
          if a < b then run order steps (some a) q as' (b :: bs') (first s)
          else if b < a then run order steps p (some b) (a :: as') bs' (second s)
          else
            let s := { s with found := .line 3 b :: s.found }
            let s := (s.step order 1 p (a :: as')).step order 2 q (b :: bs')
            run order steps (some a) (some b) as' bs' s

end Comparing

/-- Show which lines two sorted inputs share. -/
def comm : Tool := fun name arguments =>
  withOptions name
    { flags := "123z"
      long := [("check-order", 'C', .none), ("nocheck-order", 'N', .none),
        ("output-delimiter", 'O', .required), ("total", 'T', .none),
        ("zero-terminated", 'z', .none)] } arguments fun g => do
    let delimiters := g.values 'O'
    if delimiters.any (some · ≠ delimiters.head?) then
      blame name "multiple output delimiters specified"
      return 1
    match g.operands with
    | [] => missingOperand name []
    | [only] => missingOperand name [only]
    | _ :: _ :: extra :: _ => extraOperand name extra
    | [a, b] =>
        let mut texts : List String := []
        for file in [a, b] do
          match ← readInput file with
          | .error e =>
              blame name (quotedIfNeeded file ++ ": " ++ e.reason)
              return 1
          | .ok text => texts := texts ++ [text]
        let order : OrderCheck := match g.last? ['C', 'N'] with
          | some 'C' => .always
          | some _ => .never
          | none => .ifUnpaired
        let stop := if g.has 'z' then "\x00" else "\n"
        let as := piecesOf stop (texts.headD "")
        let bs := piecesOf stop (texts.getD 1 "")
        let tab := match delimiters.head? with
          | some "" => "\x00"
          | some text => text
          | none => "\t"
        let isShown (n : Nat) : Bool := !g.has (Char.ofNat ('0'.toNat + n))
        let found := (Comparing.run order (as.length + bs.length) none none as bs {}).found.reverse
        let mut totals : Nat × Nat × Nat := (0, 0, 0)
        for entry in found do
          match entry with
          | .line column text =>
              let tabs := (List.range (column - 1)).filter fun i => isShown (i + 1)
              if isShown column then
                put (String.join (tabs.map fun _ => tab) ++ text ++ stop)
              totals := match column, totals with
                | 1, (i, j, k) => (i + 1, j, k)
                | 2, (i, j, k) => (i, j + 1, k)
                | _, (i, j, k) => (i, j, k + 1)
          | .disorder input =>
              blame name ("file " ++ toString input ++ " is not in sorted order")
              if order = .always then return 1
        if g.has 'T' then
          let (i, j, k) := totals
          put (toString i ++ tab ++ toString j ++ tab ++ toString k ++ tab ++ "total" ++ stop)
        let isDisordered := found.any fun entry => entry matches .disorder _
        if isDisordered then
          blame name "input is not in sorted order"
          return 1
        return 0

end ToyLang.Tools
