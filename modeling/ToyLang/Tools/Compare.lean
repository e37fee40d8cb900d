import ToyLang.Tools.Streams

/-!
# Programs that compare

## Main definitions

* `cmp` — the first byte in which two inputs differ.
* `diff` — the lines in which they differ.
-/

namespace ToyLang.Tools

open Run

/-- The status for inputs that cannot be compared. -/
def trouble : Nat := 2

/-- Complain about the way a comparison is called. -/
def miscompared (name text : String) : Run Nat := do
  blame name text
  blame name ("Try '" ++ name ++ " --help' for more information.")
  return trouble

/-! ### Bytes -/

/-- The number of characters that two texts have in common at their start. -/
def sharedLength : List Char → List Char → Nat
  | a :: as, b :: bs => if a = b then sharedLength as bs + 1 else 0
  | _, _ => 0

/-- The places at which two texts differ. -/
def differences : (place : Nat) → List Char → List Char → List (Nat × Char × Char)
  | place, a :: as, b :: bs =>
      if a = b then differences (place + 1) as bs
      else (place, a, b) :: differences (place + 1) as bs
  | _, _, _ => []

/-- Compare two inputs byte by byte. -/
def cmp : Tool := fun name arguments =>
  withOptions name
    { flags := "bls", valued := "in"
      long := [("silent", 's', .none), ("quiet", 's', .none), ("verbose", 'l', .none),
        ("print-bytes", 'b', .none), ("bytes", 'n', .required),
        ("ignore-initial", 'i', .required)] }
    arguments (fun g => do
      match g.operands with
      | [] => miscompared name ("missing operand after " ++ "'" ++ name ++ "'")
      | first :: others =>
          let second := others.headD "-"
          let silent := g.has 's'
          let readOr (file : String) : Run (Option String) := do
            match ← readInput file with
            | .ok text => return some text
            | .error e =>
                if !silent ∨ e ≠ .noEntry then
                  blame name (quotedIfNeeded file ++ ": " ++ e.reason)
                return none
          match ← readOr first with
          | none => return trouble
          | some a =>
              match ← readOr second with
              | none => return trouble
              | some b =>
                  let skip := ((g.value? 'i').bind sizeOf?).getD 0
                  let cut (text : String) : List Char :=
                    let cs := text.toList.drop skip
                    match (g.value? 'n').bind sizeOf? with
                    | some n => cs.take n
                    | none => cs
                  let (a, b) := (cut a, cut b)
                  if a = b then return 0
                  if silent then return 1
                  let n := sharedLength a b
                  let lines := ((a.take n).filter (· = '\n')).length
                  if g.has 'l' then
                    for (place, x, y) in differences 1 a b do
                      let octal (c : Char) : String :=
                        padLeft 3 (String.ofList (Nat.toDigits 8 c.toNat))
                      put (toString place ++ " " ++ octal x ++ " " ++ octal y ++ "\n")
                  if n < a.length ∧ n < b.length then
                    if !g.has 'l' then
                      put (first ++ " " ++ second ++ " differ: char " ++ toString (n + 1)
                        ++ ", line " ++ toString (lines + 1) ++ "\n")
                  else if !(g.has 'l' ∧ a.length = b.length) then
                    let (file, text) := if a.length < b.length then (first, a) else (second, b)
                    if text.isEmpty then blame name ("EOF on " ++ file ++ " which is empty")
                    else if g.has 'l' then
                      blame name ("EOF on " ++ file ++ " after byte " ++ toString text.length)
                    else
                      blame name ("EOF on " ++ file ++ " after byte " ++ toString text.length
                        ++ ", "
                        ++ (if text.getLast? = some '\n' then "line " ++ toString lines
                          else "in line " ++ toString (lines + 1)))
                  return 1) trouble

/-! ### Lines -/

/-- A step from one list of lines to another one. -/
inductive Change where
  | keep (line : String)
  | drop (line : String)
  | add (line : String)

/-- The lengths of the longest common parts of a line's rest with the rests of the other list, given
those for the line behind it. -/
def sharedRow (same : String → String → Bool) (line : String) (others : List String)
    (below : List Nat) :
    List Nat :=
  let step (cell : String × Nat × Nat) (row : List Nat) : List Nat :=
    let (other, here, after) := cell
    (if same line other then after + 1 else max here (row.headD 0)) :: row
  (others.zip (below.zip (below.drop 1))).foldr step [0]

/-- The table of those lengths for each rest of a list of lines, the whole list first. -/
def sharedTable (same : String → String → Bool) (lines others : List String) : List (List Nat) :=
  lines.foldr (fun line table =>
    sharedRow same line others (table.headD (List.replicate (others.length + 1) 0)) :: table)
    [List.replicate (others.length + 1) 0]

/-- The steps from one list of lines to another one, as few as can be. -/
def changesBy (same : String → String → Bool) : (steps : Nat) → (table : List (List Nat)) →
    (a b : List String) → List Change
  | 0, _, _, _ => []
  | _ + 1, _, [], b => b.map .add
  | _ + 1, _, a, [] => a.map .drop
  | steps + 1, table, x :: xs, y :: ys =>
      let table' := table.map (List.drop 1)
      if same x y then .keep x :: changesBy same steps (table'.drop 1) xs ys
      else
        let down := ((table.drop 1).headD []).headD 0
        let right := (table'.headD []).headD 0
        if right ≤ down then .drop x :: changesBy same steps (table.drop 1) xs (y :: ys)
        else .add y :: changesBy same steps table' (x :: xs) ys

/-- A stretch in which lines differ: the lines before it in both lists, and the changes. -/
structure Hunk where
  before : Nat × Nat
  drops : List String
  adds : List String

/-- Gather changes. -/
def hunksOf (changes : List Change) : List Hunk :=
  let close (h : Hunk) (found : List Hunk) : List Hunk :=
    if h.drops.isEmpty && h.adds.isEmpty then found else found ++ [h]
  let step (state : List Hunk × Hunk × Nat × Nat) (c : Change) : List Hunk × Hunk × Nat × Nat :=
    let (found, h, i, j) := state
    match c with
    | .keep _ => (close h found, ⟨(i + 1, j + 1), [], []⟩, i + 1, j + 1)
    | .drop line => (found, { h with drops := h.drops ++ [line] }, i + 1, j)
    | .add line => (found, { h with adds := h.adds ++ [line] }, i, j + 1)
  let (found, h, _, _) := changes.foldl step ([], ⟨(0, 0), [], []⟩, 0, 0)
  close h found

/-- A range of lines. -/
def rangeText (start count : Nat) : String :=
  if count ≤ 1 then toString (start + count)
  else toString (start + 1) ++ "," ++ toString (start + count)

/-- A line with what is shown behind it if it has no end. -/
def endedLine (mark line : String) : String :=
  if line.endsWith "\n" then mark ++ line else mark ++ line ++ "\n\\ No newline at end of file\n"

/-- A stretch as it is shown. -/
def Hunk.text (h : Hunk) : String :=
  let (i, j) := h.before
  let letter := if h.drops.isEmpty then "a" else if h.adds.isEmpty then "d" else "c"
  rangeText i h.drops.length ++ letter ++ rangeText j h.adds.length ++ "\n"
    ++ String.join (h.drops.map (endedLine "< "))
    ++ (if letter = "c" then "---\n" else "")
    ++ String.join (h.adds.map (endedLine "> "))

/-- The lines around a stretch that are shown with it. -/
def contextSize : Nat := 3

/-- Gather stretches that are close to each other. -/
def gathered : List Hunk → List (List Hunk)
  | [] => []
  | h :: hs =>
      match gathered hs with
      | (next :: group) :: groups =>
          if next.before.1 ≤ h.before.1 + h.drops.length + 2 * contextSize then
            (h :: next :: group) :: groups
          else [h] :: (next :: group) :: groups
      | groups => [h] :: groups

/-- Stretches close to each other, with the lines around them. -/
def unifiedText (old : List String) (group : List Hunk) : String :=
  match group.head?, group.getLast? with
  | some first, some last =>
      let start := first.before.1 - contextSize
      let stop := min old.length (last.before.1 + last.drops.length + contextSize)
      let adds := group.foldl (fun n h => n + h.adds.length) 0
      let drops := group.foldl (fun n h => n + h.drops.length) 0
      let newStart := first.before.2 - (first.before.1 - start)
      let newCount := stop - start + adds - drops
      let range (start count : Nat) : String :=
        if count = 1 then toString (start + 1)
        else toString (if count = 0 then start else start + 1) ++ "," ++ toString count
      let body := group.foldl (fun (text, place) h =>
        (text ++ String.join (((old.take h.before.1).drop place).map (endedLine " "))
          ++ String.join (h.drops.map (endedLine "-")) ++ String.join (h.adds.map (endedLine "+")),
          h.before.1 + h.drops.length)) ("", start)
      "@@ -" ++ range start (stop - start) ++ " +" ++ range newStart newCount ++ " @@\n"
        ++ body.1 ++ String.join (((old.take stop).drop body.2).map (endedLine " "))
  | _, _ => ""

/-- A line with its blanks left out or squeezed, as far as they do not count. -/
def comparable (g : Given) (line : String) : String :=
  let isBlank (c : Char) : Bool := Text.isInClass "space" c
  let line := if g.has 'i' then line.toLower else line
  if g.has 'w' then String.ofList (line.toList.filter (!isBlank ·))
  else if g.has 'b' then " ".intercalate ((String.ofList (line.toList.map fun c =>
    if isBlank c then ' ' else c)).splitOn " " |>.filter (· ≠ ""))
  else line

/-- Compare two inputs line by line. -/
def diff : Tool := fun name arguments =>
  withOptions name
    { flags := "abBiNqrsuwe", valued := "UC"
      long := [("brief", 'q', .none), ("report-identical-files", 's', .none),
        ("unified", 'u', .optional), ("ignore-case", 'i', .none), ("ignore-all-space", 'w', .none),
        ("text", 'a', .none), ("ignore-space-change", 'b', .none), ("recursive", 'r', .none),
        ("new-file", 'N', .none)] }
    arguments (fun g => do
      match g.operands with
      | [] => miscompared name ("missing operand after " ++ "'" ++ name ++ "'")
      | [one] => miscompared name ("missing operand after " ++ "'" ++ one ++ "'")
      | _ :: _ :: extra :: _ => miscompared name ("extra operand " ++ "'" ++ extra ++ "'")
      | [first, second] =>
          let mut texts : List String := []
          for file in [first, second] do
            match ← readInput file with
            | .ok text => texts := texts ++ [text]
            | .error e => blame name (quotedIfNeeded file ++ ": " ++ e.reason)
          match texts with
          | [a, b] =>
              let old := endedLines a
              let new := endedLines b
              let same (x y : String) : Bool := comparable g x = comparable g y
              let start := ((old.zip new).takeWhile fun pair => same pair.1 pair.2).length
              let (restOld, restNew) := (old.drop start, new.drop start)
              let stop := ((restOld.reverse.zip restNew.reverse).takeWhile fun pair =>
                same pair.1 pair.2).length
              let midOld := restOld.take (restOld.length - stop)
              let midNew := restNew.take (restNew.length - stop)
              let middle := changesBy same (midOld.length + midNew.length + 1)
                (sharedTable same midOld midNew) midOld midNew
              let changes := (old.take start).map Change.keep ++ middle
                ++ (restOld.drop (restOld.length - stop)).map Change.keep
              let hunks := hunksOf changes
              if hunks.isEmpty then
                if g.has 's' then
                  put ("Files " ++ first ++ " and " ++ second ++ " are identical\n")
                return 0
              if g.has 'q' then
                put ("Files " ++ first ++ " and " ++ second ++ " differ\n")
              else if g.has 'u' ∨ g.has 'U' then
                let title (mark file : String) : String :=
                  mark ++ " " ++ file ++ "\t1970-01-01 00:00:00.000000000 +0000\n"
                put (title "---" first ++ title "+++" second
                  ++ String.join ((gathered hunks).map (unifiedText old)))
              else put (String.join (hunks.map Hunk.text))
              return 1
          | _ => return trouble) trouble

end ToyLang.Tools
