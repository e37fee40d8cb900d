import ToyLang.Tools.Keys

/-!
# Sorting lines

Lines are sorted by keys, and in the end by all of their text.

## Main definitions

* `SortPlan` — how lines are sorted.
* `sort` — the program.
-/

namespace ToyLang.Tools

open Run

/-! ### Plans -/

/-- How lines are sorted. -/
structure SortPlan where
  keys : List SortKey := []
  separator : Option Char := none
  /-- Whether lines with the same keys keep their order. -/
  stable : Bool := false
  reverse : Bool := false

/-- The order of two lines by all of their text. -/
def SortPlan.whole (p : SortPlan) (a b : List Char) : Ordering :=
  if p.reverse then (compareChars a b).swap else compareChars a b

/-- The order of two lines. -/
def SortPlan.order (p : SortPlan) (a b : List Char) : Ordering :=
  if p.keys.isEmpty then p.whole a b
  else
    let byKeys := compareKeys p.separator a b p.keys
    if p.stable then byKeys else byKeys.then (p.whole a b)

/-- Lines without those that compare equal to the one before. -/
def dropEqual (equal : List Char → List Char → Bool) : List (List Char) → List (List Char)
  | a :: b :: rest =>
      if equal a b then dropEqual equal (a :: rest) else a :: dropEqual equal (b :: rest)
  | lines => lines
termination_by lines => lines.length

/-- The first line that is out of order, with its number. -/
def firstDisorder (bad : List Char → List Char → Bool) : (number : Nat) → List (List Char) →
    Option (Nat × List Char)
  | n, a :: b :: rest => if bad a b then some (n + 1, b) else firstDisorder bad (n + 1) (b :: rest)
  | _, _ => none

/-! ### Options -/

/-- The options of the program that sorts. -/
def sortOptions : OptionTable where
  flags := "nrufbdighMVscCmzR"
  valued := "ktoST"
  optional := "y"
  long := [("ignore-leading-blanks", 'b', .none), ("check", 'c', .optional),
    ("compress-program", 'Z', .required), ("dictionary-order", 'd', .none),
    ("ignore-case", 'f', .none), ("files0-from", 'F', .required),
    ("general-numeric-sort", 'g', .none), ("ignore-nonprinting", 'i', .none),
    ("key", 'k', .required), ("merge", 'm', .none), ("month-sort", 'M', .none),
    ("numeric-sort", 'n', .none), ("human-numeric-sort", 'h', .none), ("version-sort", 'V', .none),
    ("random-sort", 'R', .none), ("random-source", 'Q', .required), ("sort", 'W', .required),
    ("output", 'o', .required), ("reverse", 'r', .none), ("stable", 's', .none),
    ("batch-size", 'B', .required), ("buffer-size", 'S', .required),
    ("field-separator", 't', .required), ("temporary-directory", 'T', .required),
    ("unique", 'u', .none), ("zero-terminated", 'z', .none), ("parallel", 'P', .required)]
  older := fun start next =>
    (SortKey.ofOlderText? {} start next).map fun (_, count) =>
      (('+', start ++ (if count = 2 then " " ++ next.getD "" else "")), count)

/-- The words for styles. -/
def sortWords : List (List String × Char) :=
  [(["general-numeric"], 'g'), (["human-numeric"], 'h'), (["month"], 'M'), (["numeric"], 'n'),
    (["random"], 'R'), (["version"], 'V')]

/-- The words for a check. -/
def checkWords : List (List String × Char) :=
  [(["quiet", "silent"], 'C'), (["diagnose-first"], 'c')]

/-- The separator that a text means. -/
def separatorOf (text : String) : Except String Char :=
  match text.toList with
  | ['\\', '0'] => .ok '\x00'
  | [c] => .ok c
  | [] => .error "empty tab"
  | _ => .error ("multi-character tab " ++ mentioned text)

/-- What is wrong with a size of a buffer. -/
def bufferFault? (option text : String) : Option String :=
  let digits := text.toList.takeWhile Char.isDigit
  let suffix := text.toList.drop digits.length
  if digits.isEmpty then some ("invalid " ++ option ++ " argument '" ++ text ++ "'")
  else if suffix.isEmpty || suffix = ['%'] || (suffix.length = 1
      && (suffix.all "bEgGkKmMPtTYZ".toList.contains)) then none
  else some ("invalid suffix in " ++ option ++ " argument '" ++ text ++ "'")

/-- What the options say, or the first thing that is wrong with them. -/
def planOf (name : String) (g : Given) : Except String SortPlan := do
  let usual := g.options.foldl (fun o (c, _) => (o.add? c).getD o) ({} : SortStyle)
  let mut keys : List SortKey := []
  let mut separator : Option Char := none
  let mut output : Option String := none
  for (letter, text) in g.options do
    if letter = 'k' then keys := keys ++ [← SortKey.ofText? usual text]
    else if letter = '+' then
      let words := text.splitOn " "
      if let some (key, _) := SortKey.ofOlderText? usual (words.headD "") words[1]? then
        keys := keys ++ [← key]
    else if letter = 't' then
      let found ← separatorOf text
      if separator.any (· ≠ found) then throw "incompatible tabs"
      separator := some found
    else if letter = 'o' then
      if output.any (· ≠ text) then throw "multiple output files specified"
      output := some text
    else if letter = 'S' then
      if let some fault := bufferFault? "-S" text then throw fault
    else if letter = 'B' then
      if !(text.toList.all Char.isDigit && !text.isEmpty) then
        throw ("invalid --batch-size argument '" ++ text ++ "'")
      if Nat.ofDigitChars 10 text.toList 0 < 2 then
        throw ("invalid --batch-size argument " ++ mentioned text ++ "\n" ++ name
          ++ ": minimum --batch-size argument is " ++ mentioned "2")
    else if letter = 'P' then
      if !(text.toList.all Char.isDigit && !text.isEmpty) then
        throw ("invalid --parallel argument '" ++ text ++ "'")
      if Nat.ofDigitChars 10 text.toList 0 = 0 then throw "number in parallel must be nonzero"
  if keys.isEmpty ∧ !({ usual with reverse := false } : SortStyle).isPlain then
    keys := [{ field := 0, char := 0, style := usual }]
  for key in keys do
    if let some letters := key.style.conflict? then
      throw ("options '-" ++ letters ++ "' are incompatible")
  return { keys, separator, stable := g.has 's' || g.has 'u', reverse := usual.reverse }

/-! ### The program -/

/-- Check that the lines of a file are sorted. -/
def checkSorted (name : String) (plan : SortPlan) (isSilent unique : Bool) (mark file : String) :
    Run Nat := do
  match ← readInput file with
  | .error e =>
      blame name ((if e = .isDirectory then "read failed: " else "open failed: ") ++ unread file e)
      return 2
  | .ok text =>
      let bad (a b : List Char) : Bool :=
        plan.order a b = .gt || (unique && plan.order a b = .eq)
      match firstDisorder bad 1 ((piecesOf mark text).map String.toList) with
      | none => return 0
      | some (number, line) =>
          if !isSilent then
            complain (name ++ ": " ++ file ++ ":" ++ toString number ++ ": disorder: "
              ++ String.ofList line ++ mark)
          return 1

/-- Sort the lines of files. -/
def sortFiles (name : String) (plan : SortPlan) (g : Given) (mark : String)
    (files : List String) : Run Nat := do
  let mut runs : List (List (List Char)) := []
  let mut faults : List (Bool × String) := []
  for file in files do
    match ← readInput file with
    | .error e =>
        let isUnreadable : Bool := e = .isDirectory
        faults := faults ++ [(isUnreadable,
          (if isUnreadable then "read failed: " else "cannot read: ") ++ unread file e)]
    | .ok text => runs := runs ++ [(piecesOf mark text).map String.toList]
  match faults.find? (fun f => !f.1) <|> faults.head? with
  | some (_, fault) =>
      blame name fault
      return 2
  | none =>
      let before (a b : List Char) : Bool := plan.order a b ≠ .gt
      let sorted :=
        if g.has 'm' then runs.foldl (fun lines run => lines.merge run before) []
        else runs.flatten.mergeSort before
      let kept :=
        if g.has 'u' then dropEqual (fun a b => plan.order a b = .eq) sorted else sorted
      let text := String.join (kept.map fun line => String.ofList line ++ mark)
      match g.value? 'o' with
      | none =>
          put text
          return 0
      | some file =>
          match ← writePath file text with
          | .ok () => return 0
          | .error e =>
              blame name ("open failed: " ++ unread file e)
              return 2

/-- Sort as options say. -/
def sortAs (name : String) (g : Given) : Run Nat := do
  match planOf name g with
  | .error text =>
      blame name text
      return 2
  | .ok plan =>
      let mark := if g.has 'z' then "\x00" else "\n"
      let checks := (g.options.map Prod.fst).filter fun c => c = 'c' || c = 'C'
      match checks.head? with
      | some check =>
          if checks.any (· ≠ check) then
            blame name "options '-cC' are incompatible"
            return 2
          match g.operands with
          | _ :: operand :: _ =>
              blame name ("extra operand " ++ quoted operand ++ " not allowed with -"
                ++ String.singleton check)
              return 2
          | operands =>
              if g.has 'o' then
                blame name ("options '-" ++ String.singleton check ++ "o' are incompatible")
                return 2
              checkSorted name plan (check = 'C') (g.has 'u') mark (operands.headD "-")
      | none =>
          match g.value? 'F' with
          | none => sortFiles name plan g mark (inputsOf g.operands)
          | some list =>
              if let some operand := g.operands.head? then
                blame name ("extra operand " ++ quoted operand)
                complain "file operands cannot be combined with --files0-from\n"
                return ← askForHelp name 2
              match ← readInput list with
              | .error e =>
                  blame name ("open failed: " ++ unread list e)
                  return 2
              | .ok text =>
                  let files := piecesOf "\x00" text
                  if files.isEmpty then
                    blame name ("no input from " ++ quoted list)
                    return 2
                  sortFiles name plan g mark files

/-- Sort lines. -/
def sort : Tool := fun name arguments =>
  withOptions name sortOptions arguments (fun g =>
    let withCheck (g : Given) : Run Nat :=
      match g.value? 'c' with
      | none | some "" => sortAs name g
      | some word => withChoice name "--check" word checkWords fun c =>
          sortAs name { g with options := g.options.filter (fun o => o.1 ≠ 'c') ++ [(c, "")] }
    match g.value? 'W' with
    | none => withCheck g
    | some word => withChoice name "--sort" word sortWords fun c =>
        withCheck { g with options := g.options ++ [(c, "")] }) 2

end ToyLang.Tools
