import ToyLang.Tools.Basic

/-!
# Parts of lines

The positions of bytes, characters and fields that are meant are given by numbers and by ranges of
them.

## Main definitions

* `Span`, `isInSpans` — ranges of positions.
* `SpanWords` — the words for what has positions.
* `spansOf` — the ranges that a list stands for.
* `cut` — parts of lines.
* `paste` — lines side by side.
-/

namespace ToyLang.Tools

open Run

/-! ### Positions -/

/-- A range of positions, counted from one; it may have no end. -/
abbrev Span := Nat × Option Nat

/-- Whether a position is in one of some spans. -/
def isInSpans (spans : List Span) (n : Nat) : Bool :=
  spans.any fun (first, last) => decide (first ≤ n) && last.all fun last => decide (n ≤ last)

/-- The words for what has positions. -/
structure SpanWords where
  badRange : String
  fromOne : String
  tooLarge : String
  badValue : String

/-- The words for fields. -/
def SpanWords.fields : SpanWords where
  badRange := "invalid field range"
  fromOne := "fields are numbered from 1"
  tooLarge := "field number "
  badValue := "invalid field value "

/-- The words for bytes and characters. -/
def SpanWords.characters : SpanWords where
  badRange := "invalid byte or character range"
  fromOne := "byte/character positions are numbered from 1"
  tooLarge := "byte/character offset "
  badValue := "invalid byte/character position "

/-- A span as it is read: the number in front of a dash, and the one that is being read. -/
structure HalfSpan where
  first : Option Nat := none
  dash : Bool := false
  number : Option Nat := none

/-- The span that has been read at its end. -/
def HalfSpan.close (w : SpanWords) (h : HalfSpan) : Except String Span :=
  match h.dash, h.first, h.number with
  | false, _, none | false, _, some 0 => .error w.fromOne
  | false, _, some n => .ok (n, some n)
  | true, none, none => .error "invalid range with no endpoint: -"
  | true, first, none => .ok (first.getD 1, none)
  | true, first, some n =>
      if n < first.getD 1 then .error "invalid decreasing range" else .ok (first.getD 1, some n)

/-- Read spans; each step takes a character. -/
def readSpans (w : SpanWords) : List Char → HalfSpan → Except String (List Span)
  | [], h => (h.close w).map fun span => [span]
  | c :: cs, h =>
      if c = '-' then
        if h.dash then .error w.badRange
        else if h.number = some 0 then .error w.fromOne
        else readSpans w cs { first := h.number, dash := true }
      else if c = ',' ∨ c = ' ' ∨ c = '\t' then do
        let span ← h.close w
        let spans ← readSpans w cs {}
        return span :: spans
      else if c.isDigit then
        let n := 10 * h.number.getD 0 + (c.toNat - '0'.toNat)
        if twoTo 64 - 1 ≤ n then
          let digits := (Nat.toDigits 10 (h.number.getD 0)) ++ (c :: cs).takeWhile Char.isDigit
          .error (w.tooLarge ++ mentioned (String.ofList digits) ++ " is too large")
        else readSpans w cs { h with number := some n }
      else .error (w.badValue ++ mentioned (String.ofList (c :: cs)))

/-- Put spans that share positions together; they are given in order. -/
def mergeSpans : List Span → List Span
  | [] => []
  | (first, last) :: rest =>
      match mergeSpans rest with
      | (first', last') :: others =>
          if last.all (first' ≤ ·) then
            let last : Option Nat := match last, last' with
              | some m, some n => some (max m n)
              | _, _ => none
            (first, last) :: others
          else (first, last) :: (first', last') :: others
      | [] => [(first, last)]

/-- The spans that a list stands for, in order. -/
def spansOf (w : SpanWords) (text : String) : Except String (List Span) := do
  let spans ← readSpans w text.toList {}
  return mergeSpans (spans.mergeSort fun a b => a.1 ≤ b.1)

/-- The spans that a list of fields stands for; a dash alone stands for all of them. -/
def spansOfFields (text : String) : Except String (List Span) :=
  if text = "-" then .ok [(1, none)] else spansOf .fields text

/-- The spans of all positions that some spans leave out; `next` is the first that may be. -/
def complementSpans : List Span → (next : Nat) → List Span
  | [], next => [(next, none)]
  | (first, last) :: rest, next =>
      let before : List Span := if next < first then [(next, some (first - 1))] else []
      match last with
      | some last => before ++ complementSpans rest (last + 1)
      | none => before

/-- Whether a position is the first one of a span. -/
def startsSpan (spans : List Span) (n : Nat) : Bool := spans.any fun span => span.1 = n

/-! ### Some characters or fields -/

/-- The characters at some positions of a line; something stands between the spans. -/
def cutCharacters (spans : List Span) (between : Option String) (line : String) : String :=
  let kept := line.toList.zipIdx.filter fun (_, i) => isInSpans spans (i + 1)
  String.join (kept.zipIdx.map fun ((c, i), place) =>
    (if place ≠ 0 && startsSpan spans (i + 1) then between.getD "" else "") ++ String.singleton c)

/-- The fields at some positions of a line, if it has fields or is shown without. -/
def cutFields (spans : List Span) (delimiter between : String) (onlyDelimited : Bool)
    (line : String) : Option String :=
  match line.splitOn delimiter with
  | [_] => if onlyDelimited then none else some line
  | parts =>
      some (between.intercalate
        ((parts.zipIdx.filter fun (_, i) => isInSpans spans (i + 1)).map Prod.fst))

/-- What is wrong with options that choose parts of lines, the first of them first. -/
def cutFault? : (listed : Bool) → List (Char × String) → Option String
  | listed, [] =>
      if listed then none else some "you must specify a list of bytes, characters, or fields"
  | listed, (c, value) :: rest =>
      if ['b', 'c', 'f'].contains c then
        if listed then some "only one list may be specified" else cutFault? true rest
      else if c = 'd' ∧ 1 < value.length then some "the delimiter must be a single character"
      else cutFault? listed rest

/-- Show parts of lines. -/
def cut : Tool := fun name arguments =>
  withOptions name
    { flags := "nsz", valued := "bcdf"
      long := [("bytes", 'b', .required), ("characters", 'c', .required),
        ("fields", 'f', .required), ("delimiter", 'd', .required), ("only-delimited", 's', .none),
        ("output-delimiter", 'O', .required), ("complement", 'C', .none),
        ("zero-terminated", 'z', .none)] } arguments fun g => do
    if let some text := cutFault? false g.options then return ← misused name text
    let byField := g.has 'f'
    if !byField && g.has 'd' then
      return ← misused name "an input delimiter may be specified only when operating on fields"
    if !byField && g.has 's' then
      return ← misused name
        "suppressing non-delimited lines makes sense\n\tonly when operating on fields"
    let list := (['b', 'c', 'f'].filterMap g.value?).headD ""
    match spansOf (if byField then .fields else .characters) list with
    | .error text => misused name text
    | .ok spans =>
        let spans := if g.has 'C' then complementSpans spans 1 else spans
        let orNull (text : String) : String := if text = "" then "\x00" else text
        let delimiter := orNull ((g.value? 'd').getD "\t")
        let between := (g.value? 'O').map orNull
        let stop := if g.has 'z' then "\x00" else "\n"
        let part (line : String) : Option String :=
          if byField then cutFields spans delimiter (between.getD delimiter) (g.has 's') line
          else some (cutCharacters spans between line)
        forInputs name g.operands fun _ text =>
          put (String.join (((piecesOf stop text).filterMap part).map (· ++ stop)))

/-! ### Side by side -/

/-- The members of a list of delimiters. -/
def delimitersOf : List Char → List String
  | '\\' :: c :: cs =>
      (match c with
        | '0' => ""
        | 'b' => "\x08"
        | 'f' => "\x0c"
        | 'n' => "\n"
        | 'r' => "\x0d"
        | 't' => "\t"
        | 'v' => "\x0b"
        | c => String.singleton c) :: delimitersOf cs
  | c :: cs => String.singleton c :: delimitersOf cs
  | [] => []

/-- Whether a list of delimiters ends with half an escape. -/
def endsEscaping : List Char → Bool
  | ['\\'] => true
  | '\\' :: _ :: cs => endsEscaping cs
  | _ :: cs => endsEscaping cs
  | [] => false

/-- Join texts with delimiters that are used in turn. -/
def joinInTurn (delimiters : List String) (texts : List String) : String :=
  match texts with
  | [] => ""
  | first :: rest =>
      let n := max 1 delimiters.length
      String.join (first :: rest.zipIdx.map fun (text, i) => delimiters.getD (i % n) "" ++ text)

/-- Rows that take one line of each column in turn. -/
def rowsOf (columns : List (List String)) : List (List String) :=
  let height := columns.foldl (fun n c => max n c.length) 0
  (List.range height).map fun i => columns.map fun c => c.getD i ""

/-- Show lines side by side. -/
def paste : Tool := fun name arguments =>
  withOptions name
    { flags := "sz", valued := "d"
      long := [("delimiters", 'd', .required), ("serial", 's', .none),
        ("zero-terminated", 'z', .none)] } arguments fun g => do
    let list := (g.value? 'd').getD "\t"
    if endsEscaping list.toList then
      blame name ("delimiter list ends with an unescaped backslash: " ++ list)
      return 1
    let delimiters := delimitersOf list.toList
    let stop := if g.has 'z' then "\x00" else "\n"
    let files := inputsOf g.operands
    let mut inputs : List (String × List String) := []
    let mut status := 0
    for file in files do
      if !inputs.any fun entry => entry.1 = file then
        match ← readInput file with
        | .ok text => inputs := inputs ++ [(file, piecesOf stop text)]
        | .error e =>
            blame name (quotedIfNeeded file ++ ": " ++ e.reason)
            status := 1
            if !g.has 's' then return 1
    if g.has 's' then
      for file in files do
        match inputs.lookup file with
        | some lines =>
            if file = "-" then inputs := inputs.map fun entry =>
              if entry.1 = "-" then ("-", []) else entry
            put (joinInTurn delimiters lines ++ stop)
        | none => pure ()
      return status
    -- Standard input gives its lines to all the places where it is named, in turn.
    let shares := (files.filter (· = "-")).length
    let columns := files.zipIdx.map fun (file, i) =>
      let lines := (inputs.lookup file).getD []
      if file = "-" then
        let before := ((files.take i).filter (· = "-")).length
        (lines.zipIdx.filter fun (_, j) => j % shares = before).map Prod.fst
      else lines
    put (String.join ((rowsOf columns).map fun row => joinInTurn delimiters row ++ stop))
    return status

end ToyLang.Tools
