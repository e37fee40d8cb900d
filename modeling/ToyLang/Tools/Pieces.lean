import ToyLang.Tools.Basic

/-!
# Inputs in pieces

An input is cut into pieces of some bytes or lines, or into a number of pieces; each becomes a file.

## Main definitions

* `PieceRule` — how an input is cut.
* `PieceRule.pieces` — its pieces.
* `pieceNames` — the ends of the names of files.
* `split` — the program.
-/

namespace ToyLang.Tools

open Run

/-! ### Pieces -/

/-- How an input is cut. -/
inductive PieceRule where
  | lines (count : Nat)
  | bytes (count : Nat)
  /-- As many whole lines as fit into some bytes. -/
  | lineBytes (count : Nat)
  /-- A number of pieces, or only one of them. -/
  | chunks (count : Nat) (only : Option Nat)
  /-- A number of pieces with whole lines. -/
  | lineChunks (count : Nat) (only : Option Nat)
  /-- A number of pieces that get lines in turn. -/
  | inTurn (count : Nat) (only : Option Nat)

/-- Some members of a list at a time; each step takes at least one. -/
def grouped {α : Type} (size : Nat) : (steps : Nat) → List α → List (List α)
  | 0, _ | _, [] => []
  | steps + 1, xs => xs.take (max size 1) :: grouped size steps (xs.drop (max size 1))

/-- As many whole lines at a time as fit; a line that does not fit is cut.  Each step takes a
character at least. -/
def fitted (stop : Char) (size : Nat) : (steps : Nat) → List Char → List (List Char)
  | 0, _ | _, [] => []
  | steps + 1, cs =>
      if cs.length < size then [cs]
      else
        let piece := cs.take size
        let rest := piece.reverse.takeWhile (· ≠ stop)
        let length := if rest.length = piece.length then size else size - rest.length
        cs.take length :: fitted stop size steps (cs.drop length)

/-- In which of some pieces of a size a line stands that starts at a place. -/
def chunkOfLine (size count place : Nat) : Nat :=
  if place = 0 then 0 else if size = 0 then count - 1 else min (place / size) (count - 1)

/-- The lines with the places where they start. -/
def placedLines (lines : List String) : List (String × Nat) :=
  (lines.foldl (fun (found, place) line => ((line, place) :: found, place + line.length))
    (([] : List (String × Nat)), 0)).1.reverse

namespace PieceRule

/-- How many pieces there are, if that is said. -/
def count? : PieceRule → Option Nat
  | chunks n _ | lineChunks n _ | inTurn n _ => some n
  | _ => none

/-- The one piece that is wanted, if only one is. -/
def only? : PieceRule → Option Nat
  | chunks _ k | lineChunks _ k | inTurn _ k => k
  | _ => none

/-- The pieces of an input. -/
def pieces (stop : Char) (text : String) : PieceRule → List String
  | lines count => (grouped count (text.length + 1) (endedPieces stop text)).map String.join
  | bytes count => (grouped count (text.length + 1) text.toList).map String.ofList
  | lineBytes count => (fitted stop count (text.length + 1) text.toList).map String.ofList
  | chunks count _ =>
      let size := max 1 (text.length / count)
      (List.range count).map fun i =>
        let part := text.toList.drop (i * size)
        String.ofList (if i + 1 = count then part else part.take size)
  | lineChunks count _ =>
      let found := (placedLines (endedPieces stop text)).map fun (line, place) =>
        (line, chunkOfLine (text.length / count) count place)
      (List.range count).map fun i =>
        String.join ((found.filter fun l => l.2 = i).map Prod.fst)
  | inTurn count _ =>
      let found := (endedPieces stop text).zipIdx
      (List.range count).map fun i =>
        String.join ((found.filter fun l => l.2 % count = i).map Prod.fst)

end PieceRule

/-! ### Names -/

/-- How the ends of the names of files are made. -/
structure NameRule where
  letters : List Char := (List.range 26).map fun i => Char.ofNat ('a'.toNat + i)
  length : Nat := 2
  start : Nat := 0
  /-- Whether names become longer when there are no more of them. -/
  grows : Bool := true

/-- A number in letters, as many as are asked for. -/
def lettered (letters : List Char) (length n : Nat) : String :=
  String.ofList ((List.range length).reverse.map fun i =>
    letters.getD (n / Nat.pow letters.length i % letters.length) 'a')

/-- The end of the name for a piece.  Where names grow, the last letter in front is kept for longer
ones; each step makes them longer. -/
def NameRule.ending (r : NameRule) : (steps n : Nat) → (before : String) → (length : Nat) → String
  | 0, _, before, _ => before
  | steps + 1, n, before, length =>
      let base := r.letters.length
      let room := Nat.pow base (length - 1) * (base - 1)
      if r.grows && room ≤ n then
        r.ending steps (n - room) (before ++ String.singleton (r.letters.getLastD 'z')) (length + 1)
      else before ++ lettered r.letters length n

/-- The end of the name for a piece, unless there are no more of them. -/
def NameRule.name? (r : NameRule) (i : Nat) : Option String :=
  let n := r.start + i
  if !r.grows && Nat.pow r.letters.length r.length ≤ n then none
  else some (r.ending (n + 2) n "" r.length)

/-- How many letters are needed for a number of pieces. -/
def NameRule.needed (r : NameRule) (count : Nat) : Nat :=
  let last := count - 1 + (if r.start < count then r.start else 0)
  (List.range (last + 1)).foldl (fun found i =>
    if found = i + 1 ∨ last < Nat.pow r.letters.length found then found else found + 1) 0

/-! ### The program -/

/-- What is asked for. -/
structure Splitting where
  rule : Option PieceRule := none
  names : NameRule := {}
  length : Option Nat := none
  stop : Option Char := none
  ending : String := ""
  /-- How many digits the number has at which names are said to start. -/
  startDigits : Nat := 0

/-- What is wrong with an option, and whether help is offered. -/
structure SplitFault where
  text : String
  helps : Bool := false

/-- A number of pieces as it is written, behind the number of the one that is wanted. -/
def chunkCount (text : String) : Except String (Nat × Option Nat) :=
  match text.splitOn "/" with
  | [count] => (wholeNumber "number of chunks" 1 count).map fun n => (n, none)
  | which :: rest => do
      let n ← wholeNumber "number of chunks" 1 ("/".intercalate rest)
      if which = "" then return (n, none)
      return (n, some (← wholeNumber "chunk number" 1 which n))
  | [] => .error ""

/-- The rule that a text spells. -/
def chunkRule (text : String) : Except String PieceRule := do
  let text := String.ofList (text.toList.dropWhile (· = ' '))
  let rest := String.ofList (text.toList.drop 2)
  if text.startsWith "r/" then
    let (n, only) ← chunkCount rest
    return .inTurn n only
  else if text.startsWith "l/" then
    let (n, only) ← chunkCount rest
    return .lineChunks n only
  else
    let (n, only) ← chunkCount text
    return .chunks n only

/-- A size that is not zero. -/
def pieceSize (what text : String) : Except String Nat :=
  match sizeOrFault what text with
  | .ok 0 => .error ("invalid " ++ what ++ ": " ++ mentioned text
      ++ ": Numerical result out of range")
  | size => size

/-- Add what an option asks for. -/
def Splitting.add (s : Splitting) (option : Char × String) : Except SplitFault Splitting := do
  let (c, text) := option
  let plain {α : Type} (found : Except String α) : Except SplitFault α :=
    found.mapError fun text => ⟨text, false⟩
  let withRule (found : Except String PieceRule) : Except SplitFault Splitting := do
    if s.rule.isSome then throw ⟨"cannot split in more than one way", true⟩
    return { s with rule := some (← plain found) }
  let withDigits (letters : List Char) (what : String) : Except SplitFault Splitting := do
    if !text.toList.all letters.contains then
      throw ⟨mentioned text ++ ": invalid start value for " ++ what ++ " suffix", true⟩
    let value := text.toList.foldl
      (fun n c => n * letters.length + (letters.idxOf? c).getD 0) 0
    return { s with
      names := { s.names with letters := letters, start := value, grows := text = "" }
      startDigits := max (min 1 text.length) (text.toList.dropWhile (· = '0')).length }
  let digits := (List.range 10).map fun i => Char.ofNat ('0'.toNat + i)
  match c with
  | 'l' => withRule ((wholeNumber "number of lines" 1 text).map .lines)
  | 'b' => withRule ((pieceSize "number of bytes" text).map .bytes)
  | 'C' => withRule ((pieceSize "number of lines" text).map .lineBytes)
  | 'n' => withRule (chunkRule text)
  | 'a' => return { s with length := some (← plain (wholeNumber "suffix length" 0 text)) }
  | 'd' | 'D' => withDigits digits "numerical"
  | 'x' | 'X' => withDigits (digits ++ ['a', 'b', 'c', 'd', 'e', 'f']) "hexadecimal"
  | 'A' =>
      if text.toList.contains '/' then
        throw ⟨"invalid suffix " ++ mentioned text ++ ", contains directory separator", true⟩
      return { s with ending := text }
  | 't' =>
      let stop ← match text.toList with
        | [] => throw ⟨"empty record separator", false⟩
        | ['\\', '0'] => pure '\x00'
        | [c] => pure c
        | _ => throw ⟨"multi-character separator " ++ mentioned text, false⟩
      if s.stop.any (· ≠ stop) then throw ⟨"multiple separator characters specified", false⟩
      return { s with stop := some stop }
  | _ => return s

/-- Settle how long names are. -/
def Splitting.named (s : Splitting) : Except SplitFault NameRule := do
  let count? := s.rule.bind PieceRule.count?
  let needed := (count?.map s.names.needed).getD 0
  let grows := s.names.grows && count?.isNone
  match s.length with
  | none | some 0 => return { s.names with length := max 2 needed, grows := grows }
  | some length =>
      if length < needed then
        throw ⟨"the suffix length needs to be at least " ++ toString needed, false⟩
      return { s.names with length := length, grows := false }

/-- An option that is a number of lines. -/
def lineCountOption (argument : String) : String :=
  match argument.toList with
  | '-' :: c :: cs =>
      if c.isDigit && cs.all Char.isDigit then "-l" ++ String.ofList (c :: cs) else argument
  | _ => argument

/-- Cut an input into files. -/
def split : Tool := fun name arguments =>
  withOptions name
    { flags := "deux", valued := "lbnaCt"
      long := [("bytes", 'b', .required), ("lines", 'l', .required), ("line-bytes", 'C', .required),
        ("number", 'n', .required), ("elide-empty-files", 'e', .none), ("unbuffered", 'u', .none),
        ("suffix-length", 'a', .required), ("additional-suffix", 'A', .required),
        ("numeric-suffixes", 'D', .optional), ("hex-suffixes", 'X', .optional),
        ("filter", 'F', .required), ("verbose", 'v', .none), ("separator", 't', .required)] }
    (arguments.map lineCountOption) fun g => do
    let plan : Except SplitFault (Splitting × NameRule) := do
      let s ← g.options.foldlM Splitting.add {}
      return (s, ← s.named)
    match plan, g.operands with
    | .error fault, _ =>
        if fault.helps then return ← misused name fault.text
        blame name fault.text
        return 1
    | _, _ :: _ :: operand :: _ => extraOperand name operand
    | .ok (s, names), operands =>
        if names.length < s.startDigits then
          return ← misused name
            "numerical suffix start value is too large for the suffix length"
        let file := operands.headD "-"
        let start := (operands.drop 1).headD "x"
        let rule := s.rule.getD (.lines 1000)
        let needsSize : Bool := match rule with
          | .chunks _ _ | .lineChunks _ _ => true
          | _ => false
        if needsSize && file = "-" && !(← canSeek 0) then
          blame name "-: cannot determine file size"
          return 1
        match ← readInput file with
        | .error e =>
            blame name (if e = .isDirectory then unread file e else unopened file e)
            return 1
        | .ok text =>
            let pieces := rule.pieces (s.stop.getD '\n') text
            if let some k := rule.only? then
              put (pieces.getD (k - 1) "")
              return 0
            let kept := if g.has 'e' then pieces.filter (· ≠ "") else pieces
            for (piece, i) in kept.zipIdx do
              match names.name? i with
              | none =>
                  blame name "output file suffixes exhausted"
                  return 1
              | some ending =>
                  let target := start ++ ending ++ s.ending
                  if g.has 'v' then put ("creating file " ++ quoted target ++ "\n")
                  if let .error e ← writePath target piece then
                    blame name (unread target e)
                    return 1
            return 0

end ToyLang.Tools
