import ToyLang.Tools.Basic

/-!
# Copying blocks

An input is copied block by block, and may be changed on its way.

## Main definitions

* `BlockCopy` — how blocks are copied.
* `BlockCopy.changed` — what becomes of the bytes.
* `dd` — the program.
-/

namespace ToyLang.Tools

open Run

/-! ### What is asked for -/

/-- How blocks are copied. -/
structure BlockCopy where
  input : Option String := none
  output : Option String := none
  inBlock : Option Nat := none
  outBlock : Option Nat := none
  /-- The size of the blocks of both, which need not be filled. -/
  block : Option Nat := none
  /-- The size of the records that lines become. -/
  record : Nat := 0
  /-- How much is left out of the input, in blocks unless it is in bytes. -/
  skip : Nat × Bool := (0, false)
  seek : Nat × Bool := (0, false)
  count : Option (Nat × Bool) := none
  conversions : List String := []
  inputFlags : List String := []
  outputFlags : List String := []
  level : String := ""

/-- A complaint about an operand, and whether help is offered. -/
structure OperandFault where
  text : String
  helps : Bool := false

namespace BlockCopy

/-- The multiple that letters behind a number stand for. -/
def factor? (letters : List Char) : Option Nat :=
  match letters with
  | ['c'] => some 1
  | ['w'] => some 2
  | letters => multipleOf? letters

/-- The product of numbers with an x between them, each with letters for a multiple.  The flag says
that it counts bytes. -/
def product? (text : String) : Option (Nat × Bool) :=
  let part (text : String) : Option Nat :=
    let digits := text.toList.takeWhile Char.isDigit
    if digits.isEmpty then none
    else (factor? (text.toList.drop digits.length)).map (Nat.ofDigitChars 10 digits 0 * ·)
  let inBytes : Bool := match text.toList.reverse with
    | 'B' :: c :: _ => c.isDigit || c = 'c' || c = 'w' || c = 'b'
    | _ => false
  let text := if inBytes then String.ofList text.toList.dropLast else text
  ((text.splitOn "x").foldl (fun product text =>
    product.bind fun n => (part text).map (n * ·)) (some 1)).map fun n => (n, inBytes)

/-- The words that a value lists, or the first that is not known. -/
def words (what : String) (known : List String) (value : String) :
    Except OperandFault (List String) :=
  let found := value.splitOn ","
  match found.find? fun word => !known.contains word with
  | some word => .error ⟨"invalid " ++ what ++ ": " ++ mentioned word, true⟩
  | none => .ok found

/-- The changes that bytes may undergo. -/
def knownConversions : List String :=
  ["ascii", "ebcdic", "ibm", "block", "unblock", "lcase", "ucase", "sparse", "excl", "nocreat",
    "notrunc", "noerror", "sync", "swab", "fdatasync", "fsync"]

/-- The ways to open or read a file. -/
def knownFlags : List String :=
  ["append", "direct", "directory", "dsync", "noatime", "nocache", "noctty", "nofollow",
    "nonblock", "sync", "fullblock", "count_bytes", "skip_bytes", "seek_bytes"]

/-- Add what an operand asks for. -/
def add (c : BlockCopy) (operand : String) : Except OperandFault BlockCopy := do
  let key := operand.toList.takeWhile (· ≠ '=')
  let value := String.ofList (operand.toList.drop (key.length + 1))
  let number : Except OperandFault (Nat × Bool) :=
    match product? value with
    | none => .error ⟨"invalid number: " ++ quoted value, false⟩
    | some (n, inBytes) =>
        if twoTo 63 ≤ n then
          .error ⟨"invalid number: " ++ quoted value ++ ": Value too large for defined data type",
            false⟩
        else .ok (n, inBytes)
  let size : Except OperandFault Nat := do
    let (n, _) ← number
    if n = 0 then throw ⟨"invalid number: " ++ quoted value, false⟩
    return n
  let strange : OperandFault := ⟨"unrecognized operand " ++ quoted operand, true⟩
  if key.length = operand.length then throw strange
  match String.ofList key with
  | "if" => return { c with input := some value }
  | "of" => return { c with output := some value }
  | "ibs" => return { c with inBlock := some (← size) }
  | "obs" => return { c with outBlock := some (← size) }
  | "bs" => return { c with block := some (← size) }
  | "cbs" => return { c with record := ← size }
  | "skip" | "iseek" => return { c with skip := ← number }
  | "seek" | "oseek" => return { c with seek := ← number }
  | "count" => return { c with count := some (← number) }
  | "conv" =>
      let found ← words "conversion" knownConversions value
      return { c with conversions := c.conversions ++ found }
  | "iflag" =>
      let found ← words "input flag" knownFlags value
      return { c with inputFlags := c.inputFlags ++ found }
  | "oflag" =>
      let found ← words "output flag" knownFlags value
      return { c with outputFlags := c.outputFlags ++ found }
  | "status" =>
      let found ← words "status level" ["none", "noxfer", "progress"] value
      return { c with level := found.getLastD "" }
  | _ => throw strange

/-- The words that cannot stand together, with what is said about them. -/
def conflicts : List (List String × String) :=
  [(["ascii", "ebcdic", "ibm"], "any two of \x7bascii,ebcdic,ibm\x7d"),
    (["block", "unblock"], "block and unblock"), (["lcase", "ucase"], "lcase and ucase"),
    (["excl", "nocreat"], "excl and nocreat")]

/-- Check what all operands together ask for. -/
def checked (c : BlockCopy) : Except OperandFault BlockCopy := do
  let c := if c.record = 0 then
      { c with conversions := c.conversions.filter fun w => w ≠ "block" && w ≠ "unblock" }
    else c
  for (words, text) in conflicts do
    if 1 < (words.filter c.conversions.contains).length then
      throw ⟨"cannot combine " ++ text, false⟩
  return c

/-- The size of the blocks that are read. -/
def reads (c : BlockCopy) : Nat := (c.block.orElse fun _ => c.inBlock).getD 512

/-- The size of the blocks that are written. -/
def writes (c : BlockCopy) : Nat := (c.block.orElse fun _ => c.outBlock).getD 512

/-- How many bytes of the input are left out. -/
def skipped (c : BlockCopy) : Nat :=
  if c.skip.2 || c.inputFlags.contains "skip_bytes" then c.skip.1 else c.skip.1 * c.reads

/-- At which byte of the output the copy starts. -/
def start (c : BlockCopy) : Nat :=
  if c.seek.2 || c.outputFlags.contains "seek_bytes" then c.seek.1 else c.seek.1 * c.writes

/-- How many bytes are copied at most. -/
def limit (c : BlockCopy) : Option Nat :=
  c.count.map fun (n, inBytes) =>
    if inBytes || c.inputFlags.contains "count_bytes" then n else n * c.reads

/-! ### What becomes of bytes -/

/-- Bytes with neighbours exchanged. -/
def swapped : List Char → List Char
  | a :: b :: cs => b :: a :: swapped cs
  | cs => cs

/-- Lines as records of a size, with blanks behind them; and how many were too long. -/
def blocked (size : Nat) (text : String) : String × Nat :=
  let lines := linesOf text
  (String.join (lines.map fun line => padRight size (String.ofList (line.toList.take size))),
    (lines.filter fun line => size < line.length).length)

/-- Records of a size as lines without the blanks at their ends. -/
def unblocked (size : Nat) (text : String) : String :=
  let count := (text.length + size - 1) / size
  joinLines ((List.range count).map fun i =>
    let record := (text.toList.drop (i * size)).take size
    String.ofList (record.reverse.dropWhile (· = ' ')).reverse)

/-- What becomes of bytes, and how many lines were too long. -/
def changed (c : BlockCopy) (text : String) : String × Nat :=
  let has (word : String) : Bool := c.conversions.contains word
  let filler := if has "block" || has "unblock" then ' ' else '\x00'
  let missing := (c.reads - text.length % c.reads) % c.reads
  let text := if has "sync" then text ++ String.ofList (List.replicate missing filler) else text
  let text := if has "swab" then String.ofList (swapped text.toList) else text
  let text := if has "ucase" then text.map Char.toUpper
    else if has "lcase" then text.map Char.toLower
    else text
  if has "block" then blocked c.record text
  else if has "unblock" then (unblocked c.record text, 0)
  else (text, 0)

end BlockCopy

/-! ### The program -/

/-- A number of whole blocks and of partial ones. -/
def blockCounts (size bytes : Nat) : String :=
  toString (bytes / size) ++ "+" ++ toString (if bytes % size = 0 then 0 else 1)

/-- A number of bytes in the greatest unit that fits, whose powers have a base. -/
def inUnit (base : Nat) (letters : List String) (n : Nat) : Option String :=
  let power := (List.range letters.length).foldl
    (fun found i => if Nat.pow base (i + 1) ≤ n then i + 1 else found) 0
  if power = 0 then none
  else
    let unit := Nat.pow base power
    let tenths := (20 * n + unit) / (2 * unit)
    let number := if tenths < 100 then toString (tenths / 10) ++ "." ++ toString (tenths % 10)
      else toString ((2 * n + unit) / (2 * unit))
    some (number ++ " " ++ letters.getD (power - 1) "" ++ "B")

/-- A number of bytes in other units as well. -/
def bytesInUnits (n : Nat) : String :=
  let found := (inUnit 1000 ["k", "M", "G", "T", "P", "E"] n).toList
    ++ (inUnit 1024 ["Ki", "Mi", "Gi", "Ti", "Pi", "Ei"] n).toList
  toString n ++ (if n = 1 then " byte" else " bytes")
    ++ (if found.isEmpty then "" else " (" ++ ", ".intercalate found ++ ")")

/-- Let a stream stand for the file that is written. -/
def openOutput (c : BlockCopy) (file : String) : Run (Except FileError Unit) := do
  let has (word : String) : Bool := c.conversions.contains word
  let isThere : Bool := match (← tree).find (← process).folder file with
    | .ok (.node _ _) => true
    | _ => false
  if has "excl" && isThere then return .error .alreadyThere
  if has "nocreat" && !isThere then return .error .noEntry
  let how : Opening := if c.outputFlags.contains "append" then .appending
    else if has "notrunc" || c.start ≠ 0 then .both
    else .writing
  match ← openPath file how with
  | .error e => return .error e
  | .ok index =>
      setStream 1 index
      return .ok ()

/-- Move the place in a stream where the copy starts. -/
def seekOutput (c : BlockCopy) : Run (Except FileError Unit) := do
  if c.start = 0 then return .ok ()
  match ← openFile? 1 with
  | some (index, { target := .node number, .. }) =>
      modify fun m => { m with opened := m.opened.modify index fun f =>
        { f with position := f.position + c.start } }
      if c.output.isSome && !c.conversions.contains "notrunc" then
        if let .file old := (← tree).content number then
          modifyTree fun t => t.setContent number
            (.file (overwrite (old.extract 0 c.start) c.start ByteArray.empty))
      return .ok ()
  | _ => return .error .illegalSeek

/-- Copy blocks as is asked for. -/
def copyBlocks (name : String) (c : BlockCopy) : Run Nat := do
  let source := c.input.getD "standard input"
  if let some file := c.input then
    match ← openPath file .reading with
    | .ok index => setStream 0 index
    | .error e =>
        blame name ("failed to open " ++ quoted file ++ ": " ++ e.reason)
        return 1
  if let some file := c.output then
    if let .error e ← openOutput c file then
      blame name ("failed to open " ++ quoted file ++ ": " ++ e.reason)
      return 1
  let skipped ← readBytes 0 c.skipped
  let missed : Bool := match skipped with
    | .ok bytes => bytes.size < c.skipped
    | .error _ => false
  if missed && c.level ≠ "none" then
    blame name (quotedIfNeeded source ++ ": cannot skip to specified offset")
  if let .error e ← seekOutput c then
    blame name (quoted (c.output.getD "standard output") ++ ": cannot seek: " ++ e.reason)
    return 1
  let found ← match c.limit with
    | some n => readBytes 0 n
    | none => readBytes 0 (1024 * pipeLimit)
  let mut status := 0
  if let .error e := found then
    blame name ("error reading " ++ quoted source ++ ": " ++ e.reason)
    status := 1
  let text := Text.rawOfBytes (found.toOption.getD ByteArray.empty)
  let (shown, truncated) := c.changed text
  let mut written := shown.length
  match ← write 1 shown with
  | .ok () => pure ()
  | .error e =>
      blame name ("error writing " ++ quoted (c.output.getD "standard output") ++ ": " ++ e.reason)
      status := 1
      written := 0
  if c.level ≠ "none" then
    complain (blockCounts c.reads text.length ++ " records in\n"
      ++ blockCounts c.writes written ++ " records out\n")
    if truncated ≠ 0 then
      complain (toString truncated ++ " truncated record" ++ (if truncated = 1 then "" else "s")
        ++ "\n")
    if c.level ≠ "noxfer" then
      complain (bytesInUnits written ++ " copied, 0.0001 s, " ++ toString (written / 100)
        ++ " kB/s\n")
  return status

/-- Copy blocks. -/
def dd : Tool := fun name arguments =>
  withOptions name {} arguments fun g => do
    match (g.operands.foldlM BlockCopy.add {}).bind BlockCopy.checked with
    | .ok c => copyBlocks name c
    | .error fault =>
        if fault.helps then misused name fault.text
        else
          blame name fault.text
          return 1

end ToyLang.Tools
