import ToyLang.Digest.Blocks
import ToyLang.Tools.Basic

/-!
# Checksums

Numbers that tell texts apart: sums of their bytes, remainders of them as polynomials, and digests.

## Main definitions

* `polynomialSum`, `rotatedSum` — sums.
* `DigestKind` — a digest with its name.
* `readDigestLine?` — a line of a list of digests.
* `cksum`, `sum`, `digestTool` — the programs.
-/

namespace ToyLang.Tools

open Run

/-! ### Sums -/

/-- The polynomial by which remainders are taken, without its highest term. -/
def remainderPolynomial : UInt32 := 0x04c11db7

/-- The remainder that goes on with one more byte. -/
def remainderStep (crc : UInt32) (byte : UInt8) : UInt32 :=
  (List.range 8).foldl (fun (c : UInt32) _ =>
    if c &&& 0x80000000 = 0 then c <<< 1 else (c <<< 1) ^^^ remainderPolynomial)
    (crc ^^^ (byte.toUInt32 <<< 24))

/-- The bytes of a number, the lowest first, without zeros behind. -/
def lengthBytes : (steps n : Nat) → List UInt8
  | 0, _ | _, 0 => []
  | steps + 1, n => UInt8.ofNat n :: lengthBytes steps (n / 256)

/-- The remainder of some bytes with their number behind them. -/
def polynomialSum (bytes : ByteArray) : UInt32 :=
  let crc := bytes.foldl remainderStep 0
  ~~~((lengthBytes 8 bytes.size).foldl remainderStep crc)

/-- The sum of some bytes in sixteen bits, which are rotated at every step. -/
def rotatedSum (bytes : ByteArray) : Nat :=
  bytes.foldl (fun s byte => (s / 2 + s % 2 * twoTo 15 + byte.toNat) % twoTo 16) 0

/-- The sum of some bytes in sixteen bits, where carries are added again. -/
def carriedSum (bytes : ByteArray) : Nat :=
  let total := bytes.foldl (fun n byte => n + byte.toNat) 0
  let once := total % twoTo 16 + total % twoTo 32 / twoTo 16
  once % twoTo 16 + once / twoTo 16

/-! ### Digests -/

/-- A digest with its name. -/
structure DigestKind where
  name : String
  /-- How many bytes the digest has. -/
  size : Nat
  run : Nat → ByteArray → List UInt8
  /-- Whether it can be shorter. -/
  isVariable : Bool := false

/-- The kind for a digest that goes through blocks. -/
def DigestKind.ofBlocks (name : String) (d : Digest.BlockDigest) : DigestKind :=
  ⟨name, d.size, fun _ => d.run, false⟩

/-- The kinds of digests by their names. -/
def digestKinds : List (String × DigestKind) :=
  [("md5", .ofBlocks "MD5" Digest.md5), ("sha1", .ofBlocks "SHA1" Digest.sha1),
    ("sha224", .ofBlocks "SHA224" Digest.sha224), ("sha256", .ofBlocks "SHA256" Digest.sha256),
    ("sha384", .ofBlocks "SHA384" Digest.sha384), ("sha512", .ofBlocks "SHA512" Digest.sha512),
    ("blake2b", ⟨"BLAKE2b", 64, Digest.blake2b, true⟩), ("sm3", .ofBlocks "SM3" Digest.sm3)]

/-- Bytes in hexadecimal digits. -/
def hexText (bytes : List UInt8) : String :=
  String.ofList
    (bytes.flatMap fun b => [Nat.digitChar (b.toNat / 16), Nat.digitChar (b.toNat % 16)])

/-- The text of a digest that has some bytes. -/
def DigestKind.text (k : DigestKind) (size : Nat) (text : String) : String :=
  hexText (k.run size (Text.bytesOfRaw text))

/-- The name of a digest that has some bytes. -/
def DigestKind.label (k : DigestKind) (size : Nat) : String :=
  if size = k.size then k.name else k.name ++ "-" ++ toString (8 * size)

/-- A name of a file in one line; the flag says that it is not written as it is. -/
def oneLineName (file : String) : String × Bool :=
  let text := String.join (file.toList.map fun c =>
    if c = '\\' then "\\\\" else if c = '\n' then "\\n" else String.singleton c)
  (text, text ≠ file)

/-- A name of a file from how it is written in one line. -/
def nameOfOneLine : List Char → Option (List Char)
  | [] => some []
  | '\\' :: 'n' :: cs => (nameOfOneLine cs).map ('\n' :: ·)
  | '\\' :: '\\' :: cs => (nameOfOneLine cs).map ('\\' :: ·)
  | '\\' :: _ => none
  | c :: cs => (nameOfOneLine cs).map (c :: ·)

/-! ### Lists of digests -/

/-- A line of a list of digests. -/
structure DigestLine where
  kind : DigestKind
  size : Nat
  digits : String
  file : String

/-- Whether a character is a hexadecimal digit. -/
def isHexDigit (c : Char) : Bool := c.isDigit || ('a' ≤ c && c ≤ 'f') || ('A' ≤ c && c ≤ 'F')

/-- Whether a text can be a digest, and how many bytes it has. -/
def DigestKind.sizeOf? (k : DigestKind) (digits : List Char) : Option Nat :=
  let size := digits.length / 2
  let fits := if k.isVariable then 0 < size && size ≤ k.size else size = k.size
  if digits.length % 2 = 0 && fits && digits.all isHexDigit then some size else none

/-- Read a line that names its digest. -/
def readTaggedLine? (kinds : List DigestKind) (cs : List Char) : Option DigestLine := do
  let label := cs.takeWhile (· ≠ ' ')
  let rest ← match cs.drop label.length with
    | ' ' :: '(' :: rest => some rest
    | _ => none
  let behind := rest.reverse.takeWhile (· ≠ ')')
  let digits ← match behind.reverse with
    | ' ' :: '=' :: ' ' :: digits => some digits
    | _ => none
  let file := rest.take (rest.length - behind.length - 1)
  let base := label.takeWhile (· ≠ '-')
  let k ← kinds.find? fun k => k.name = String.ofList base || k.name = String.ofList label
  let size ← k.sizeOf? digits
  if file.length = rest.length || k.label size ≠ String.ofList label then none
  else some ⟨k, size, String.ofList digits, String.ofList file⟩

/-- Read a line with a digest and a name behind it. -/
def readPlainLine? (kind : Option DigestKind) (cs : List Char) : Option DigestLine := do
  let k ← kind
  let digits := cs.takeWhile fun c => c ≠ ' ' && c ≠ '\t'
  let size ← k.sizeOf? digits
  let rest := cs.drop (digits.length + 1)
  let file := match rest with
    | ' ' :: c :: file => if rest.length = 1 then rest else c :: file
    | '*' :: c :: file => c :: file
    | rest => rest
  if file.isEmpty then none else some ⟨k, size, String.ofList digits, String.ofList file⟩

/-- Read a line of a list of digests, which may be of any kind if none is said. -/
def readDigestLine? (kind : Option DigestKind) (line : String) : Option DigestLine := do
  let cs := line.toList.dropWhile fun c => c = ' ' || c = '\t'
  let (escaped, cs) := match cs with
    | '\\' :: cs => (true, cs)
    | cs => (false, cs)
  let kinds := (kind.map fun k => [k]).getD (digestKinds.map Prod.snd)
  let found ← (readTaggedLine? kinds cs).orElse fun _ => readPlainLine? kind cs
  if escaped then
    let file ← nameOfOneLine found.file.toList
    return { found with file := String.ofList file }
  else return found

/-- A warning about some of several things. -/
def warnCount (name : String) (n : Nat) (one many : String) : Run Unit := do
  if n ≠ 0 then blame name ("WARNING: " ++ toString n ++ " " ++ if n = 1 then one else many)

/-- Check the digests in a list of them; the answer says whether all is right. -/
def checkDigests (name : String) (kind : Option DigestKind) (g : Given) (list text : String) :
    Run Bool := do
  let title := if list = "-" then "'standard input'" else quotedIfNeeded list
  let mut wrong := 0
  let mut missing := 0
  let mut odd := 0
  let mut good := 0
  let mut right := 0
  for (line, number) in (linesOf text).zipIdx do
    if !line.startsWith "#" then
      let line := if line.endsWith "\x0d" then String.ofList line.toList.dropLast else line
      match readDigestLine? kind line with
      | none =>
          odd := odd + 1
          if g.has 'w' then
            blame name (title ++ ": " ++ toString (number + 1) ++ ": improperly formatted "
              ++ (kind.map fun k => k.name ++ " ").getD "" ++ "checksum line")
      | some entry =>
          good := good + 1
          let (shown, escaped) := oneLineName entry.file
          let shown := (if escaped then "\\" else "") ++ shown
          match ← readInput entry.file with
          | .ok found =>
              let fits := entry.kind.text entry.size found = entry.digits.toLower
              if fits then right := right + 1 else wrong := wrong + 1
              if !(fits && g.has 'q') && !g.has 's' then
                put (shown ++ (if fits then ": OK\n" else ": FAILED\n"))
          | .error e =>
              if !(g.has 'i' && e = .noEntry) then
                missing := missing + 1
                blame name (unread entry.file e)
                if !g.has 's' then put (shown ++ ": FAILED open or read\n")
  if good = 0 then
    blame name (title ++ ": no properly formatted checksum lines found")
  else if !g.has 's' then
    warnCount name odd "line is improperly formatted" "lines are improperly formatted"
    warnCount name missing "listed file could not be read" "listed files could not be read"
    warnCount name wrong "computed checksum did NOT match" "computed checksums did NOT match"
    if g.has 'i' && right = 0 then blame name (title ++ ": no file was verified")
  return good ≠ 0 && wrong = 0 && missing = 0 && !(g.has 'S' && odd ≠ 0)
    && !(g.has 'i' && right = 0)

/-! ### The programs -/

/-- Show something about each input, with its name if it was given. -/
def summarize (name : String) (operands : List String) (line : ByteArray → String) : Run Nat :=
  forInputs name operands fun file text => do
    let label := if operands.isEmpty then "" else " " ++ file
    put (line (Text.bytesOfRaw text) ++ label ++ "\n")

/-- A remainder and a size. -/
def remainderLine (bytes : ByteArray) : String :=
  toString (polynomialSum bytes).toNat ++ " " ++ toString bytes.size

/-- A sum with rotations, and a size in blocks. -/
def rotatedLine (bytes : ByteArray) : String :=
  let digits := toString (rotatedSum bytes)
  String.ofList (List.replicate (5 - digits.length) '0') ++ digits ++ " "
    ++ padLeft 5 (toString ((bytes.size + 1023) / 1024))

/-- A sum with carries, and a size in blocks. -/
def carriedLine (bytes : ByteArray) : String :=
  toString (carriedSum bytes) ++ " " ++ toString ((bytes.size + 511) / 512)

/-- Show sums of bytes, and sizes in blocks. -/
def sum : Tool := fun name arguments =>
  withOptions name { flags := "rs", long := [("sysv", 's', .none)] } arguments fun g =>
    summarize name g.operands (if g.last? ['r', 's'] = some 's' then carriedLine else rotatedLine)

/-- The options of a program that shows digests. -/
def digestOptions : OptionTable :=
  { flags := "btcwz"
    long := [("check", 'c', .none), ("ignore-missing", 'i', .none), ("quiet", 'q', .none),
      ("status", 's', .none), ("warn", 'w', .none), ("strict", 'S', .none), ("tag", 'T', .none),
      ("zero", 'z', .none), ("binary", 'b', .none), ("text", 't', .none)] }

/-- How many bytes a digest is to have, or what is wrong with it. -/
def digestSize (k : DigestKind) (text : Option String) : Except (List String) Nat :=
  match text with
  | none => .ok k.size
  | some text => match wholeNumber "length" 0 text with
    | .error fault => .error [fault]
    | .ok 0 => .ok k.size
    | .ok bits =>
        let invalid := "invalid length: " ++ mentioned text
        if 8 * k.size < bits then
          .error [invalid, "maximum digest length for " ++ mentioned k.name ++ " is "
            ++ toString (8 * k.size) ++ " bits"]
        else if bits % 8 ≠ 0 then .error [invalid, "length is not a multiple of 8"]
        else .ok (bits / 8)

/-- Show the digests of inputs, or check lists of them.  A kind that is not said is told by the
lists. -/
def runDigest (name : String) (kind : Option DigestKind) (tagged : Bool) (g : Given) :
    Run Nat := do
  let k := kind.getD ⟨"", 0, fun _ _ => [], false⟩
  match digestSize k (g.value? 'l') with
  | .error faults =>
      for fault in faults do blame name fault
      return 1
  | .ok size =>
      let checks := g.has 'c'
      let meaningless (what : String) : Run Nat :=
        misused name ("the " ++ what ++ " meaningless when verifying checksums")
      if checks && g.has 'T' then return ← meaningless "--tag option is"
      if checks && (g.has 'b' || g.has 't') then
        return ← meaningless "--binary and --text options are"
      if !checks then
        let onlyThen := [('i', "ignore-missing"), ('s', "status"), ('w', "warn"), ('q', "quiet"),
          ('S', "strict")]
        if let some (_, option) := onlyThen.find? fun o => g.has o.1 then
          return ← misused name ("the --" ++ option
            ++ " option is meaningful only when verifying checksums")
      if tagged && g.has 'T' && g.last? ['b', 't'] = some 't' then
        return ← misused name "--tag does not support --text mode"
      if checks then
        let mut allRight := true
        for file in inputsOf g.operands do
          match ← readInput file with
          | .error e =>
              blame name (unread file e)
              allRight := false
          | .ok text =>
              let right ← checkDigests name kind g file text
              allRight := allRight && right
        return if allRight then 0 else 1
      let stop := if g.has 'z' then "\x00" else "\n"
      let mark := if g.last? ['b', 't'] = some 'b' then " *" else "  "
      forInputs name g.operands fun file text => do
        let (shown, escaped) := if g.has 'z' then (file, false) else oneLineName file
        let digits := k.text size text
        put ((if escaped then "\\" else "")
          ++ (if tagged then k.label size ++ " (" ++ shown ++ ") = " ++ digits
            else digits ++ mark ++ shown)
          ++ stop)

/-- Show digests of a kind, or check them. -/
def digestTool (kind : String) : Tool := fun name arguments =>
  let k := digestKinds.lookup kind
  let t := if k.any DigestKind.isVariable then
      { digestOptions with
        valued := "l", long := digestOptions.long ++ [("length", 'l', .required)] }
    else digestOptions
  withOptions name t arguments fun g => runDigest name k (g.has 'T') g

/-- What is shown of an input: a digest or a line of its own. -/
inductive ChecksumKind where
  | line (of : ByteArray → String)
  | digest (k : DigestKind)

/-- The kinds of checksums by their names. -/
def checksumKinds : List (List String × ChecksumKind) :=
  [(["bsd"], .line rotatedLine), (["sysv"], .line carriedLine), (["crc"], .line remainderLine)]
    ++ digestKinds.map fun (word, k) => ([word], .digest k)

/-- Show remainders and sizes, or checksums of another kind. -/
def cksum : Tool := fun name arguments =>
  withOptions name
    { digestOptions with
      flags := "cwz", valued := "al"
      long := digestOptions.long ++ [("algorithm", 'a', .required), ("length", 'l', .required),
        ("untagged", 'u', .none), ("debug", 'd', .none)] }
    arguments fun g => do
    let show_ : ChecksumKind → Run Nat
      | .digest k => runDigest name (some k) (!g.has 'u') g
      | .line line => do
          if g.has 'c' then
            return ← misused name "--check is not supported with --algorithm=\x7bbsd,sysv,crc\x7d"
          summarize name g.operands line
    match g.value? 'a' with
    | some word => withChoice name "--algorithm" word checksumKinds show_ 1 true
    | none =>
        if g.has 'c' then runDigest name none true g
        else summarize name g.operands remainderLine

end ToyLang.Tools
