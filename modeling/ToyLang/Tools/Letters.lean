import ToyLang.Tools.Basic

/-!
# Bytes in letters

A lettering writes a group of bytes, taken for one number, with a fixed count of letters, its
digits.

## Main definitions

* `Lettering` — which letters stand for bytes, and how many at once.
* `Lettering.encode`, `Lettering.decode` — from bytes to letters and back.
* `base64`, `base32`, `basenc` — inputs in letters.
-/

namespace ToyLang.Tools

open Run

/-- How bytes are written with letters. -/
structure Lettering where
  /-- The digits. -/
  letters : List Char
  /-- How many bytes a group has. -/
  size : Nat
  /-- How many letters a group has. -/
  count : Nat
  /-- Letters besides the digits that are read as digits. -/
  others : List (Char × Nat) := []
  /-- Whether a group that is not full is filled up. -/
  isPadded : Bool := false
  /-- Whether the last digit comes first. -/
  isReversed : Bool := false
  /-- Whether a group at the end with too few letters counts for the bytes that it has. -/
  keepsRest : Bool := false

namespace Lettering

/-- Cut a list into groups; the last one may have fewer members. -/
def groups {α : Type} (size : Nat) (xs : List α) : List (List α) :=
  (List.range ((xs.length + size - 1) / size)).map fun i => (xs.drop (i * size)).take size

/-- The value of a letter. -/
def value? (l : Lettering) (c : Char) : Option Nat :=
  (l.letters.idxOf? c).orElse fun _ => l.others.lookup c

/-- How many letters the bytes of a group need. -/
def needed (l : Lettering) (bytes : Nat) : Nat := (bytes * l.count + l.size - 1) / l.size

/-- The letters of a group. -/
def encodeGroup (l : Lettering) (bytes : List Nat) : List Char :=
  let filled := bytes ++ List.replicate (l.size - bytes.length) 0
  let number := filled.foldl (fun n b => n * 256 + b) 0
  let base := l.letters.length
  let digits := ((List.range l.count).map fun i =>
    l.letters.getD (number / Nat.pow base i % base) '=').reverse
  let kept := l.needed bytes.length
  (if l.isReversed then digits.reverse else digits).take kept
    ++ List.replicate (l.count - kept) '='

/-- The letters for bytes; there are none where the last group is not full and cannot be. -/
def encode (l : Lettering) (bytes : List Nat) : Option (List Char) :=
  if !l.isPadded && bytes.length % l.size ≠ 0 then none
  else some ((groups l.size bytes).map l.encodeGroup).flatten

/-- The bytes that a group stands for; the flag says that all of it is right. -/
def decodeGroup (l : Lettering) (cs : List Char) : List Nat × Bool :=
  let digits := (cs.map l.value?).takeWhile Option.isSome |>.map (·.getD 0)
  let filling := cs.drop digits.length
  let base := l.letters.length
  let filled := digits ++ List.replicate (l.count - digits.length) 0
  let number := (if l.isReversed then filled.reverse else filled).foldl (fun n d => n * base + d) 0
  let bytes := digits.length * l.size / l.count
  let known := ((List.range l.size).map fun i => number / Nat.pow 256 i % 256).reverse.take bytes
  let fits := number < Nat.pow 256 l.size
  if filling.isEmpty && cs.length = l.count then (if fits then (known, true) else ([], false))
  else if l.isPadded then
    let right := cs.length = l.count && filling.all (· = '=')
      && digits.length = l.needed bytes && bytes ≠ 0
    if right || cs.length = l.count || l.keepsRest then (known, right) else ([], false)
  else ([], false)

/-- The bytes of groups up to the first one that is wrong; the flag says that there is none. -/
def decodeGroups (l : Lettering) : List (List Char) → List Nat × Bool
  | [] => ([], true)
  | group :: rest =>
      let (bytes, good) := l.decodeGroup group
      if good then
        let (more, good) := l.decodeGroups rest
        (bytes ++ more, good)
      else (bytes, false)

/-- The bytes that letters stand for; the flag says that all of them do. -/
def decode (l : Lettering) (cs : List Char) : List Nat × Bool := l.decodeGroups (groups l.count cs)

/-- Whether a letter may stand in what is read. -/
def knows (l : Lettering) (c : Char) : Bool := l.letters.contains c || l.isPadded && c = '='

/-! ### The letterings -/

/-- The letters from one to another. -/
def between (first last : Char) : List Char :=
  (List.range (last.toNat + 1 - first.toNat)).map fun i => Char.ofNat (first.toNat + i)

/-- Letters of both cases and digits. -/
def sixty : List Char := between 'A' 'Z' ++ between 'a' 'z' ++ between '0' '9'

/-- Three bytes in four letters. -/
def base64 : Lettering :=
  { letters := sixty ++ ['+', '/'], size := 3, count := 4, isPadded := true, keepsRest := true }

/-- Three bytes in four letters that may stand in a link. -/
def base64url : Lettering := { base64 with letters := sixty ++ ['-', '_'] }

/-- Five bytes in eight letters. -/
def base32 : Lettering :=
  { letters := between 'A' 'Z' ++ between '2' '7', size := 5, count := 8, isPadded := true }

/-- Five bytes in eight letters that keep the order. -/
def base32hex : Lettering :=
  { base32 with
    letters := between '0' '9' ++ between 'A' 'V'
    others := [('W', 22), ('X', 23), ('Y', 24), ('Z', 25)] }

/-- A byte in two letters. -/
def base16 : Lettering :=
  { letters := between '0' '9' ++ between 'A' 'F', size := 1, count := 2 }

/-- A byte in its bits, the highest one first. -/
def base2msbf : Lettering := { letters := ['0', '1'], size := 1, count := 8 }

/-- A byte in its bits, the lowest one first. -/
def base2lsbf : Lettering := { base2msbf with isReversed := true }

/-- Four bytes in five letters. -/
def z85 : Lettering :=
  { letters := between '0' '9' ++ between 'a' 'z' ++ between 'A' 'Z'
      ++ ".-:+=^!/*?&<>()[]\x7b\x7d@%$#".toList
    size := 4, count := 5 }

end Lettering

/-! ### Programs -/

/-- The options of a program that writes bytes with letters. -/
def letteringOptions : OptionTable :=
  { flags := "di", valued := "w"
    long := [("decode", 'd', .none), ("ignore-garbage", 'i', .none), ("wrap", 'w', .required)] }

/-- Show an input in letters, or the other way round. -/
def inLetters (name : String) (l : Lettering) (g : Given) : Run Nat := do
  let width ← match g.value? 'w' with
    | none => pure (some 76)
    | some text =>
        let digits := text.toList.dropWhile (· = ' ')
        let digits := if digits.head? = some '+' then digits.drop 1 else digits
        pure (if digits.isEmpty || !digits.all Char.isDigit then none
          else some (Nat.ofDigitChars 10 digits 0))
  match width, g.operands with
  | none, _ =>
      blame name ("invalid wrap size: " ++ mentioned ((g.value? 'w').getD ""))
      return 1
  | _, _ :: operand :: _ => extraOperand name operand
  | some width, operands =>
      let file := operands.headD "-"
      match ← readInput file with
      | .error e =>
          blame name (if e = .isDirectory then "read error: " ++ e.reason else unread file e)
          return 1
      | .ok text =>
          if g.has 'd' then
            let cs := text.toList.filter fun c => c ≠ '\n' && (l.knows c || !g.has 'i')
            let (bytes, good) := l.decode cs
            put (String.ofList (bytes.map Char.ofNat))
            if good then return 0
            blame name "invalid input"
            return 1
          match l.encode (text.toList.map Char.toNat) with
          | none =>
              blame name ("invalid input (length must be multiple of " ++ toString l.size
                ++ " characters)")
              return 1
          | some cs =>
              put (if width = 0 then String.ofList cs
                else joinLines ((Lettering.groups width cs).map String.ofList))
              return 0

/-- Show bytes three at a time. -/
def base64 : Tool := fun name arguments =>
  withOptions name letteringOptions arguments (inLetters name .base64)

/-- Show bytes five at a time. -/
def base32 : Tool := fun name arguments =>
  withOptions name letteringOptions arguments (inLetters name .base32)

/-- The letterings by their options. -/
def letterings : List (String × Char × Lettering) :=
  [("base64", 'a', .base64), ("base64url", 'b', .base64url), ("base32", 'c', .base32),
    ("base32hex", 'e', .base32hex), ("base16", 'f', .base16), ("base2msbf", 'g', .base2msbf),
    ("base2lsbf", 'h', .base2lsbf), ("z85", 'j', .z85)]

/-- Show bytes in letters of any kind. -/
def basenc : Tool := fun name arguments =>
  withOptions name
    { letteringOptions with
      long := letteringOptions.long ++ letterings.map fun l => (l.1, l.2.1, .none) }
    arguments fun g => do
    match g.last? (letterings.map fun l => l.2.1) with
    | none => misused name "missing encoding type"
    | some c => match (letterings.map Prod.snd).lookup c with
        | none => return 1
        | some l => inLetters name l g

end ToyLang.Tools
