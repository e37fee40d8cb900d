import ToyLang.Tools.FileFacts
import ToyLang.Tools.Basic

/-!
# Programs that change sizes

A new size is a number, or what is made of the old size: more or less of it, a limit to it, or the
next multiple of a number.

## Main definitions

* `NewSize`, `NewSize.of?` — what a size becomes.
* `truncate` — the program.
-/

namespace ToyLang.Tools

open Run

/-- How a new size depends on the old one. -/
inductive SizeChange where
  | exactly
  | moreBy
  | most
  | least
  | downTo
  | upTo
  deriving DecidableEq

/-- What a size becomes. -/
structure NewSize where
  change : SizeChange
  amount : Int

namespace NewSize

/-- What a size becomes of an old one. -/
def of (n : NewSize) (old : Nat) : Nat :=
  let multiple := n.amount.toNat
  match n.change with
  | .exactly => n.amount.toNat
  | .moreBy => (old + n.amount).toNat
  | .most => min old n.amount.toNat
  | .least => max old n.amount.toNat
  | .downTo => old - old % multiple
  | .upTo => (old + multiple - 1) / multiple * multiple

/-- The letters that may follow a number. -/
def letters : List Char := "EgGkKmMPtTYZ".toList

/-- A number with a sign and letters for a multiple of it, or what is wrong with it. -/
def readAmount (text : String) : Except String Int :=
  let cs := text.toList.dropWhile fun c => c = ' ' || c = '\t'
  let (isNegative, number) := match cs with
    | '-' :: rest => (true, rest)
    | '+' :: rest => (false, rest)
    | rest => (false, rest)
  let digits := number.takeWhile Char.isDigit
  let behind := number.drop digits.length
  let invalid := "Invalid number: " ++ mentioned text
  let behind := match behind with
    | 'g' :: rest => 'G' :: rest
    | 't' :: rest => 'T' :: rest
    | rest => rest
  let known := behind.head?.all letters.contains
    && (!digits.isEmpty || (number.length = cs.length && !behind.isEmpty))
  match known, multipleOf? behind with
  | true, some multiple =>
      let n := (if digits.isEmpty then 1 else Nat.ofDigitChars 10 digits 0) * multiple
      if twoTo 63 ≤ n then .error (invalid ++ ": Value too large for defined data type")
      else .ok (if isNegative then -n else n)
  | _, _ => .error invalid

/-- Read what a size becomes. -/
def of? (text : String) : Except (String × Bool) NewSize := do
  let trim (cs : List Char) := cs.dropWhile fun c => c = ' ' || c = '\t'
  let cs := trim text.toList
  let (change?, cs) := match cs with
    | '<' :: rest => (some SizeChange.most, rest)
    | '>' :: rest => (some .least, rest)
    | '/' :: rest => (some .downTo, rest)
    | '%' :: rest => (some .upTo, rest)
    | rest => (none, rest)
  let cs := trim cs
  let hasSign := cs.head? = some '+' || cs.head? = some '-'
  if hasSign && change?.isSome then throw ("multiple relative modifiers specified", true)
  match readAmount (String.ofList cs) with
  | .error text => throw (text, false)
  | .ok n =>
      let change := change?.getD (if hasSign then .moreBy else .exactly)
      if n = 0 && (change = .downTo || change = .upTo) then throw ("division by zero", false)
      return { change := change, amount := n }

end NewSize

/-- The bytes of a block. -/
def sizeBlock : Nat := 4096

/-- The most bytes that a file is given here. -/
def sizeLimit : Nat := twoTo 31

/-- Zero bytes; each step doubles them. -/
def zeroBytes : (steps : Nat) → Nat → ByteArray → ByteArray
  | 0, count, bytes => bytes.extract 0 count
  | steps + 1, count, bytes =>
      if count ≤ bytes.size then bytes.extract 0 count
      else zeroBytes steps count (bytes ++ bytes)

/-- Some bytes cut or filled up with zero bytes to a size. -/
def resized (bytes : ByteArray) (size : Nat) : ByteArray :=
  if size ≤ bytes.size then bytes.extract 0 size
  else bytes ++ zeroBytes 64 (size - bytes.size) ⟨#[0]⟩

/-- Give the file at a path another size. -/
def resize (name : String) (block create : Bool) (n : NewSize) (reference : Option Nat)
    (path : String) : Run Bool := do
  if !create ∧ (← locatePath path true) matches .error .noEntry then return true
  match ← withFile path .appending fun _ => return .ok () with
  | .error e => giveUp name ("cannot open " ++ quoted path ++ " for writing: " ++ e.reason)
  | .ok () =>
      match ← locatePath path true with
      | .error _ => return false
      | .ok number =>
          match (← tree).content number with
          | .file bytes =>
              let n := if block then { n with amount := n.amount * sizeBlock } else n
              let size := n.of (reference.getD bytes.size)
              if sizeLimit < size then
                giveUp name ("failed to truncate " ++ quoted path ++ " at " ++ toString size
                  ++ " bytes: " ++ FileError.tooLarge.reason)
              else
                modifyTree fun t => t.setContent number (.file (resized bytes size))
                return true
          | _ =>
              let size := n.of (reference.getD 0)
              giveUp name ("failed to truncate " ++ quoted path ++ " at " ++ toString size
                ++ " bytes: " ++ FileError.invalid.reason)

/-- Give files another size. -/
def truncate : Tool := fun name arguments =>
  withOptions name
    { flags := "co", valued := "sr"
      long := [("size", 's', .required), ("no-create", 'c', .none), ("reference", 'r', .required),
        ("io-blocks", 'o', .none)] }
    arguments fun g => do
      let mut given : Option NewSize := none
      for text in g.values 's' do
        match NewSize.of? text with
        | .ok n => given := some n
        | .error (text, needsHelp) =>
            if needsHelp then return ← misused name text
            blame name text
            return 1
      let reference? := g.value? 'r'
      let (size, reference) := (mentioned "--size", mentioned "--reference")
      if given.isNone ∧ reference?.isNone then
        return ← misused name ("you must specify either " ++ size ++ " or " ++ reference)
      if reference?.isSome ∧ given.any (·.change = .exactly) then
        return ← misused name ("you must specify a relative " ++ size ++ " with " ++ reference)
      if g.has 'o' ∧ given.isNone then
        return ← misused name (mentioned "--io-blocks" ++ " was specified but " ++ size
          ++ " was not")
      if g.operands.isEmpty then return ← misused name "missing file operand"
      let mut length : Option Nat := none
      if let some path := reference? then
        match ← locatePath path true with
        | .ok number => length := some (sizeOf ((← tree).content number))
        | .error e =>
            blame name ("cannot stat " ++ quoted path ++ ": " ++ e.reason)
            return 1
      let n := given.getD { change := .exactly, amount := (length.getD 0 : Nat) }
      forOperands g (resize name (g.has 'o') (!g.has 'c') n length)

end ToyLang.Tools
