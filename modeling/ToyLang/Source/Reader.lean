import ToyLang.Numeral
import ToyLang.Source.Scan

/-!
# Readers

A reader takes something off the front of a text, or fails.  With the value it returns
the rest of the text and the faults met on the way: numerals that fit the grammar but not
a 64-bit word.  Choice is ordered and starts the second alternative afresh, so the faults
of an abandoned alternative vanish with it.

## Main definitions

* `Reader` — with its monad and its ordered choice.
* `Reader.token` — a scanner with the trivia around it.
* `Reader.many`, `Reader.commaList` — repetition.
-/

namespace ToyLang.Source

/-- The number of bytes of a text. -/
def byteLength (cs : List Char) : Nat := cs.foldr (fun c n => c.utf8Size + n) 0

/-- A whole numeral out of range.  Its position is the number of bytes from its first
character to the end of the text, since a reader sees only what is left to read. -/
structure Overflow where
  tail : Nat
  width : Nat
  deriving DecidableEq, Repr

/-- What a reader found: the value, the faults on the way, and the rest of the text. -/
structure Reading (α : Type) where
  value : α
  overflows : List Overflow
  rest : List Char
  deriving DecidableEq

/-- A function from a text to what stands at its front. -/
def Reader (α : Type) : Type := List Char → Option (Reading α)

namespace Reader

variable {α β : Type}

/-- Take nothing. -/
protected def pure (a : α) : Reader α := fun cs => some ⟨a, [], cs⟩

/-- One reader after the other; the faults add up. -/
protected def bind (p : Reader α) (f : α → Reader β) : Reader β := fun cs =>
  match p cs with
  | none => none
  | some r =>
      match f r.value r.rest with
      | none => none
      | some s => some ⟨s.value, r.overflows ++ s.overflows, s.rest⟩

/-- Refuse. -/
protected def fail : Reader α := fun _ => none

/-- The second reader where the first one refuses. -/
protected def orElse (p q : Reader α) : Reader α := fun cs =>
  match p cs with
  | some r => some r
  | none => q cs

instance : Monad Reader where
  pure := Reader.pure
  bind := Reader.bind

instance : Alternative Reader where
  failure := Reader.fail
  orElse p q := Reader.orElse p (q ())

/-- Skip blanks and comments. -/
def trivia : Reader Unit := fun cs => some ⟨(), [], skipTrivia cs⟩

/-- Take what a scanner takes, without any fault. -/
def scan (take : List Char → Option (α × List Char)) : Reader α := fun cs =>
  (take cs).map fun (a, rest) => ⟨a, [], rest⟩

/-- Take a token together with the trivia on both of its sides. -/
def token (take : List Char → Option (α × List Char)) : Reader α := do
  trivia
  let a ← scan take
  trivia
  pure a

/-- A symbol. -/
def symbol (s : String) : Reader Unit :=
  token fun cs => (takeSymbol? s.toList cs).map fun rest => ((), rest)

/-- A keyword. -/
def keyword (k : Text.Keyword) : Reader Unit := token (takeKeyword? k)

/-- A name. -/
def name : Reader String := token takeName?

/-- The value of a whole numeral that begins the text `start`; one that is out of range
counts as zero and is recorded. -/
def wholeValue (start : List Char) (n : WholeNumeral) : Reader Int64 := fun cs =>
  match int64Of? (signedValue n.negative n.digits) with
  | some value => some ⟨value, [], cs⟩
  | none => some ⟨0, [⟨byteLength start, n.width⟩], cs⟩

/-- The text that is left. -/
def remaining : Reader (List Char) := fun cs => some ⟨cs, [], cs⟩

/-- A numeral without a fraction. -/
def whole : Reader Int64 := do
  trivia
  let start ← remaining
  let n ← scan takeWhole?
  trivia
  wholeValue start n

/-- Read as often as possible, at most `rounds` times. -/
def many (p : Reader α) : (rounds : Nat) → Reader (List α)
  | 0 => pure []
  | rounds + 1 =>
      (do
        let a ← p
        let as ← many p rounds
        pure (a :: as))
      <|> pure []

/-- A list with commas between its elements; one more comma may follow the last
element. -/
def commaList (p : Reader α) (rounds : Nat) : Reader (List α) :=
  (do
    let first ← p
    let others ← many (do symbol ","; p) rounds
    symbol "," <|> pure ()
    pure (first :: others))
  <|> pure []

end Reader

end ToyLang.Source
