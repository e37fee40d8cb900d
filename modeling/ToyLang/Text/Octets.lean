import ToyLang.Numeral

/-!
# Octets

Programs exchange bytes that need not be the UTF-8 form of a text.  A *raw* text stands for
bytes: each of its characters has the number of one byte.  What is shown to a reader is decoded,
with a mark for every sequence of bytes that no character has.

## Main definitions

* `rawOfBytes`, `bytesOfRaw` — raw texts and the bytes that they stand for.
* `raw` — the raw text for the UTF-8 form of a text.
* `decode` — the text that some bytes are shown as.
* `widen`, `narrow` — a raw text as characters, and back.
-/

namespace ToyLang.Text

/-- The raw text that stands for some bytes. -/
def rawOfBytes (bytes : ByteArray) : String :=
  bytes.foldl (fun text b => text.push (Char.ofNat b.toNat)) ""

/-- The bytes that a raw text stands for. -/
def bytesOfRaw (text : String) : ByteArray :=
  text.foldl (fun bytes c => bytes.push (UInt8.ofNat c.toNat)) ByteArray.empty

/-- The raw text for the UTF-8 form of a text. -/
def raw (text : String) : String := rawOfBytes text.toUTF8

/-! ### Decoding -/

/-- What must follow the first byte of a character: how many bytes, and the bounds of the
first of them.  The bounds leave out longer forms than needed, surrogates, and what lies beyond
the last code point. -/
def followers? (b : Nat) : Option (Nat × Nat × Nat) :=
  if 0xc2 ≤ b ∧ b ≤ 0xdf then some (1, 0x80, 0xbf)
  else if b = 0xe0 then some (2, 0xa0, 0xbf)
  else if b = 0xed then some (2, 0x80, 0x9f)
  else if 0xe1 ≤ b ∧ b ≤ 0xef then some (2, 0x80, 0xbf)
  else if b = 0xf0 then some (3, 0x90, 0xbf)
  else if 0xf1 ≤ b ∧ b ≤ 0xf3 then some (3, 0x80, 0xbf)
  else if b = 0xf4 then some (3, 0x80, 0x8f)
  else none

/-- How many of the bytes that must follow the first one are there. -/
def followersFound (count lowest highest : Nat) : List Nat → Nat
  | [] => 0
  | b :: bs =>
      match count with
      | 0 => 0
      | count + 1 => if lowest ≤ b ∧ b ≤ highest then followersFound count 0x80 0xbf bs + 1 else 0

/-- The mark for bytes that no character has. -/
def replacement : Char := '\ufffd'

/-- The code point of a character, given its first byte and the bytes that follow it. -/
def codePoint (b : Nat) (bs : List Nat) : Nat :=
  bs.foldl (fun n c => 0x40 * n + c % 0x40) (b % twoTo (6 - bs.length))

/-- The characters that bytes are shown as.  A sequence that breaks off is one mark. -/
def decodeBytes : List Nat → List Char
  | [] => []
  | b :: bs =>
      if b < 0x80 then Char.ofNat b :: decodeBytes bs
      else match followers? b with
        | none => replacement :: decodeBytes bs
        | some (count, lowest, highest) =>
            let found := followersFound count lowest highest bs
            (if found = count then Char.ofNat (codePoint b (bs.take found)) else replacement)
              :: decodeBytes (bs.drop found)
termination_by bs => bs.length
decreasing_by all_goals (simp only [List.length_cons, List.length_drop]; omega)

/-- The text that some bytes are shown as. -/
def decode (bytes : ByteArray) : String :=
  String.ofList (decodeBytes (bytes.toList.map UInt8.toNat))

/-! ### Characters of a raw text -/

/-- The character that stands for a byte which belongs to no character. -/
def stray (b : Nat) : Char := Char.ofNat (0x10ff00 + b)

/-- Whether a character stands for a byte which belongs to no character. -/
def isStray (c : Char) : Bool := 0x10ff80 ≤ c.toNat

/-- The characters whose UTF-8 forms make up a raw text, each with the number of its bytes; a byte
that belongs to none of them becomes a character for itself. -/
def sizedChars : List Char → List (Char × Nat)
  | [] => []
  | c :: cs =>
      if c.toNat < 0x80 then (c, 1) :: sizedChars cs
      else match followers? c.toNat with
        | none => (stray c.toNat, 1) :: sizedChars cs
        | some (count, lowest, highest) =>
            let following := (cs.take count).map Char.toNat
            if followersFound count lowest highest following = count then
              (Char.ofNat (codePoint c.toNat following), count + 1) :: sizedChars (cs.drop count)
            else (stray c.toNat, 1) :: sizedChars cs
termination_by cs => cs.length
decreasing_by all_goals (simp only [List.length_cons, List.length_drop]; omega)

/-- The text that a raw text is the UTF-8 form of. -/
def widen (text : String) : String :=
  if text.toList.all fun c => c.toNat < 0x80 then text
  else String.ofList ((sizedChars text.toList).map Prod.fst)

/-- The raw text that a character comes from. -/
def narrowChar (c : Char) : List Char :=
  if c.toNat < 0x80 then [c]
  else if isStray c then [Char.ofNat (c.toNat % 0x100)]
  else (String.utf8EncodeChar c).map fun b => Char.ofNat b.toNat

/-- The raw text that a text comes from. -/
def narrow (text : String) : String :=
  if text.toList.all fun c => c.toNat < 0x80 then text
  else String.ofList (text.toList.flatMap narrowChar)

end ToyLang.Text
