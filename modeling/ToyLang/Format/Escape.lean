import ToyLang.Shell.Words

/-!
# Escapes

What letters and digits stand for behind a backslash in the arguments of commands that print.

## Main definitions

* `EscapeStyle` — which escapes a command knows.
* `unescape` — a text with its escapes replaced.
-/

namespace ToyLang.Format

open Shell (letterEscape? numberOf isHex codePointText)

/-- Which escapes a command knows. -/
structure EscapeStyle where
  /-- Whether an octal number begins with an additional zero. -/
  zero : Bool := false
  /-- Whether an octal number may stand without that zero. -/
  octal : Bool := true
  /-- Whether `c` ends all output. -/
  stops : Bool := false
  /-- Whether there are hexadecimal numbers. -/
  hex : Bool := false
  /-- Whether there are code points. -/
  codes : Bool := false
  /-- Whether a code point has all of its digits, and is not one of those with a simpler form. -/
  strict : Bool := false
  /-- Whether the escape character has two letters. -/
  capital : Bool := false
  /-- The quotes that may stand behind the backslash. -/
  quotes : List Char := []
  /-- The complaint about a letter without its digits. -/
  missing : Option (Char → String) := none

namespace EscapeStyle

/-- The formats of the standard shell. -/
def plainFormat : EscapeStyle := {}

/-- The arguments of the standard shell. -/
def plainArgument : EscapeStyle := { zero := true, stops := true }

/-- What the extended shell echoes. -/
def extendedEcho : EscapeStyle :=
  { zero := true, octal := false, stops := true, hex := true, codes := true, capital := true }

/-- The complaint of the extended shell. -/
def missingDigits (c : Char) : String :=
  (if c = 'x' then "missing hex digit for \\" else "missing unicode digit for \\")
    ++ String.singleton c

/-- The formats of the extended shell. -/
def extendedFormat : EscapeStyle :=
  { hex := true, codes := true, capital := true, quotes := ['"', '\'', '?']
    missing := some missingDigits }

/-- The arguments of the extended shell. -/
def extendedArgument : EscapeStyle := { extendedFormat with zero := true, stops := true }

/-- The formats of programs. -/
def programFormat : EscapeStyle :=
  { stops := true, hex := true, codes := true, strict := true, quotes := ['"']
    missing := some fun _ => "missing hexadecimal number in escape" }

/-- The arguments of programs. -/
def programArgument : EscapeStyle := { programFormat with zero := true }

/-- What the program echoes. -/
def programEcho : EscapeStyle := { zero := true, stops := true, hex := true }

end EscapeStyle

/-- Whether a character is an octal digit. -/
def isOctal (c : Char) : Bool := '0' ≤ c && c ≤ '7'

/-- The byte that octal digits spell. -/
def octalByte (digits : List Char) : Char := Char.ofNat (numberOf 8 digits % 0x100)

/-- What stands for an escape: characters, perhaps with a complaint, or the end of all output. -/
inductive Escaped where
  | chars (cs : List Char)
  | flawed (cs : List Char) (complaint : String)
  | stop
  deriving DecidableEq, Repr

/-- Whether a code point has a simpler form, or is none at all. -/
def isUnfit (n : Nat) : Bool :=
  (n < 0xa0 && n ≠ 0x24 && n ≠ 0x40 && n ≠ 0x60) || (0xd800 ≤ n && n ≤ 0xdfff)

/-- A code point of up to `count` digits behind its letter, and what is left. -/
def codePoint (style : EscapeStyle) (letter : Char) (count : Nat) (cs : List Char) :
    Escaped × List Char :=
  let digits := (cs.take count).takeWhile isHex
  let n := numberOf 16 digits
  let plain : Escaped := .chars ['\\', letter]
  let rest := cs.drop digits.length
  match style.missing with
  | none => if digits.isEmpty then (plain, cs) else (.chars (codePointText n), rest)
  | some complaint =>
      if digits.isEmpty || (style.strict && digits.length < count) then
        (.flawed ['\\', letter] (complaint letter), cs)
      else if style.strict && isUnfit n then
        let shown := (Nat.toDigits 16 n)
        (.flawed ['\\', letter] ("invalid universal character name \\" ++ String.ofList
          (letter :: (List.replicate (count - shown.length) '0' ++ shown))), cs)
      else (.chars (codePointText n), rest)

/-- The escape behind a backslash, and what is left. -/
def escape (style : EscapeStyle) : List Char → Escaped × List Char
  | [] => (.chars ['\\'], [])
  | c :: cs =>
      if c = 'c' ∧ style.stops then (.stop, [])
      else if c = '0' ∧ style.zero then
        let digits := (cs.take 3).takeWhile isOctal
        (.chars [octalByte digits], cs.drop digits.length)
      else if isOctal c ∧ style.octal then
        let digits := (c :: cs.take 2).takeWhile isOctal
        (.chars [octalByte digits], (c :: cs).drop digits.length)
      else if c = '\\' then (.chars ['\\'], cs)
      else if style.quotes.contains c then (.chars [c], cs)
      else if c = 'e' ∨ (c = 'E' ∧ style.capital) then (.chars ['\x1b'], cs)
      else if c = 'x' ∧ style.hex then
        let digits := (cs.take 2).takeWhile isHex
        match digits.isEmpty, style.missing with
        | true, some complaint => (.flawed ['\\', c] (complaint c), cs)
        | true, none => (.chars ['\\', c], cs)
        | false, _ => (.chars [Char.ofNat (numberOf 16 digits)], cs.drop digits.length)
      else if c = 'u' ∧ style.codes then codePoint style c 4 cs
      else if c = 'U' ∧ style.codes then codePoint style c 8 cs
      else match letterEscape? c with
        | some e => (.chars [e], cs)
        | none => (.chars ['\\', c], cs)

/-- A text with its escapes replaced, the complaints about them, and whether one of them ends all
output. -/
structure Unescaped where
  text : List Char := []
  complaints : List String := []
  stopped : Bool := false

/-- Replace the escapes of a text.  Each step takes at least one character. -/
def unescapeWithin (style : EscapeStyle) : (steps : Nat) → List Char → Unescaped
  | _, [] => {}
  | 0, cs => { text := cs }
  | steps + 1, '\\' :: cs =>
      match escape style cs with
      | (.stop, _) => { stopped := true }
      | (.chars found, rest) =>
          let u := unescapeWithin style steps rest
          { u with text := found ++ u.text }
      | (.flawed found complaint, rest) =>
          if style.strict then { complaints := [complaint], stopped := true }
          else
            let u := unescapeWithin style steps rest
            { u with text := found ++ u.text, complaints := complaint :: u.complaints }
  | steps + 1, c :: cs =>
      let u := unescapeWithin style steps cs
      { u with text := c :: u.text }

/-- Replace the escapes of a text. -/
def unescape (style : EscapeStyle) (text : String) : Unescaped :=
  unescapeWithin style (text.length + 1) text.toList

/-- A text with its escapes replaced. -/
def unescaped (style : EscapeStyle) (text : String) : String :=
  String.ofList (unescape style text).text

end ToyLang.Format
