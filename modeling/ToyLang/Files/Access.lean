/-!
# Modes and owners

The mode of a file is nine bits and a few more: reading, writing and executing, for the owner,
the group and all others.  A change of a mode is written in octal digits, or as clauses such as
`u+x` and `go=`, with commas between them.  Users and groups have numbers, and most of those in use
have names.

## Main definitions

* `ModeChange`, `Mode.changes?` — written changes.
* `Mode.changed`, `Mode.ofText?` — what changes make of a mode.
* `Mode.letters` — a mode as it is listed.
* `Owner.number?`, `Owner.name?` — between names of owners and their numbers.
-/

namespace ToyLang

/-- What a change does with the bits that it is about. -/
inductive ModeSign where
  | add
  | remove
  | set
  deriving DecidableEq

/-- A part of a written change of a mode. -/
structure ModeChange where
  sign : ModeSign
  /-- The bits of the classes that were named; none if none was. -/
  affected : Nat
  /-- The bits that the change is about, or those of one class that it copies to the others. -/
  bits : Nat
  /-- Whether the bits are those that one class has now. -/
  copies : Bool := false
  /-- Whether executing is meant as well if that makes sense: for a folder, or where someone may
  already do so. -/
  mayExecute : Bool := false
  /-- The bits that were written, which a folder does not keep as they are. -/
  mentioned : Nat

namespace Mode

/-- All bits of a mode. -/
def all : Nat := 0o7777

/-- Whether a character is an octal digit. -/
def isOctal (c : Char) : Bool := '0' ≤ c && c ≤ '7'

/-- What is left of a mode without some bits. -/
def without (mode bits : Nat) : Nat := mode - (mode &&& bits)

/-- The bits that belong to a class of users. -/
def classBits (c : Char) : Option Nat :=
  if c = 'u' then some 0o4700
  else if c = 'g' then some 0o2070
  else if c = 'o' then some 0o1007
  else if c = 'a' then some all
  else none

/-- The bits that a letter of a permission stands for, for all classes; a capital X stands for none
that are known yet. -/
def permissionBits (c : Char) : Option Nat :=
  if c = 'r' then some 0o444
  else if c = 'w' then some 0o222
  else if c = 'x' then some 0o111
  else if c = 'X' then some 0
  else if c = 's' then some 0o6000
  else if c = 't' then some 0o1000
  else none

/-- The permissions of a class, as they can be copied. -/
def copiedBits (c : Char) : Option Nat :=
  if c = 'u' then some 0o700
  else if c = 'g' then some 0o070
  else if c = 'o' then some 0o007
  else none

/-- What a character does with bits. -/
def sign? (c : Char) : Option ModeSign :=
  if c = '+' then some .add
  else if c = '-' then some .remove
  else if c = '=' then some .set
  else none

/-! ### Written changes -/

/-- Read what stands behind a sign, for some classes: the change, and what follows it.  Digits
stand alone in their clause. -/
def readChange? (sign : ModeSign) (affected : Nat) (cs : List Char) :
    Option (ModeChange × List Char) :=
  let digits := cs.takeWhile isOctal
  if !digits.isEmpty then
    let rest := cs.drop digits.length
    let bits := Nat.ofDigitChars 8 digits 0
    if bits ≤ all ∧ affected = 0 ∧ (rest.isEmpty ∨ rest.head? = some ',') then
      some ({ sign := sign, affected := all, bits := bits, mentioned := all }, rest)
    else none
  else match cs.head?.bind copiedBits with
    | some bits =>
        some ({ sign := sign, affected := affected, bits := bits, copies := true
                mentioned := if affected = 0 then bits else affected &&& bits }, cs.drop 1)
    | none =>
        let letters := cs.takeWhile fun c => (permissionBits c).isSome
        let bits := letters.foldl (fun bits c => bits ||| (permissionBits c).getD 0) 0
        some ({ sign := sign, affected := affected, bits := bits
                mayExecute := letters.contains 'X'
                mentioned := if affected = 0 then bits else affected &&& bits },
          cs.drop letters.length)

/-- Read the changes of a clause and of those that follow it, with the classes of the clause if
they were read already; each step takes a sign at least. -/
def readChanges : (steps : Nat) → (affected? : Option Nat) → List Char → Option (List ModeChange)
  | 0, _, _ => none
  | steps + 1, affected?, cs =>
      let classes := cs.takeWhile fun c => (classBits c).isSome
      let affected := affected?.getD
        (classes.foldl (fun bits c => bits ||| (classBits c).getD 0) 0)
      let cs := if affected?.isSome then cs else cs.drop classes.length
      match cs with
      | [] => none
      | c :: cs => do
          let sign ← sign? c
          let (change, rest) ← readChange? sign affected cs
          match rest with
          | [] => pure [change]
          | ',' :: rest => (readChanges steps none rest).map (change :: ·)
          | rest => (readChanges steps (some affected) rest).map (change :: ·)

/-- The changes that are written.  Digits alone give all bits; only many of them are about the
special bits of a folder too. -/
def changes? (text : String) : Option (List ModeChange) :=
  let cs := text.toList
  if cs.head?.any isOctal then
    let bits := Nat.ofDigitChars 8 cs 0
    if cs.all isOctal ∧ bits ≤ all then
      some [{ sign := .set, affected := all, bits := bits
              mentioned := if cs.length < 5 then (bits &&& 0o6000) ||| 0o1777 else all }]
    else none
  else readChanges (cs.length + 1) none cs

/-- The change to a mode. -/
def changesTo (mode : Nat) : List ModeChange :=
  [{ sign := .set, affected := all, bits := mode, mentioned := all }]

/-! ### Changed modes -/

/-- Spread the permissions that some class has over all of them. -/
def spread (bits : Nat) : Nat :=
  (if bits &&& 0o444 ≠ 0 then 0o444 else 0) + (if bits &&& 0o222 ≠ 0 then 0o222 else 0)
    + if bits &&& 0o111 ≠ 0 then 0o111 else 0

/-- Apply a change to a mode, under the mask of a process; the bits that it has taken care of are
added to others. -/
def applyChange (mask : Nat) (isFolder : Bool) (modeAndCared : Nat × Nat) (c : ModeChange) :
    Nat × Nat :=
  let (mode, cared) := modeAndCared
  let kept := if isFolder then without 0o6000 c.mentioned else 0
  let bits := if c.copies then spread (c.bits &&& mode) else c.bits
  let bits := if c.mayExecute && (isFolder || mode &&& 0o111 ≠ 0) then bits ||| 0o111 else bits
  let bits := bits &&& (if c.affected = 0 then without all mask else c.affected)
  let bits := without bits kept
  match c.sign with
  | .add => (mode ||| bits, cared ||| bits)
  | .remove => (without mode bits, cared ||| bits)
  | .set =>
      let preserved := (if c.affected = 0 then 0 else without all c.affected) ||| kept
      ((mode &&& preserved) ||| bits, cared ||| without all preserved)

/-- What changes make of a mode under the mask of a process, and the bits that they take care
of. -/
def changed (changes : List ModeChange) (mask : Nat) (isFolder : Bool) (mode : Nat) : Nat × Nat :=
  changes.foldl (applyChange mask isFolder) (mode &&& all, 0)

/-- The mode that a written change makes of another one, under the mask of a process. -/
def ofText? (text : String) (mask : Nat) (isFolder : Bool) (mode : Nat) : Option Nat :=
  (changes? text).map fun changes => (changed changes mask isFolder mode).1

/-- The mode of something new, which would be `whole`, under the mask of a process: what a written
change says nothing about is as the mask leaves it. -/
def ofTextWhenNew? (text : String) (mask : Nat) (isFolder : Bool) (whole : Nat) : Option Nat :=
  (changes? text).map fun changes =>
    let (mode, cared) := changed changes mask isFolder whole
    without (without whole mask) cared ||| (mode &&& cared)

/-! ### Shown modes -/

/-- The three letters for one class. -/
def classLetters (n : Nat) (special : Bool) (mark : Char) : List Char :=
  [if n / 4 % 2 = 1 then 'r' else '-', if n / 2 % 2 = 1 then 'w' else '-',
    if special then (if n % 2 = 1 then mark else mark.toUpper)
    else if n % 2 = 1 then 'x' else '-']

/-- A mode as it is listed, without the letter for the kind of the file. -/
def letters (mode : Nat) : String :=
  String.ofList (classLetters (mode / 0o100 % 8) (mode &&& 0o4000 ≠ 0) 's'
    ++ classLetters (mode / 0o10 % 8) (mode &&& 0o2000 ≠ 0) 's'
    ++ classLetters (mode % 8) (mode &&& 0o1000 ≠ 0) 't')

/-- The octal digits of a mode. -/
def octal (mode : Nat) : String := String.ofList (Nat.toDigits 8 mode)

end Mode

/-! ### Owners -/

namespace Owner

/-- The users with their numbers. -/
def users : List (String × Nat) :=
  [("root", 0), ("daemon", 1), ("bin", 2), ("sys", 3), ("sync", 4), ("games", 5), ("man", 6),
    ("lp", 7), ("mail", 8), ("news", 9), ("uucp", 10), ("proxy", 13), ("www-data", 33),
    ("backup", 34), ("list", 38), ("irc", 39), ("_apt", 42), ("nobody", 65534)]

/-- The groups with their numbers. -/
def groups : List (String × Nat) :=
  [("root", 0), ("daemon", 1), ("bin", 2), ("sys", 3), ("adm", 4), ("tty", 5), ("disk", 6),
    ("lp", 7), ("mail", 8), ("news", 9), ("uucp", 10), ("man", 12), ("proxy", 13), ("kmem", 15),
    ("dialout", 20), ("fax", 21), ("voice", 22), ("cdrom", 24), ("floppy", 25), ("tape", 26),
    ("sudo", 27), ("audio", 29), ("dip", 30), ("www-data", 33), ("backup", 34), ("operator", 37),
    ("list", 38), ("irc", 39), ("src", 40), ("shadow", 42), ("utmp", 43), ("video", 44),
    ("sasl", 45), ("plugdev", 46), ("staff", 50), ("games", 60), ("users", 100),
    ("nogroup", 65534)]

/-- The group that a user belongs to first. -/
def firstGroup (user : Nat) : Nat :=
  match user with
  | 4 | 42 => 65534
  | 5 => 60
  | 6 => 12
  | n => n

/-- The users or the groups. -/
def table (forGroup : Bool) : List (String × Nat) := if forGroup then groups else users

/-- The number of a user or of a group. -/
def number? (forGroup : Bool) (name : String) : Option Nat := (table forGroup).lookup name

/-- The name of a user or of a group. -/
def name? (forGroup : Bool) (number : Nat) : Option String :=
  ((table forGroup).find? fun entry => entry.2 = number).map Prod.fst

/-- What a user or a group is shown as: the name, or the number of one that has none. -/
def shown (forGroup : Bool) (number : Nat) : String :=
  (name? forGroup number).getD (toString number)

/-- The number that a name or the digits of a number stand for. -/
def read? (forGroup : Bool) (text : String) : Option Nat :=
  number? forGroup text <|>
    (if text ≠ "" ∧ text.toList.all Char.isDigit then text.toNat? else none)

end Owner

end ToyLang
