import ToyLang.Format.Number
import ToyLang.Text.Version
import ToyLang.Tools.Basic

/-!
# Keys of lines

Lines are sorted by keys, which are parts of them, each in a style of its own.

## Main definitions

* `SortStyle` — how two texts are compared.
* `SortKey` — a part of a line.
* `compareKeys` — the order of two lines.
* `SortKey.ofText?`, `SortKey.ofOlderText?` — keys as they are written.
-/

namespace ToyLang.Tools

open Text

/-- How two texts are compared. -/
structure SortStyle where
  numeric : Bool := false
  general : Bool := false
  human : Bool := false
  month : Bool := false
  version : Bool := false
  random : Bool := false
  fold : Bool := false
  dictionary : Bool := false
  printable : Bool := false
  blanks : Bool := false
  reverse : Bool := false
  deriving DecidableEq

/-- A part of a line by which lines are sorted.  Fields and characters before it are counted; a
part that ends behind no character of a field goes up to its end. -/
structure SortKey where
  field : Nat
  char : Nat
  stop : Option (Nat × Nat) := none
  style : SortStyle := {}
  /-- Whether blanks are skipped where the end is counted from. -/
  stopBlanks : Bool := false

/-- Add a letter to a style. -/
def SortStyle.add? (o : SortStyle) (c : Char) : Option SortStyle :=
  if c = 'n' then some { o with numeric := true }
  else if c = 'g' then some { o with general := true }
  else if c = 'h' then some { o with human := true }
  else if c = 'M' then some { o with month := true }
  else if c = 'V' then some { o with version := true }
  else if c = 'R' then some { o with random := true }
  else if c = 'f' then some { o with fold := true }
  else if c = 'd' then some { o with dictionary := true, printable := false }
  else if c = 'i' then some { o with printable := !o.dictionary }
  else if c = 'b' then some { o with blanks := true }
  else if c = 'r' then some { o with reverse := true }
  else none

/-- The letters of a style that cannot stand together, if it has such letters. -/
def SortStyle.conflict? (o : SortStyle) : Option String :=
  let ways := [o.numeric, o.general, o.human, o.month,
    o.version || o.random || o.dictionary || o.printable]
  if (ways.filter id).length ≤ 1 then none
  else
    let letters := [(o.dictionary, 'd'), (o.fold, 'f'), (o.general, 'g'), (o.human, 'h'),
      (o.printable, 'i'), (o.month, 'M'), (o.numeric, 'n'), (o.random, 'R'), (o.version, 'V')]
    some (String.ofList ((letters.filter Prod.fst).map Prod.snd))

/-! ### Comparing -/

/-- Whether a character is a blank between fields. -/
def isFieldBlank (c : Char) : Bool := c = ' ' || c = '\t' || c = '\n'

/-- The order of two texts by their characters. -/
def compareChars : List Char → List Char → Ordering
  | [], [] => .eq
  | [], _ :: _ => .lt
  | _ :: _, [] => .gt
  | c :: cs, d :: ds => if c = d then compareChars cs ds else if c < d then .lt else .gt

/-- A decimal number at the start of a text. -/
structure Decimal where
  negative : Bool
  /-- The digits before the point, without zeros in front. -/
  whole : List Char
  /-- The digits behind the point, without zeros at the end. -/
  part : List Char
  rest : List Char

/-- The decimal number at the start of a text; without digits it is zero. -/
def Decimal.of (cs : List Char) : Decimal :=
  let cs := cs.dropWhile isFieldBlank
  let (negative, cs) := match cs with
    | '-' :: cs => (true, cs)
    | cs => (false, cs)
  let whole := cs.takeWhile Char.isDigit
  let rest := cs.drop whole.length
  let (part, rest) := match rest with
    | '.' :: rest =>
        let part := rest.takeWhile Char.isDigit
        (part, rest.drop part.length)
    | rest => ([], rest)
  let whole := whole.dropWhile (· = '0')
  let part := (part.reverse.dropWhile (· = '0')).reverse
  ⟨negative && !(whole.isEmpty && part.isEmpty), whole, part, rest⟩

/-- The order of two decimal numbers. -/
def Decimal.compare (a b : Decimal) : Ordering :=
  let size : Ordering :=
    if a.whole.length ≠ b.whole.length then Ord.compare a.whole.length b.whole.length
    else (compareChars a.whole b.whole).then (compareChars a.part b.part)
  match a.negative, b.negative with
  | false, false => size
  | true, true => size.swap
  | true, false => .lt
  | false, true => .gt

/-- The weight of the letter for a multiple behind a number. -/
def multipleWeight (d : Decimal) : Int :=
  let zero := d.whole.isEmpty && d.part.isEmpty
  let weight : Nat := match d.rest with
    | c :: _ => match "KMGTPEZY".toList.idxOf? c with
      | some i => i + 1
      | none => if c = 'k' then 1 else 0
    | [] => 0
  if zero then 0 else if d.negative then -(weight : Int) else weight

/-- The number of a month by the start of its name; a text without one is before all. -/
def monthOf (cs : List Char) : Nat :=
  let name := String.ofList ((cs.dropWhile isFieldBlank).take 3 |>.map Char.toUpper)
  let months :=
    ["JAN", "FEB", "MAR", "APR", "MAY", "JUN", "JUL", "AUG", "SEP", "OCT", "NOV", "DEC"]
  match months.idxOf? name with
  | some i => i + 1
  | none => 0

/-- The order of two texts by the numbers at their starts: texts without one come first, and then
what is no number. -/
def compareGeneral (a b : List Char) : Ordering :=
  let m := Format.readNearest .extended (String.ofList a)
  let n := Format.readNearest .extended (String.ofList b)
  let rank (r : Format.Read Format.Quantity) : Nat :=
    if !r.found then 0
    else match r.value with
      | .undefined _ => 1
      | _ => 2
  (Ord.compare (rank m) (rank n)).then ((m.value.compare? n.value).getD .eq)

/-- The order of two texts in a style, but for its direction. -/
def SortStyle.compareForward (o : SortStyle) (a b : List Char) : Ordering :=
  let kept (cs : List Char) : List Char :=
    let cs := if o.dictionary then cs.filter fun c => c.isAlphanum || isFieldBlank c else cs
    let cs := if o.printable then cs.filter fun c => ' ' ≤ c && c ≤ '~' else cs
    if o.fold then cs.map Char.toUpper else cs
  let a := kept a
  let b := kept b
  if o.numeric then (Decimal.of a).compare (Decimal.of b)
  else if o.general then compareGeneral a b
  else if o.human then
    let m := Decimal.of a
    let n := Decimal.of b
    (Ord.compare (multipleWeight m) (multipleWeight n)).then (m.compare n)
  else if o.month then Ord.compare (monthOf a) (monthOf b)
  else if o.version then compareVersions a b
  else compareChars a b

/-- Skip fields of a line: each is a run of blanks and what follows it, or ends at a separator. -/
def skipFields (separator : Option Char) : Nat → List Char → List Char
  | 0, cs => cs
  | n + 1, cs =>
      skipFields separator n (match separator with
        | some c => (cs.dropWhile (· ≠ c)).drop 1
        | none => (cs.dropWhile isFieldBlank).dropWhile fun c => !isFieldBlank c)

/-- The part of a line that a key is. -/
def SortKey.part (k : SortKey) (separator : Option Char) (line : List Char) : List Char :=
  let start := skipFields separator k.field line
  let start := if k.style.blanks then start.dropWhile isFieldBlank else start
  let start := start.drop k.char
  match k.stop with
  | none => start
  | some (field, char) =>
      let before := skipFields separator field line
      let behind :=
        if char = 0 then
          match separator with
          | some c => before.dropWhile (· ≠ c)
          | none => (before.dropWhile isFieldBlank).dropWhile fun c => !isFieldBlank c
        else
          let before := if k.stopBlanks then before.dropWhile isFieldBlank else before
          before.drop char
      start.take (start.length - behind.length)

/-- The order of two lines by keys. -/
def compareKeys (separator : Option Char) (a b : List Char) : List SortKey → Ordering
  | [] => .eq
  | k :: ks =>
      let order := k.style.compareForward (k.part separator a) (k.part separator b)
      let order := if k.style.reverse then order.swap else order
      order.then (compareKeys separator a b ks)

/-! ### Keys as they are written -/

/-- Take the letters of a style. -/
def takeStyle (o : SortStyle) : List Char → SortStyle × List Char
  | [] => (o, [])
  | c :: cs => match o.add? c with
    | some o => takeStyle o cs
    | none => (o, c :: cs)

/-- Take a number that counts something in a key. -/
def takeKeyCount (what : String) (cs : List Char) : Except String (Nat × List Char) :=
  let digits := cs.takeWhile Char.isDigit
  if digits.isEmpty then
    .error (what ++ ": invalid count at start of " ++ mentioned (String.ofList cs))
  else .ok (Nat.ofDigitChars 10 digits 0, cs.drop digits.length)

/-- Take a place within a line: the number of a field, and that of a character in it. -/
def takePlace (what : String) (cs : List Char) :
    Except String (Nat × Option Nat × List Char) := do
  let (field, rest) ← takeKeyCount what cs
  match rest with
  | '.' :: rest =>
      let (char, rest) ← takeKeyCount "invalid number after '.'" rest
      return (field, some char, rest)
  | _ => return (field, none, rest)

/-- Whether a style says nothing. -/
def SortStyle.isPlain (o : SortStyle) : Bool := o = {}

/-- The letters of two styles. -/
def SortStyle.join (o p : SortStyle) : SortStyle where
  numeric := o.numeric || p.numeric
  general := o.general || p.general
  human := o.human || p.human
  month := o.month || p.month
  version := o.version || p.version
  random := o.random || p.random
  fold := o.fold || p.fold
  dictionary := o.dictionary || p.dictionary
  printable := (o.printable || p.printable) && !(o.dictionary || p.dictionary)
  blanks := o.blanks
  reverse := o.reverse || p.reverse

/-- A key between two places.  One without letters of its own gets those for all keys. -/
def SortKey.between (usual : SortStyle) (field char : Nat) (stop : Option (Nat × Nat))
    (style stopStyle : SortStyle) : SortKey :=
  let own := style.join stopStyle
  let isOwn := !own.isPlain || stopStyle.blanks
  { field := field
    char := char
    stop := stop
    style := if isOwn then own else usual
    stopBlanks := if isOwn then stopStyle.blanks else usual.blanks }

/-- The key that a text spells. -/
def SortKey.ofText? (usual : SortStyle) (text : String) : Except String SortKey := do
  let bad (reason : String) : String :=
    reason ++ ": invalid field specification " ++ mentioned text
  let (field, char, rest) ← takePlace "invalid number at field start" text.toList
  if field = 0 then throw (bad "field number is zero")
  if char = some 0 then throw (bad "character offset is zero")
  let (style, rest) := takeStyle {} rest
  match rest with
  | [] => return .between usual (field - 1) (char.getD 1 - 1) none style {}
  | ',' :: rest =>
      let (last, lastChar, rest) ← takePlace "invalid number after ','" rest
      if last = 0 then throw (bad "field number is zero")
      let (stopStyle, rest) := takeStyle {} rest
      if !rest.isEmpty then throw (bad "stray character in field spec")
      return .between usual (field - 1) (char.getD 1 - 1) (some (last - 1, lastChar.getD 0))
        style stopStyle
  | _ => throw (bad "stray character in field spec")

/-- The key that an operand with a plus spells in the older way, which counts from zero; what
follows it may say where it ends.  The number says how many arguments the key takes. -/
def SortKey.ofOlderText? (usual : SortStyle) (start : String) (next : Option String) :
    Option (Except String SortKey × Nat) := do
  let cs ← match start.toList with
    | '+' :: cs => some cs
    | _ => none
  let (field, char, rest) ← (takePlace "" cs).toOption
  let (style, rest) := takeStyle {} rest
  if !rest.isEmpty then none
  else match (next.getD "").toList with
    | '-' :: d :: ds =>
        if !d.isDigit then
          some (.ok (.between usual field (char.getD 0) none style {}), 1)
        else
          let key : Except String SortKey := do
            let (last, lastChar, rest) ← takePlace "invalid number after '-'" (d :: ds)
            let (stopStyle, rest) := takeStyle {} rest
            if !rest.isEmpty then
              throw ("stray character in field spec: invalid field specification "
                ++ mentioned (next.getD ""))
            let place := (if lastChar.getD 0 = 0 then last - 1 else last, lastChar.getD 0)
            return .between usual field (char.getD 0) (some place) style stopStyle
          some (key, 2)
    | _ => some (.ok (.between usual field (char.getD 0) none style {}), 1)

end ToyLang.Tools
