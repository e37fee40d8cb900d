import Std.Data.HashMap
import ToyLang.Binary64.Basic
import ToyLang.Format.Number
import ToyLang.Tools.RecordScript

/-!
# Values and arrays of scripts on records

A value is a number or a text.  Text from the input counts as a number if it looks like one, and a
value that was never set counts as both.

The keys of an array are kept in lists, by their texts and, where they are whole numbers, by those
as well.  A key that is used comes to the front of its list.  Keys are gone through in the order of
the lists of texts, and keys that were only used as numbers get into those when that begins.

## Main definitions

* `RecordValue` — values.
* `RecordArith.apply`, `RecordOrder.holds` — calculations and comparisons.
* `formatRecord` — the text that a format makes of values.
* `RecordArray` — arrays.
* `RecordArray.visit`, `RecordArray.set`, `RecordArray.erase` — single entries.
* `RecordArray.keys` — all keys in their order.
-/

namespace ToyLang.Tools

/-- A value.  Text from the input counts as a number if it looks like one. -/
inductive RecordValue where
  | unset
  | number (x : Float)
  /-- The number that is none, with its sign. -/
  | undefined (negative : Bool)
  | text (s : String)
  | input (s : String)
  deriving Inhabited

/-- The number that a text begins with, or zero. -/
def leadingBits (s : String) : Binary64 :=
  let r := Format.readFraction s
  if r.found then r.value else Binary64.ofMagnitude false 0

/-- The number that a text begins with, or zero. -/
def leadingNumber (s : String) : Float := Float.ofBits (leadingBits s).bits

/-- Whether a character is a blank around numbers. -/
def isBlankAround (c : Char) : Bool := c ≠ '\n' && Format.isBlank c

/-- Whether a text is a number with nothing but blanks around it.  It begins with a digit, a sign
or a point, and ends with a digit or a point. -/
def looksNumeric (s : String) : Bool :=
  let cs := s.toList.dropWhile isBlankAround
  let cs := (cs.reverse.dropWhile isBlankAround).reverse
  let begins : Bool := cs.head?.any fun c => c.isDigit || c = '+' || c = '-' || c = '.'
  let ends : Bool := cs.getLast?.any fun c => c.isDigit || c = '.'
  begins && ends &&
    (let r := Format.readFraction (String.ofList cs)
     r.found && r.rest.isEmpty && r.inRange)

/-- The largest whole number that is written as such. -/
def largestWhole : Float := Float.ofNat 2147483647

namespace RecordValue

/-- Whether a value counts as a number. -/
def isNumeric : RecordValue → Bool
  | unset | number _ | undefined _ => true
  | text _ => false
  | input s => looksNumeric s

/-- A value as the bits of a number. -/
def toBits : RecordValue → Binary64
  | unset => Binary64.ofMagnitude false 0
  | number x => ⟨x.toBits⟩
  | undefined negative => Binary64.ofMagnitude negative (Binary64.infiniteMagnitude + twoTo 51)
  | text s | input s => leadingBits s

/-- A value as a number. -/
def toNumber (v : RecordValue) : Float := Float.ofBits v.toBits.bits

/-- The value for the result of a calculation.  What has none gets a negative sign. -/
def ofNumber (x : Float) : RecordValue := if x.isNaN then undefined true else number x

/-- The sign of a value that is no number although it counts as one. -/
def undefinedSign? (v : RecordValue) : Option Bool :=
  if v.toBits.isUndefined then some v.toBits.isNegative else none

/-- A value with its sign turned. -/
def negated (v : RecordValue) : RecordValue :=
  match v.undefinedSign? with
  | some negative => undefined !negative
  | none => number (-v.toNumber)

/-- The text of a number: digits if it is whole and not too large, and else what a format makes of
it. -/
def numberText (format : String → Float → String) (conversion : String) (x : Float) : String :=
  if x == x.floor && x.abs ≤ largestWhole then
    let digits := toString x.abs.toUInt64.toNat
    if x < 0 then "-" ++ digits else digits
  else format conversion x

/-- A value as a text, given how numbers are written. -/
def toText (write : Float → String) : RecordValue → String
  | unset => ""
  | number x => write x
  | undefined negative => if negative then "-nan" else "nan"
  | text s | input s => s

/-- Whether a value counts as true. -/
def isTrue : RecordValue → Bool
  | unset => false
  | number x => x != 0
  | undefined _ => true
  | text s => s ≠ ""
  | input s => if looksNumeric s then leadingNumber s != 0 else s ≠ ""

/-- The number for a truth value. -/
def ofBool (b : Bool) : RecordValue := .number (if b then 1 else 0)

/-- The number for a count. -/
def ofNat (n : Nat) : RecordValue := .number (Float.ofNat n)

end RecordValue

/-- The whole number that a number is cut down to. -/
def wholePart (x : Float) : Int :=
  if x.isNaN then -(twoTo 63 : Int) else max x.toInt64.toInt (1 - (twoTo 63 : Int))

/-- The whole number that a number is cut down to, within smaller bounds. -/
def smallPart (x : Float) : Int :=
  if x.isNaN then -2147483647 else max (min x.toInt64.toInt 2147483647) (-2147483647)

/-- What is left when a number is divided by another one, a whole number of times. -/
def remainder (x y : Float) : Float :=
  let a : Binary64 := ⟨x.toBits⟩
  let b : Binary64 := ⟨y.toBits⟩
  if x.isNaN then x
  else if y.isNaN then y
  else if !a.isFinite ∨ y == 0 then -(0.0 / 0.0 : Float).abs
  else if !b.isFinite then x
  else
    let rest := Binary64.units a.magnitude % Binary64.units b.magnitude
    Float.ofBits (Binary64.ofMagnitude a.isNegative (Binary64.nearestUnits rest 1)).bits

/-- The result of a calculation. -/
def RecordArith.apply : RecordArith → Float → Float → Float
  | add, x, y => x + y
  | sub, x, y => x - y
  | mul, x, y => x * y
  | div, x, y => x / y
  | rem, x, y => remainder x y
  | pow, x, y => Float.pow x y

/-- The result of a calculation with values.  One that is no number stays what it is. -/
def RecordArith.result (op : RecordArith) (a b : RecordValue) : RecordValue :=
  let x := op.apply a.toNumber b.toNumber
  if x.isNaN then
    match a.undefinedSign? <|> b.undefinedSign? with
    | some negative => .undefined negative
    | none => .undefined true
  else .number x

/-- Whether a comparison holds, given whether the first value is less or greater.  What is neither
counts as equal. -/
def RecordOrder.holds (isLess isGreater : Bool) : RecordOrder → Bool
  | less => isLess
  | lessEqual => !isGreater
  | equal => !isLess && !isGreater
  | unequal => isLess || isGreater
  | greater => isGreater
  | greaterEqual => !isLess

/-! ### Formats -/

/-- What is wrong with a format, or with the values for it. -/
inductive FormatFault where
  | tooFew
  /-- A conversion is none; they are counted. -/
  | improper (number : Nat)

/-- The text that a format makes of some values, up to what is wrong with it.  Conversions are
counted. -/
def formatRecord (write : Float → String) : (steps number : Nat) → List Char → List RecordValue →
    List Char × Option FormatFault
  | 0, _, _, _ | _, _, [], _ => ([], none)
  | steps + 1, number, '%' :: '%' :: cs, values =>
      let (text, fault) := formatRecord write steps number cs values
      ('%' :: text, fault)
  | steps + 1, number, '%' :: cs, values =>
      let flags := cs.takeWhile fun c => ['#', '-', '+', ' ', '0'].contains c
      let takeCount (cs : List Char) (values : List RecordValue) :
          Option (Option Int × List Char × List RecordValue) :=
        match cs, values with
        | '*' :: cs, v :: values => some (some (smallPart v.toNumber), cs, values)
        | '*' :: _, [] => none
        | cs, values =>
            let digits := cs.takeWhile Char.isDigit
            some (if digits.isEmpty then none else some (Nat.ofDigitChars 10 digits 0 : Int),
              cs.drop digits.length, values)
      match takeCount (cs.drop flags.length) values with
      | none => ([], some .tooFew)
      | some (width, cs, values) =>
      let precised : Option (Option Int × List Char × List RecordValue) := match cs with
        | '.' :: cs => (takeCount cs values).map fun found =>
            (some (found.1.getD 0), found.2.1, found.2.2)
        | cs => some (none, cs, values)
      match precised with
      | none => ([], some .tooFew)
      | some (precision, cs, values) =>
      match cs.dropWhile ['l', 'h'].contains with
      | [] => ([], some (.improper number))
      | letter :: rest =>
          let width := width.getD 0
          let c : Format.Conversion :=
            { flags := if width < 0 then '-' :: flags else flags
              width := width.natAbs
              precision := precision.bind fun n => if n < 0 then none else some n.toNat
              letter := letter }
          let known := ['d', 'i', 'o', 'x', 'X', 'u', 'c', 's', 'e', 'E', 'f', 'g', 'G']
          if !known.contains letter then ([], some (.improper number))
          else match values with
            | [] => ([], some .tooFew)
            | v :: values =>
                let shown : List Char :=
                  if letter = 's' then c.text (v.toText write).toList
                  else if letter = 'c' then
                    let byNumber (x : Float) : List Char :=
                      [Char.ofNat ((smallPart x) % 256).toNat]
                    let first (s : String) : List Char := [s.toList.headD '\x00']
                    c.pad (match v with
                      | .number x => byNumber x
                      | .undefined _ => byNumber v.toNumber
                      | .input s =>
                          if looksNumeric s then byNumber (leadingNumber s) else first s
                      | .text s => first s
                      | .unset => first "")
                  else if ['e', 'E', 'f', 'g', 'G'].contains letter then
                    c.float v.toBits
                  else
                    let x := v.toNumber
                    let large := Float.ofNat (twoTo 63)
                    c.integer (if x ≥ large then (x.toUInt64.toNat : Int) else wholePart x)
                let (text, fault) := formatRecord write steps (number + 1) rest values
                (shown ++ text, fault)
  | steps + 1, number, c :: cs, values =>
      let (text, fault) := formatRecord write steps number cs values
      (c :: text, fault)

/-- A number in a format. -/
def formatNumber (format : String) (x : Float) : String :=
  String.ofList (formatRecord toString (format.length + 1) 1 format.toList [.number x]).1

/-! ### Arrays -/

/-- A key of an array. -/
inductive RecordKey where
  | whole (n : Int)
  | text (s : String)

/-- The text of a key. -/
def RecordKey.shown : RecordKey → String
  | whole n => toString n
  | text s => s

/-- An array. -/
structure RecordArray where
  values : Std.HashMap String RecordValue := {}
  /-- Whether the keys are the numbers up to the size, in no list so far. -/
  isPlain : Bool := false
  /-- Whether all keys are in the lists of texts. -/
  isLinked : Bool := false
  byNumber : Array (List Int) := #[]
  byText : Array (List String) := #[]

namespace RecordArray

/-- The number of lists of an array at first. -/
def firstLists : Nat := 64

/-- The number of keys for every list, beyond which there are twice as many lists. -/
def listLength : Nat := 12

/-- An array without entries. -/
def empty : RecordArray :=
  { byNumber := Array.replicate firstLists [], byText := Array.replicate firstLists [] }

/-- The number of lists. -/
def lists (a : RecordArray) : Nat := a.byText.size

/-- The sum over the bytes of a text by which its list is chosen. -/
def textSum (s : String) : Nat :=
  (s.toList.foldl (fun (h : UInt32) c => (h ^^^ UInt32.ofNat c.toNat) * 16777619) 2166136261).toNat

/-- The list of a text. -/
def textPlace (a : RecordArray) (s : String) : Nat := textSum s % a.lists

/-- The list of a number. -/
def numberPlace (a : RecordArray) (n : Int) : Nat := (n % (a.lists : Int)).toNat

/-- Put a text in front of its list. -/
def pushText (a : RecordArray) (s : String) : RecordArray :=
  let i := a.textPlace s
  { a with byText := a.byText.modify i fun list => s :: list.erase s }

/-- Put a number in front of its list. -/
def pushNumber (a : RecordArray) (n : Int) : RecordArray :=
  let i := a.numberPlace n
  { a with byNumber := a.byNumber.modify i fun list => n :: list.erase n }

/-- Take twice as many lists where keys have become too many.  The order within lists stays. -/
def grown (a : RecordArray) : RecordArray :=
  if a.values.size ≤ listLength * a.lists then a
  else
    let twice := { a with
      byNumber := Array.replicate (2 * a.lists) []
      byText := Array.replicate (2 * a.lists) [] }
    let numbers := a.byNumber.toList.flatten.reverse
    let texts := a.byText.toList.flatten.reverse
    texts.foldl pushText (numbers.foldl pushNumber twice)

/-- An array with values for the numbers from one on. -/
def ofValues (values : List RecordValue) : RecordArray :=
  let found := (values.zipIdx 1).foldl (fun (found : Std.HashMap String RecordValue) (v, i) =>
    found.insert (toString i) v) {}
  let rec fit : (steps lists : Nat) → Nat
    | 0, lists => lists
    | steps + 1, lists =>
        if listLength * lists < values.length then fit steps (2 * lists) else lists
  let lists := fit values.length firstLists
  { values := found
    isPlain := !values.isEmpty
    byNumber := Array.replicate lists []
    byText := Array.replicate lists [] }

/-- Put the keys of a plain array into lists. -/
def listed (a : RecordArray) : RecordArray :=
  if a.isPlain then
    ((List.range a.values.size).map fun (i : Nat) => ((i : Int) + 1)).foldl pushNumber
      { a with isPlain := false }
  else a

/-- Put all keys into the lists of texts. -/
def linked (a : RecordArray) : RecordArray :=
  let a := a.listed
  if a.isLinked then a
  else
    let numbers := a.byNumber.toList.flatten
    { numbers.foldl (fun a n => a.pushText (toString n)) a with isLinked := true }

/-- Give a key a place that is new. -/
def added (a : RecordArray) (s : String) : RecordArray :=
  { a with values := a.values.insert s .unset }.grown

/-- Look a text up, and let there be an entry for it if that is asked for. -/
def visitText (a : RecordArray) (s : String) (create : Bool) : RecordArray :=
  let a := a.linked
  if a.values.contains s then a.pushText s
  else if create then (a.added s).pushText s
  else a

/-- Look a number up, and let there be an entry for it if that is asked for. -/
def visitNumber (a : RecordArray) (n : Int) (create : Bool) : RecordArray :=
  let s := toString n
  if a.isPlain && (a.values.contains s || !create) then a
  else
    let a := a.listed
    if (a.byNumber.getD (a.numberPlace n) []).contains n then a.pushNumber n
    else if a.isLinked then
      let a := a.visitText s create
      if a.values.contains s then a.pushNumber n else a
    else if create then (a.added s).pushNumber n
    else a

/-- Look a key up, and let there be an entry for it if that is asked for. -/
def visit (a : RecordArray) (k : RecordKey) (create : Bool) : RecordArray :=
  if a.values.isEmpty && !create then a
  else match k with
    | .whole n => a.visitNumber n create
    | .text s => a.visitText s create

/-- The value for a key. -/
def get? (a : RecordArray) (k : RecordKey) : Option RecordValue := a.values[k.shown]?

/-- Set the value for a key. -/
def set (a : RecordArray) (k : RecordKey) (v : RecordValue) : RecordArray :=
  let a := a.visit k true
  { a with values := a.values.insert k.shown v }

/-- Leave out an entry. -/
def erase (a : RecordArray) (k : RecordKey) : RecordArray :=
  let s := k.shown
  let a := a.visit k false
  if a.values.contains s then
    let a := a.listed
    if a.values.size = 1 then empty
    else
      let ofNumber := match s.toInt? with
        | some n => a.byNumber.modify (a.numberPlace n) (List.erase · n)
        | none => a.byNumber
      let ofText := a.byText.modify (a.textPlace s) (List.erase · s)
      { a with values := a.values.erase s, byNumber := ofNumber, byText := ofText }
  else a

/-- The number of entries. -/
def size (a : RecordArray) : Nat := a.values.size

/-- All keys in their order. -/
def keys (a : RecordArray) : List String := a.linked.byText.toList.flatten

/-- An array with entries for texts. -/
def ofEntries (entries : List (String × RecordValue)) : RecordArray :=
  entries.foldl (fun a (s, v) => a.set (.text s) v) empty

end RecordArray

end ToyLang.Tools
