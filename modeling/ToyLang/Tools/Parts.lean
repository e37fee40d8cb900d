import ToyLang.Tools.Streams

/-!
# Parts of inputs

## Main definitions

* `Portion` — how much of an input is taken.
* `head`, `tail` — the first and the last part of inputs.
-/

namespace ToyLang.Tools

open Run

/-- How much of an input is taken. -/
structure Portion where
  count : Nat
  bytes : Bool := false
  /-- Whether the count says where to start or to stop, seen from the other end. -/
  other : Bool := false
  /-- The byte that ends a line. -/
  stop : Char := '\n'

/-- The bytes that are read at once. -/
def blockSize : Nat := 8192

/-- Read a stream block by block until it holds enough lines, and give back what is behind them
if that is possible. -/
def takeLines (stop : Char) (stream count : Nat) : Run (Except FileError String) := do
  if count = 0 then return .ok ""
  let mut found := ""
  let mut left := count
  for _ in [0:rounds] do
    match ← readBytes stream blockSize with
    | .error e => return .error e
    | .ok bytes =>
        if bytes.isEmpty then return .ok found
        let mut kept := 0
        let mut at_ := 0
        for b in bytes.toList do
          at_ := at_ + 1
          if left ≠ 0 then
            kept := at_
            if b.toNat = stop.toNat then left := left - 1
        found := found ++ Text.rawOfBytes (bytes.extract 0 kept)
        if left = 0 then
          giveBack stream (bytes.size - kept)
          return .ok found
  return .ok found

/-- The first part of a stream. -/
def headOf (p : Portion) (stream : Nat) : Run (Except FileError String) := do
  if p.other then
    match ← readAll stream with
    | .error e => return .error e
    | .ok text =>
        if p.bytes then return .ok (String.ofList (text.toList.take (text.length - p.count)))
        let pieces := endedPieces p.stop text
        return .ok (String.join (pieces.take (pieces.length - p.count)))
  else if p.bytes then return (← readBytes stream p.count).map Text.rawOfBytes
  else takeLines p.stop stream p.count

/-- The last part of a stream. -/
def tailOf (p : Portion) (stream : Nat) : Run (Except FileError String) := do
  match ← readAll stream with
  | .error e => return .error e
  | .ok text =>
      if p.bytes then
        let cs := text.toList
        let dropped := if p.other then p.count - 1 else cs.length - p.count
        return .ok (String.ofList (cs.drop dropped))
      let pieces := endedPieces p.stop text
      return .ok (String.join
        (if p.other then pieces.drop (p.count - 1) else pieces.drop (pieces.length - p.count)))

/-- Show a part of each input, with titles if there are several of them. -/
def showParts (name : String) (g : Given) (part : Nat → Run (Except FileError String)) :
    Run Nat := do
  let files := inputsOf g.operands
  let titled := match g.last? ['q', 'v'] with
    | some 'q' => false
    | some _ => true
    | none => 1 < files.length
  let mut status := 0
  let mut first := true
  for file in files do
    let title : Run Unit := do
      let shown := if file = "-" then "standard input" else file
      if titled then put ((if first then "" else "\n") ++ "==> " ++ shown ++ " <==\n")
    let failed (text : String) : Run Unit := blame name text
    if file = "-" then
      title
      first := false
      match ← part 0 with
      | .ok text => put text
      | .error e =>
          failed ("error reading 'standard input': " ++ e.reason)
          status := 1
    else
      match ← openPath file .reading with
      | .error e =>
          failed ("cannot open " ++ quoted file ++ " for reading: " ++ e.reason)
          status := 1
      | .ok index =>
          title
          first := false
          setStream ownStream index
          let found ← part ownStream
          closeStream ownStream
          match found with
          | .ok text => put text
          | .error e =>
              failed ("error reading " ++ quoted file ++ ": " ++ e.reason)
              status := 1
  return status

/-- Turn the count of an old-fashioned first argument, with letters behind it, into options, or say
which letter is unknown. -/
def headArguments (arguments : List String) : Except Char (List String) :=
  match arguments with
  | first :: rest =>
      match first.toList with
      | '-' :: c :: cs =>
          let digits := (c :: cs).takeWhile Char.isDigit
          let letters := (c :: cs).drop digits.length
          if digits.isEmpty then .ok arguments
          else match letters.find? fun c => !"cbklmqvz".contains c with
            | some c => .error c
            | none =>
                let size := (letters.filter fun c => "cbkm".contains c).getLast?
                let byBytes := (letters.filter fun c => "cbklm".contains c).getLast?.any (· ≠ 'l')
                let count := String.ofList (digits ++ (match size with
                  | some 'c' | none => []
                  | some c => [c]))
                .ok ((if byBytes then "-c" else "-n") :: count
                  :: (letters.filter fun c => "qvz".contains c).map (String.ofList ['-', ·])
                  ++ rest)
      | _ => .ok arguments
  | [] => .ok arguments

/-- Turn the count of an old-fashioned first argument into options; there may be one operand at most
behind it. -/
def tailArguments (arguments : List String) : List String :=
  let alone : Bool := match arguments with
    | [_] => true
    | [_, "--"] | [_, "--", _] => true
    | [_, operand] => !operand.startsWith "-" || operand = "-"
    | _ => false
  match arguments with
  | first :: rest =>
      match first.toList with
      | sign :: cs =>
          let digits := cs.takeWhile Char.isDigit
          let letters := cs.drop digits.length
          let (unit, letters) : Option Char × List Char := match letters with
            | c :: more => if c = 'b' ∨ c = 'c' ∨ c = 'l' then (some c, more) else (none, letters)
            | [] => (none, [])
          let usable := sign = '+' || sign = '-' && !(cs.isEmpty || cs = ['c'])
          if !alone || !usable || !(letters.isEmpty || letters = ['f']) then arguments
          else
            let count := if digits.isEmpty then "10" else String.ofList digits
            let start := if sign = '+' then "+" else ""
            (if unit = some 'b' ∨ unit = some 'c' then "-c" else "-n")
              :: (start ++ count ++ if unit = some 'b' then "b" else "") :: rest
      | [] => arguments
  | [] => []

/-- The portion that options ask for.  A count behind `mark` is seen from the other end. -/
def portionOf (mark : Char) (g : Given) : Except String Portion :=
  let stop := if g.has 'z' then '\x00' else '\n'
  match (g.options.filter fun o => o.1 = 'n' || o.1 = 'c').getLast? with
  | none => .ok { count := 10, stop := stop }
  | some (c, text) =>
      let (other, digits) : Bool × List Char := match text.toList with
        | '+' :: cs => (mark = '+', cs)
        | '-' :: cs => (mark = '-', cs)
        | cs => (false, cs)
      let what := "number of " ++ if c = 'c' then "bytes" else "lines"
      (sizeOrFault what (String.ofList digits)).map fun n =>
        { count := n, bytes := c = 'c', other := other, stop := stop }

/-- Show the first part of inputs. -/
def head : Tool := fun name arguments =>
  match headArguments arguments with
  | .error c => misused name ("invalid trailing option -- " ++ String.singleton c)
  | .ok arguments =>
  withOptions name
    { flags := "qvz0123456789", valued := "nc"
      long := [("bytes", 'c', .required), ("lines", 'n', .required), ("quiet", 'q', .none),
        ("silent", 'q', .none), ("verbose", 'v', .none), ("zero-terminated", 'z', .none)] }
    arguments fun g =>
    if let some (c, _) := g.options.find? fun o => o.1.isDigit then
      misused name ("invalid trailing option -- " ++ String.singleton c)
    else match portionOf '-' g with
    | .ok p => showParts name g (headOf p)
    | .error text => do
        blame name text
        return 1

/-- Show the last part of inputs; nothing is added to them later. -/
def tail : Tool := fun name arguments =>
  withOptions name
    { flags := "qvzfF0123456789", valued := "ncs"
      long := [("bytes", 'c', .required), ("follow", 'f', .optional), ("lines", 'n', .required),
        ("max-unchanged-stats", 'M', .required), ("pid", 'P', .required), ("quiet", 'q', .none),
        ("retry", 'R', .none), ("silent", 'q', .none), ("sleep-interval", 's', .required),
        ("verbose", 'v', .none), ("zero-terminated", 'z', .none)] }
    (tailArguments arguments) fun g => do
    if let some (c, _) := g.options.find? fun o => o.1.isDigit then
      blame name ("option used in invalid context -- " ++ String.singleton c)
      return 1
    let isInterval (text : String) : Bool :=
      let digits := text.toList.filter (· ≠ '.')
      !digits.isEmpty && digits.all Char.isDigit && text.length ≤ digits.length + 1
    if let some bad := (g.values 's').find? fun s => !isInterval s then
      blame name ("invalid number of seconds: " ++ mentioned bad)
      return 1
    match portionOf '+' g with
    | .ok p => showParts name g (tailOf p)
    | .error text =>
        blame name text
        return 1

end ToyLang.Tools
