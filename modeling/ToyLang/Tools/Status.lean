import ToyLang.Text.Quoted
import ToyLang.Tools.FileFacts
import ToyLang.Tools.Basic

/-!
# What is known about single files

## Main definitions

* `StatusPart`, `statusParts` — the parts of a format.
* `statusField` — what a letter stands for.
* `stat` — the program.
-/

namespace ToyLang.Tools

open Run

/-! ### Formats -/

/-- A part of a format. -/
inductive StatusPart where
  | text (s : String)
  /-- What a letter stands for, behind a second letter that says which part of it. -/
  | field (f : ShownFlags) (half : Option Char) (letter : Char)
  | warning (text : String)
  /-- Nothing more can be shown. -/
  | fault (text : String)

/-- What a letter behind a backslash stands for. -/
def statusEscape? (c : Char) : Option Char :=
  [('a', '\x07'), ('b', '\x08'), ('e', '\x1b'), ('f', '\x0c'), ('n', '\n'), ('r', '\r'),
    ('t', '\t'), ('v', '\x0b'), ('"', '"'), ('\\', '\\')].lookup c

/-- The part of a format behind a backslash, and what follows it. -/
def escapedPart (cs : List Char) : List StatusPart × List Char :=
  let one (c : Char) : StatusPart := .text (String.singleton c)
  match cs with
  | [] => ([.warning "warning: backslash at end of format", one '\\'], [])
  | c :: rest =>
      let octal := (cs.take 3).takeWhile Mode.isOctal
      let hex := (rest.take 2).takeWhile fun c => c.isDigit || ('a' ≤ c.toLower && c.toLower ≤ 'f')
      if !octal.isEmpty then
        ([one (Char.ofNat (Nat.ofDigitChars 8 octal 0 % 256))], cs.drop octal.length)
      else if c = 'x' ∧ !hex.isEmpty then
        ([one (Char.ofNat (Nat.ofDigitChars 16 hex 0))], rest.drop hex.length)
      else match statusEscape? c with
        | some c => ([one c], rest)
        | none =>
            ([.warning ("warning: unrecognized escape '\\" ++ String.singleton c ++ "'"), one c],
              rest)

/-- The parts of a format, in which a backslash may stand for something else; each step takes a
character at least. -/
def statusParts (escapes : Bool) : (steps : Nat) → List Char → List StatusPart
  | 0, _ | _, [] => []
  | steps + 1, '%' :: cs =>
      let (flags, rest) := ShownFlags.read ['\'', '-', '+', ' ', '#', '0', 'I'] cs
      let written := String.ofList (cs.take (cs.length - rest.length))
      let flags := if written.endsWith "." then { flags with precision := some 9 } else flags
      let lone (c : String) (rest : List Char) : List StatusPart :=
        if written = "" then .text "%" :: statusParts escapes steps rest
        else [.fault (Text.mentioned ("%" ++ written ++ c) ++ ": invalid directive")]
      match rest with
      | [] => lone "" []
      | '%' :: rest => lone "%" rest
      | c :: letter :: rest =>
          if (c = 'H' ∨ c = 'L') ∧ (letter = 'd' ∨ letter = 'r') then
            .field flags (some c) letter :: statusParts escapes steps rest
          else .field flags none c :: statusParts escapes steps (letter :: rest)
      | [c] => [.field flags none c]
  | steps + 1, '\\' :: cs =>
      if escapes then
        let (parts, rest) := escapedPart cs
        parts ++ statusParts escapes steps rest
      else .text "\\" :: statusParts escapes steps cs
  | steps + 1, c :: cs => .text (String.singleton c) :: statusParts escapes steps cs

/-! ### What letters stand for -/

/-- A file that is shown. -/
structure StatusSubject where
  path : String
  number : Nat
  node : Node
  /-- How names are shown that are to be told from texts around them. -/
  names : Text.NameStyle

/-- The number of the device that files are stored on, in its two parts. -/
def storingDevice : Nat × Nat := (0, 64)

/-- The two parts of the number of a device. -/
def deviceNumbers : Content → Nat × Nat
  | .device .null => (1, 3)
  | .device .zero => (1, 5)
  | .device .full => (1, 7)
  | .device .absent => (5, 0)
  | .device (.numbered _ major minor) => (major, minor)
  | _ => (0, 0)

/-- The bits for the kind of a node. -/
def kindBits (c : Content) : Nat :=
  match kindLetter c with
  | 'd' => 0o040000
  | 'l' => 0o120000
  | 'p' => 0o010000
  | 'b' => 0o060000
  | 'c' => 0o020000
  | _ => 0o100000

/-- A point in time in words. -/
def wholeMoment (time : Int) : String :=
  (Format.Moment.ofNanoseconds time).text "%Y-%m-%d %H:%M:%S.%N %z"

/-- The seconds up to a point in time, with as many digits of their fraction as the precision
says. -/
def secondsField (f : ShownFlags) (time : Int) : String :=
  let second : Int := Format.nanosecondsPerSecond
  let places := min (f.precision.getD 0) 9
  let shows := time < 0 && places ≠ 0 && time % second ≠ 0
  let time' := if shows then -time else time
  let fraction := (time' % second).toNat / tenTo (9 - places)
  let whole := (if shows then "-" else "") ++ toString (time' / second)
  let digits := Format.filledUp '0' places (Nat.toDigits 10 fraction)
  let text := if places = 0 then whole else whole ++ "." ++ String.ofList digits
  if '0' ∈ f.letters && !('-' ∈ f.letters) then
    String.ofList (Format.filledUp '0' f.width text.toList)
  else f.place text

/-- What a letter stands for. -/
def statusField (t : FileTree) (s : StatusSubject) (f : ShownFlags) (half : Option Char) (letter : Char) :
    String :=
  let n := s.node
  let ofTime (which : FileTime) : Int := which.of n
  let decimal (k : Nat) : String := f.digits "" (toString k)
  let hexadecimal (k : Nat) : String :=
    f.digits (if '#' ∈ f.letters && k ≠ 0 then "0x" else "") (String.ofList (Nat.toDigits 16 k))
  let whole (numbers : Nat × Nat) : Nat := numbers.1 * 256 + numbers.2
  let device (numbers : Nat × Nat) : String := match half with
    | some 'H' => decimal numbers.1
    | some _ => decimal numbers.2
    | none => decimal (whole numbers)
  match letter with
  | 'n' => f.text s.path
  | 'N' => match n.content with
      | .link target =>
          f.text (s.names.shown [] s.path) ++ " -> " ++ f.text (s.names.shown [] target)
      | _ => f.text (s.names.shown [] s.path)
  | 's' => decimal (sizeOf n.content)
  | 'a' =>
      f.digits (if '#' ∈ f.letters && n.mode ≠ 0 then "0" else "") (Mode.octal n.mode)
  | 'A' => f.text (modeColumn n)
  | 'F' => f.text (kindWords n.content)
  | 'h' => decimal (linkCount t s.number)
  | 'U' => f.text ((Owner.name? false n.owner).getD "UNKNOWN")
  | 'G' => f.text ((Owner.name? true n.group).getD "UNKNOWN")
  | 'u' => decimal n.owner
  | 'g' => decimal n.group
  | 'i' => decimal (s.number + 1)
  | 'f' => hexadecimal (kindBits n.content + n.mode)
  | 'b' => decimal (2 * storedUnits n.content)
  | 'B' => decimal 512
  | 'o' => decimal 4096
  | 'd' => device storingDevice
  | 'D' => hexadecimal (whole storingDevice)
  | 'r' => device (deviceNumbers n.content)
  | 'R' => hexadecimal (whole (deviceNumbers n.content))
  | 't' => hexadecimal (deviceNumbers n.content).1
  | 'T' => hexadecimal (deviceNumbers n.content).2
  | 'm' => f.text "/"
  | 'w' => f.text "-"
  | 'W' => decimal 0
  | 'x' => f.text (wholeMoment (ofTime .used))
  | 'y' => f.text (wholeMoment (ofTime .changed))
  | 'z' => f.text (wholeMoment (ofTime .altered))
  | 'X' => secondsField f (ofTime .used)
  | 'Y' => secondsField f (ofTime .changed)
  | 'Z' => secondsField f (ofTime .altered)
  | _ => "?"

/-- What a letter stands for if the whole of the storage is shown that a file lies in. -/
def storageField (s : StatusSubject) (f : ShownFlags) (letter : Char) : String :=
  let decimal (k : Nat) : String := f.digits "" (toString k)
  match letter with
  | 'n' => f.text s.path
  | 'i' => f.digits "" "0"
  | 'l' => decimal Path.longestName
  | 't' => f.digits "" "794c7630"
  | 'T' => f.text "overlayfs"
  | 's' | 'S' => decimal 4096
  | 'a' | 'b' | 'c' | 'd' | 'f' => decimal 0
  | _ => "?"

/-! ### The program -/

/-- The format for a file if none is given. -/
def usualStatus (storage terse isDevice : Bool) : String :=
  if storage then
    if terse then "%n %i %l %t %s %S %b %f %a %c %d\n"
    else "  File: \"%n\"\n    ID: %-8i Namelen: %-7l Type: %T\n"
      ++ "Block size: %-10s Fundamental block size: %S\n"
      ++ "Blocks: Total: %-10b Free: %-10f Available: %a\n"
      ++ "Inodes: Total: %-10c Free: %d\n"
  else if terse then "%n %s %b %f %u %g %D %i %h %t %T %X %Y %Z %W %o\n"
  else "  File: %N\n  Size: %-10s\tBlocks: %-10b IO Block: %-6o %F\n"
    ++ (if isDevice then "Device: %Hd,%Ld\tInode: %-10i  Links: %-5h Device type: %Hr,%Lr\n"
      else "Device: %Hd,%Ld\tInode: %-10i  Links: %h\n")
    ++ "Access: (%04a/%10.10A)  Uid: (%5u/%8U)   Gid: (%5g/%8G)\n"
    ++ "Access: %x\nModify: %y\nChange: %z\n Birth: %w\n"

/-- The words for how old what is known may be. -/
def cachedWords : List (List String × Unit) := [(["default"], ()), (["never"], ()), (["always"], ())]

/-- Show the parts of a format, unless one of them cannot be shown. -/
def putParts (name : String) (show_ : ShownFlags → Option Char → Char → String) :
    List StatusPart → Run Bool
  | [] => return true
  | .text s :: parts => do
      put s
      putParts name show_ parts
  | .field f half letter :: parts => do
      put (show_ f half letter)
      putParts name show_ parts
  | .warning text :: parts => do
      blame name text
      putParts name show_ parts
  | .fault text :: _ => giveUp name text

/-- Show what is known about files. -/
def stat : Tool := fun name arguments =>
  withOptions name
    { flags := "Lft", valued := "c"
      long := [("format", 'c', .required), ("printf", '/', .required), ("dereference", 'L', .none),
        ("file-system", 'f', .none), ("terse", 't', .none), ("cached", '=', .required)] }
    arguments fun g => do
      for word in g.values '=' do
        if let .error isStart := choice? cachedWords word then
          complainOfChoice name "--cached" word cachedWords isStart
          return ← askForHelp name 1
      if g.operands.isEmpty then return ← missingOperand name []
      let storage := g.has 'f'
      let given : Option (String × Bool) := match g.last? ['/', 'c'] with
        | some '/' => some ((g.value? '/').getD "", true)
        | some _ => some ((g.value? 'c').getD "", false)
        | none => none
      let style ← if given.any fun (format, _) => 1 < (format.splitOn "%N").length then
          namesFromEnvironment name
        else pure .literal
      let mut status := 0
      for path in g.operands do
        if path = "-" ∧ storage then
          blame name ("using " ++ mentioned "-"
            ++ " to denote standard input does not work in file system mode")
          status := 1
        else
          let found ← if path = "-" then ownInput else locatePath path (g.has 'L' || storage)
          match found with
          | .error e =>
              let what := if path = "-" then "cannot stat standard input"
                else (if storage then "cannot read file system information for "
                  else "cannot statx ") ++ quoted path
              blame name (what ++ ": " ++ e.reason)
              status := 1
          | .ok number =>
              let t ← tree
              let s : StatusSubject :=
                { path := path
                  number := number
                  node := t.node number
                  names := style }
              let isDevice := ['b', 'c'].contains (kindLetter s.node.content)
              let (format, escapes) :=
                given.getD (usualStatus storage (g.has 't') isDevice, false)
              let show_ (f : ShownFlags) (half : Option Char) (letter : Char) : String :=
                if storage then storageField s f letter else statusField t s f half letter
              let parts := statusParts escapes (format.length + 1) format.toList
              let ending : List StatusPart := if given.isNone || escapes then [] else [.text "\n"]
              if !(← putParts name show_ (parts ++ ending)) then return 1
      return status
where
  /-- How names are shown in a format that was given. -/
  namesFromEnvironment (name : String) : Run Text.NameStyle := do
    match (← process).environment.lookup "QUOTING_STYLE" with
    | none => return .shellEscapeAlways
    | some word =>
        match choice? Text.NameStyle.words word with
        | .ok style => return style
        | .error _ =>
            blame name ("ignoring invalid value of environment variable QUOTING_STYLE: "
              ++ mentioned word)
            return .shellEscapeAlways
  /-- The node that the standard input is read from. -/
  ownInput : Run (Except FileError Nat) := do
    match ← openFile? 0 with
    | some (_, { target := .node number, .. }) => return .ok number
    | some _ => locatePath "/dev/stdin" false
    | none => return .error .badStream

end ToyLang.Tools
