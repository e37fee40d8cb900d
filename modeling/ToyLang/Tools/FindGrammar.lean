import ToyLang.Files.Access
import ToyLang.Format.DateText
import ToyLang.Format.Escape
import ToyLang.Text.RegexSyntax
import ToyLang.Tools.Finding

/-!
# How searches are written

The words of a search are tests, actions and options, which operators join.  They are read from
left to right into pieces first, and the pieces are joined by the ranks of the operators then.

## Main definitions

* `FindReader.pieces` — the pieces of a search.
* `FindPiece.joined` — the expression that pieces make.
* `readFinding` — the expression that words make.
-/

namespace ToyLang.Tools

/-- What a command line of `find` says besides its tests. -/
structure FindOptions where
  regexType : String := "findutils-default"
  lowest : Nat := 0
  deepest : Option Nat := none
  fromBelow : Bool := false
  /-- Whether links are followed. -/
  follow : Bool := false
  /-- Whether links are followed where the walk begins. -/
  followStart : Bool := false
  /-- Whether ages are counted from the end of the day. -/
  wholeDays : Bool := false
  /-- The files that are written to, in their order. -/
  sinks : List String := []
  /-- What is strange about the words. -/
  warnings : List String := []

/-- A piece of a search. -/
inductive FindPiece where
  | test (f : Finding)
  /-- An operator in front of what it works on, as it is written. -/
  | turn (name : String)
  /-- An operator between two expressions, by its rank. -/
  | join (rank : Nat) (name : String)
  /-- A parenthesis; one that is made stands around the whole of a search. -/
  | opens (made : Bool)
  | closes (made : Bool)

/-- What words are read with. -/
structure FindPlace where
  tree : FileTree
  folder : Nat

/-- What is left of the words, and what they have said. -/
structure FindWords where
  words : List String
  /-- The last word that began a piece. -/
  last : String := ""
  options : FindOptions := {}

/-- Actions that read a search from its words. -/
abbrev FindReader := ReaderT FindPlace (EStateM String FindWords)

namespace FindReader

/-- Change the options. -/
def setOptions (f : FindOptions → FindOptions) : FindReader Unit :=
  modify fun s => { s with options := f s.options }

/-- Drop the next word. -/
def drop : FindReader Unit := modify fun s => { s with words := s.words.drop 1 }

/-- Take the argument of a test. -/
def argument (test : String) : FindReader String := do
  match (← get).words with
  | w :: _ =>
      drop
      return w
  | [] => throw ("missing argument to \x60" ++ test ++ "'")

/-- Refuse the argument of a test. -/
def refuse {α : Type} (test argument : String) : FindReader α :=
  throw ("invalid argument \x60" ++ argument ++ "' to \x60" ++ test ++ "'")

/-- A sign in front of a number. -/
def signed (text : String) : Option Char × List Char :=
  match text.toList with
  | '+' :: cs => (some '+', cs)
  | '-' :: cs => (some '-', cs)
  | cs => (none, cs)

/-- A number that an option needs. -/
def count (test : String) : FindReader Nat := do
  let text ← argument test
  match text.toNat? with
  | some n => return n
  | none => throw ("Expected a positive decimal integer argument to " ++ test ++ ", but got "
      ++ Text.mentioned text)

/-- A number that a test compares with. -/
def compared (test : String) : FindReader (Option Char × Nat) := do
  let text ← argument test
  let (sign, digits) := signed text
  match (String.ofList digits).toNat? with
  | some n => return (sign, n)
  | none => refuse test text

/-! ### Points in time -/

/-- The number of parts that decimal digits stand for, when there are `unit` parts in a whole. -/
def partsOf? (unit : Nat) (cs : List Char) : Option Nat :=
  let whole := cs.takeWhile Char.isDigit
  match cs.drop whole.length with
  | [] => if whole.isEmpty then none else some (Nat.ofDigitChars 10 whole 0 * unit)
  | '.' :: part =>
      if (whole.isEmpty && part.isEmpty) || !part.all Char.isDigit then none
      else
        let n := Nat.ofDigitChars 10 (whole ++ part) 0
        some (n * unit / tenTo part.length)
  | _ => none

/-- The nanoseconds that pass until a search begins. -/
def delay : Int := tenTo 6

/-- A test of how long ago a point in time was, in some unit of seconds.  Ages are counted from
the present, but days that are over from one day before it. -/
def age (which : FileTime) (unit : Nat) (test : String) : FindReader Finding := do
  let text ← argument test
  let (sign, cs) := signed text
  let now := (← read).tree.now + delay
  let day : Int := Format.daySeconds * Format.nanosecondsPerSecond
  let wholeDays := (← get).options.wholeDays
  let present := if wholeDays then (now / day + 1) * day else now
  let inDays := unit = Format.daySeconds
  let origin :=
    if !inDays then present
    else if sign = some '-' then (if wholeDays then present - Format.nanosecondsPerSecond
      else present)
    else present - day
  match partsOf? (unit * Format.nanosecondsPerSecond) cs with
  | none => refuse test text
  | some parts =>
      let edge := origin - parts
      let width : Int := unit * Format.nanosecondsPerSecond
      match sign with
      | some '+' => return .within which none (some (edge - 1))
      | some '-' => return .within which (some edge) none
      | _ => return .within which (some edge) (some (edge + width))

/-- The node that a path leads to, where links are followed if the search follows them. -/
def located (path : String) : FindReader Nat := do
  let p ← read
  match p.tree.locate p.folder path (← get).options.follow with
  | .ok n => return n
  | .error e => throw (Text.mentioned path ++ ": " ++ e.reason)

/-- A test whether a point in time lies behind one of another file. -/
def newerThan (which other : FileTime) (path : String) : FindReader Finding := do
  let n ← located path
  return .newer which (other.of ((← read).tree.node n))

/-- A point in time by its letter. -/
def timeOf? : Char → Option FileTime
  | 'a' => some .used
  | 'c' => some .altered
  | 'm' => some .changed
  | _ => none

/-- A test with two letters: the point in time that is compared, and what with. -/
def newerByLetters (word : String) (first second : Char) : FindReader Finding := do
  let known := (timeOf? first).isSome && (second = 't' || (timeOf? second).isSome)
  if !known then throw ("invalid predicate \x60" ++ word ++ "'")
  let which := (timeOf? first).getD .changed
  match (← get).words with
  | [] => throw ("The " ++ Text.mentioned word ++ " test needs an argument")
  | text :: _ =>
      drop
      match timeOf? second with
      | some other => newerThan which other text
      | none => match Format.readMoment? (← read).tree.now text with
          | some time => return .newer which time
          | none => throw ("I cannot figure out how to interpret " ++ Text.mentioned text
              ++ " as a date or time")

/-! ### Regular expressions -/

/-- The kinds of expressions, each with whether it is written without backslashes. -/
def regexTypes : List (String × Bool) :=
  [("findutils-default", false), ("ed", false), ("emacs", false), ("gnu-awk", true),
    ("grep", false), ("posix-awk", true), ("awk", true), ("posix-basic", false),
    ("posix-egrep", true), ("egrep", true), ("posix-extended", true),
    ("posix-minimal-basic", false), ("sed", false)]

/-- The members of a set in which no class has a name. -/
def unnamed (cs : List Char) : List Char :=
  let (front, members) := match cs with
    | '^' :: ']' :: rest => (['^', ']'], rest)
    | '^' :: rest => (['^'], rest)
    | ']' :: rest => ([']'], rest)
    | rest => ([], rest)
  let others := members.filter (· ≠ '[')
  let brackets := if others.length < members.length then ['['] else []
  match others.reverse with
  | '-' :: before => front ++ before.reverse ++ brackets ++ ['-']
  | _ => front ++ others ++ brackets

/-- An expression in which plus signs and question marks count, and braces and names of classes do
not, in the form in which they need a backslash for that. -/
def withMarks : (steps : Nat) → List Char → List Char
  | 0, cs => cs
  | _, [] => []
  | steps + 1, '\\' :: c :: cs =>
      if c ∈ ['+', '?', '{', '}'] then c :: withMarks steps cs
      else '\\' :: c :: withMarks steps cs
  | steps + 1, '[' :: cs =>
      let front := match cs with
        | '^' :: ']' :: _ => 2
        | '^' :: _ | ']' :: _ => 1
        | _ => 0
      let members := cs.take front ++ (cs.drop front).takeWhile (· ≠ ']')
      '[' :: unnamed members ++ (match cs.drop members.length with
        | ']' :: rest => ']' :: withMarks steps rest
        | rest => rest)
  | steps + 1, c :: cs =>
      if c = '+' ∨ c = '?' then '\\' :: c :: withMarks steps cs else c :: withMarks steps cs

/-- The expression that a text is, by the kind that is in use. -/
def expressionOf (text : String) : FindReader Text.Regex := do
  let type := (← get).options.regexType
  let extended := (regexTypes.lookup type).getD false
  let written :=
    if type = "emacs" ∨ type = "findutils-default" then
      String.ofList (withMarks (text.length + 1) text.toList)
    else text
  match Text.Regex.ofText? { extended := extended } (Text.widen written) with
  | .ok (r, _) => return r
  | .error reason =>
      throw ("failed to compile regular expression " ++ Text.quoted text ++ ": " ++ reason)

/-! ### Formats -/

/-- The letters that stand for something in a format. -/
def fieldLetters : List Char := "abcdDfFgGhHiklmMnpPsStuUyY".toList

/-- The octal digits at the start of a text, three at most. -/
def octalDigits (cs : List Char) : List Char := (cs.take 3).takeWhile Format.isOctal

/-- The parts of a format, and what is strange about it. -/
def formatParts : (steps : Nat) → List Char → Except String (List ShownPart × List String)
  | 0, _ | _, [] => .ok ([], [])
  | _, ['\\'] =>
      .ok ([.text "\\"], ["warning: escape \x60\\' followed by nothing at all"])
  | steps + 1, '\\' :: c :: cs => do
      if c = 'c' then return ([.stop], [])
      let digits := octalDigits (c :: cs)
      if !digits.isEmpty then
        let (parts, warnings) ← formatParts steps ((c :: cs).drop digits.length)
        return (.text (String.singleton (Format.octalByte digits)) :: parts, warnings)
      let (parts, warnings) ← formatParts steps cs
      match ['a', 'b', 'f', 'n', 'r', 't', 'v', '\\'].zip
          ['\x07', '\x08', '\x0c', '\n', '\r', '\t', '\x0b', '\\'] |>.lookup c with
      | some meant => return (.text (String.singleton meant) :: parts, warnings)
      | none =>
          let written := String.ofList ['\\', c]
          return (.text written :: parts,
            ("warning: unrecognized escape \x60" ++ written ++ "'") :: warnings)
  | _, ['%'] => .error "error: % at end of format string"
  | steps + 1, '%' :: cs => do
      let (flags, rest) := ShownFlags.read ['-', '+', ' ', '#'] cs
      let reserved (c : Char) : Except String (List ShownPart × List String) :=
        .error ("error: the format directive \x60%" ++ String.singleton c
          ++ "' is reserved for future use")
      match rest with
      | [] => reserved '\x00'
      | c :: rest =>
          if c ∈ ['\x7b', '[', '('] then reserved c
          else if c = '%' then
            let (parts, warnings) ← formatParts steps rest
            let written := String.ofList (cs.take (cs.length - rest.length))
            return (.text (if written = "%" then "%" else "%" ++ written) :: parts, warnings)
          else match (if c = 'T' then some .changed else (timeOf? c.toLower).filter fun _ =>
              c = 'A' || c = 'C'), rest with
            | some which, letter :: rest =>
                let (parts, warnings) ← formatParts steps rest
                return (.time flags which letter :: parts, warnings)
            | some _, [] =>
                return ([.text (String.ofList ('%' :: cs))],
                  ["warning: format directive \x60%" ++ String.singleton c
                    ++ "' should be followed by another character"])
            | none, rest =>
                let (parts, warnings) ← formatParts steps rest
                if c ∈ fieldLetters then return (.field flags c :: parts, warnings)
                let written := String.ofList ('%' :: cs.take (cs.length - rest.length))
                return (.text written :: parts,
                  ("warning: unrecognized format directive \x60%" ++ String.singleton c ++ "'")
                    :: warnings)
  | steps + 1, c :: cs => do
      let (parts, warnings) ← formatParts steps cs
      return (.text (String.singleton c) :: parts, warnings)

/-- The format that a text is. -/
def formatOf (text : String) : FindReader (List ShownPart) := do
  match formatParts (text.length + 1) text.toList with
  | .ok (parts, warnings) =>
      setOptions fun o => { o with warnings := o.warnings ++ warnings }
      return parts
  | .error fault => throw fault

/-- A file that is written to. -/
def sinkOf (path : String) : FindReader Sink := do
  let known := (← get).options.sinks
  match known.findIdx? (· = path) with
  | some place => return some place
  | none =>
      setOptions fun o => { o with sinks := known ++ [path] }
      return some known.length

/-! ### Tests -/

/-- The kinds of files that letters ask for. -/
def kindsOf (test : String) : (letters : List Char) → (seen : List Char) →
    FindReader (List Char)
  | [], _ => throw ("Arguments to " ++ test ++ " should contain at least one letter")
  | c :: cs, seen => do
      if c = 'D' then
        throw (test ++ " D is not supported because Solaris doors are not supported on the "
          ++ "platform find was compiled on.")
      if c ∉ ['b', 'c', 'd', 'f', 'l', 'p', 's'] then
        throw ("Unknown argument to " ++ test ++ ": " ++ String.singleton c)
      if c ∈ seen then
        throw ("Duplicate file type '" ++ String.singleton c ++ "' in the argument list to "
          ++ test ++ ".")
      match cs with
      | [] => return [c]
      | [','] => throw ("Last file type in list argument to " ++ test
          ++ " is missing, i.e., list is ending on: ','")
      | ',' :: more => return c :: (← kindsOf test more (c :: seen))
      | _ => throw ("Must separate multiple arguments to " ++ test ++ " using: ','")

/-- A test of the size. -/
def sizeTest (test : String) : FindReader Finding := do
  let text ← argument test
  if text = "" then throw "invalid null argument to -size"
  let (sign, cs) := signed text
  let letter := text.toList.getLast?.getD '0'
  let unit? := [('b', 512), ('c', 1), ('w', 2), ('k', 1024), ('M', twoTo 20), ('G', twoTo 30)]
    |>.lookup letter
  let digits := if unit?.isSome then cs.dropLast else cs
  if unit?.isNone ∧ !letter.isDigit then
    throw ("invalid -size type \x60" ++ String.singleton letter ++ "'")
  match (String.ofList digits).toNat? with
  | some n => return .size sign n (unit?.getD 512)
  | none => throw ("Invalid argument \x60" ++ text ++ "' to -size")

/-- A test of the mode. -/
def modeTest (test : String) : FindReader Finding := do
  let text ← argument test
  let cs := text.toList
  let (sign, written) := match cs with
    | '-' :: rest => (some '-', rest)
    | '/' :: rest => (some '/', rest)
    | rest => (none, rest)
  let written := String.ofList written
  let isOld := match cs with
    | '+' :: c :: _ => Mode.isOctal c
    | _ => false
  match Mode.ofText? written 0 false 0, Mode.ofText? written 0 true 0 with
  | some bits, some folderBits =>
      if isOld then throw ("invalid mode " ++ Text.mentioned text)
      return .mode sign bits folderBits
  | _, _ => throw ("invalid mode " ++ Text.mentioned text)

/-- A test of the owner by the name, or by the digits of the number. -/
def ownerTest (forGroup : Bool) (test : String) : FindReader Finding := do
  let text ← argument test
  match Owner.read? forGroup text with
  | some n => return .owner forGroup none n
  | none =>
      let digits := text.toList.takeWhile Char.isDigit
      if !forGroup then
        if text = "" then throw "The argument to -user should not be empty"
        throw (Text.mentioned text ++ " is not the name of a known user")
      if text = "" then throw "argument to -group is empty, but should be a group name"
      let unknown := Text.mentioned text ++ " is not the name of an existing group"
      if digits.isEmpty then throw unknown
      throw (unknown ++ " and it does not look like a numeric group ID because it has the "
        ++ "unexpected suffix " ++ Text.mentioned (String.ofList (text.toList.drop digits.length)))

/-- The mark for the file in a command. -/
def fileMark : String := "\x7b\x7d"

/-- The words of a command, up to a semicolon, or up to a plus sign behind the mark for the file.
The flag tells which. -/
def takeCommand : List String → Option (List String × Bool × List String)
  | [] => none
  | ";" :: rest => some ([], false, rest)
  | word :: "+" :: rest =>
      if word = fileMark then some ([word], true, rest)
      else (takeCommand ("+" :: rest)).map fun (words, together, rest) =>
        (word :: words, together, rest)
  | word :: rest => (takeCommand rest).map fun (words, together, rest) =>
      (word :: words, together, rest)

/-- The words of a command that is never run for many files at once. -/
def takeSingle (words : List String) : Option (List String × Bool × List String) :=
  let command := words.takeWhile (· ≠ ";")
  match words.drop command.length with
  | _ :: rest => some (command, false, rest)
  | [] => none

/-- An action that runs a command. -/
def execTest (test : String) : FindReader Finding := do
  let words := (← get).words
  let asks := test.startsWith "-ok"
  let inFolder := test.endsWith "dir"
  match (if asks then takeSingle words else takeCommand words) with
  | none => throw ("missing argument to \x60" ++ test ++ "'")
  | some ([], _, _) => refuse test ";"
  | some (command, together, rest) =>
      let marks := (command.filter fun w => 1 < (w.splitOn fileMark).length).length
      if together ∧ 1 < marks then
        throw ("Only one instance of " ++ fileMark ++ " is supported with -exec"
          ++ (if inFolder then "dir" else "") ++ " ... +")
      modify fun s => { s with words := rest }
      return .exec { words := command, together := together, inFolder := inFolder, asks := asks }

/-- A test that is true, and that changes the options. -/
def option (f : FindOptions → FindOptions) : FindReader Finding := do
  setOptions f
  return .always true

/-- A single test, action or option by its name, if there is one of it. -/
def test? (word : String) : FindReader (Option Finding) := do
  match word.toList with
  | ['-', 'n', 'e', 'w', 'e', 'r', first, second] =>
      return some (← newerByLetters word first second)
  | _ => pure ()
  match word with
  | "-name" => return some (.name false (.ofText false (← argument word)))
  | "-iname" => return some (.name false (.ofText true (← argument word)))
  | "-path" | "-wholename" =>
      return some (.name true (.ofText false (← argument word)))
  | "-ipath" | "-iwholename" =>
      return some (.name true (.ofText true (← argument word)))
  | "-type" => return some (.kind false (← kindsOf word (← argument word).toList []))
  | "-xtype" => return some (.kind true (← kindsOf word (← argument word).toList []))
  | "-perm" => return some (← modeTest word)
  | "-size" => return some (← sizeTest word)
  | "-newer" => return some (← newerThan .changed .changed (← argument word))
  | "-anewer" => return some (← newerThan .used .changed (← argument word))
  | "-cnewer" => return some (← newerThan .altered .changed (← argument word))
  | "-mtime" => return some (← age .changed Format.daySeconds word)
  | "-atime" => return some (← age .used Format.daySeconds word)
  | "-ctime" => return some (← age .altered Format.daySeconds word)
  | "-mmin" => return some (← age .changed 60 word)
  | "-amin" => return some (← age .used 60 word)
  | "-cmin" => return some (← age .altered 60 word)
  | "-links" =>
      let (sign, n) ← compared word
      return some (.links sign n)
  | "-inum" =>
      let (sign, n) ← compared word
      return some (.number sign n)
  | "-samefile" => return some (.same (← located (← argument word)))
  | "-lname" => return some (.linked (.ofText false (← argument word)))
  | "-ilname" => return some (.linked (.ofText true (← argument word)))
  | "-regextype" =>
      let text ← argument word
      if !regexTypes.any (fun type => type.1 = text) then
        throw ("Unknown regular expression type " ++ Text.mentioned text ++ "; valid types are "
          ++ ", ".intercalate (regexTypes.map fun type => Text.mentioned type.1) ++ ".")
      return some (← option fun o => { o with regexType := text })
  | "-regex" => return some (.regex false (← expressionOf (← argument word)))
  | "-iregex" => return some (.regex true (← expressionOf (← argument word)))
  | "-user" => return some (← ownerTest false word)
  | "-group" => return some (← ownerTest true word)
  | "-uid" =>
      let (sign, n) ← compared word
      return some (.owner false sign n)
  | "-gid" =>
      let (sign, n) ← compared word
      return some (.owner true sign n)
  | "-nouser" | "-nogroup" | "-false" => return some (.always false)
  | "-used" =>
      discard (compared word)
      return some (.always false)
  | "-fstype" =>
      discard (argument word)
      return some (.always false)
  | "-context" =>
      throw "invalid predicate -context: SELinux is not enabled."
  | "-empty" => return some .empty
  | "-executable" => return some .executable
  | "-readable" | "-writable" | "-true" => return some (.always true)
  | "-print" => return some (.print none "\n")
  | "-print0" => return some (.print none "\x00")
  | "-fprint" => return some (.print (← sinkOf (← argument word)) "\n")
  | "-fprint0" => return some (.print (← sinkOf (← argument word)) "\x00")
  | "-printf" => return some (.printf none (← formatOf (← argument word)))
  | "-fprintf" =>
      let path ← argument word
      if (← get).words.isEmpty then refuse word path
      let sink ← sinkOf path
      return some (.printf sink (← formatOf (← argument word)))
  | "-ls" => return some (.list none)
  | "-fls" => return some (.list (← sinkOf (← argument word)))
  | "-exec" | "-execdir" | "-ok" | "-okdir" => return some (← execTest word)
  | "-delete" => return some .delete
  | "-prune" => return some .prune
  | "-quit" => return some .quit
  | "-maxdepth" =>
      let n ← count word
      return some (← option fun o => { o with deepest := some n })
  | "-mindepth" =>
      let n ← count word
      return some (← option fun o => { o with lowest := n })
  | "-depth" | "-d" => return some (← option fun o => { o with fromBelow := true })
  | "-follow" => return some (← option fun o => { o with follow := true, followStart := true })
  | "-daystart" => return some (← option fun o => { o with wholeDays := true })
  | "-xdev" | "-mount" | "-noleaf" | "-nowarn" | "-warn" | "-ignore_readdir_race"
  | "-noignore_readdir_race" => return some (.always true)
  | _ => return none

/-- Whether a word belongs to the expression and is no path. -/
def isExpression (leading : Bool) (word : String) : Bool :=
  match word.toList with
  | ['-'] => false
  | '-' :: _ => true
  | ['('] | ['!'] => true
  | [')'] | [','] => !leading
  | _ => false

/-- The pieces that words make; each step takes a word at least. -/
def pieces : (steps : Nat) → FindReader (List FindPiece)
  | 0 => return []
  | steps + 1 => do
      match (← get).words with
      | [] => return []
      | word :: _ =>
          let p ← read
          if !isExpression false word then
            let known := match p.tree.locate p.folder word with
              | .ok _ => true
              | .error _ => false
            let last := (← get).last
            throw ("paths must precede expression: \x60" ++ word ++ "'" ++
              if known && last ≠ "" then
                "\nfind: possible unquoted pattern after predicate \x60" ++ last ++ "'?"
              else "")
          drop
          let piece ← match word with
            | "!" | "-not" => pure (FindPiece.turn word)
            | "-a" | "-and" => pure (.join 3 word)
            | "-o" | "-or" => pure (.join 2 word)
            | "," => pure (.join 1 word)
            | "(" => pure (.opens false)
            | ")" => pure (.closes false)
            | _ => match ← test? word with
                | some f => pure (.test f)
                | none => throw ("unknown predicate \x60" ++ word ++ "'")
          modify fun s => { s with last := word }
          return piece :: (← pieces steps)

end FindReader

/-! ### Joining -/

namespace FindPiece

/-- Put an operator between pieces that stand side by side and are both parts of an expression. -/
def withJoins : List FindPiece → List FindPiece
  | [] => []
  | p :: ps =>
      let ends : Bool := match p with
        | .test _ | .closes _ => true
        | _ => false
      let begins : Bool := match ps with
        | .test _ :: _ | .turn _ :: _ | .opens _ :: _ => true
        | _ => false
      if ends && begins then p :: .join 3 "-a" :: withJoins ps else p :: withJoins ps

/-- How a piece is written. -/
def written : FindPiece → String
  | .turn name | .join _ name => name
  | .opens _ => "("
  | .closes _ => ")"
  | .test _ => ""

/-- Actions that join pieces. -/
abbrev Joining := EStateM String (List FindPiece)

/-- The rank of the operator that turns a test around. -/
def turnRank : Nat := 4

/-- Two expressions under an operator. -/
def pair (rank : Nat) (a b : Finding) : Finding :=
  if rank = 3 then .both a b else if rank = 2 then .either a b else .sequence a b

/-- Go on behind an expression with the operators of a higher rank than some other one; each step
takes an operator. -/
def behind (whole : (rank : Nat) → Option FindPiece → Joining Finding) (rank : Nat) :
    (steps : Nat) → Finding → Joining Finding
  | 0, f => return f
  | steps + 1, f => do
      match ← get with
      | .join r name :: rest =>
          if r ≤ rank then return f
          set rest
          let other ← whole r (some (.join r name))
          behind whole rank steps (pair r f other)
      | .closes _ :: _ | [] => return f
      | _ => throw "invalid expression"

/-- An expression whose operators have a higher rank than some other one, behind a piece; `depth`
bounds how deep parentheses and operators nest. -/
def expression : (depth : Nat) → (rank : Nat) → Option FindPiece → Joining Finding
  | 0, _, _ => throw "invalid expression"
  | depth + 1, rank, before => do
      let pieces ← get
      let f ← match pieces with
        | [] => throw "invalid expression"
        | .join _ name :: _ =>
            throw ("invalid expression; you have used a binary operator '" ++ name
              ++ "' with nothing before it.")
        | .closes made :: _ =>
            let name := (before.map written).getD ""
            if made then throw ("expected an expression after '" ++ name ++ "'")
            match before with
            | some (.turn _) | some (.join _ _) =>
                throw ("expected an expression between '" ++ name ++ "' and ')'")
            | _ => throw "invalid expression; you have too many ')'"
        | .test f :: rest =>
            set rest
            pure f
        | .turn name :: rest =>
            set rest
            let f ← expression depth turnRank (some (.turn name))
            pure (Finding.not f)
        | .opens made :: rest =>
            match rest with
            | [] | .closes true :: _ =>
                throw ("invalid expression; expected to find a ')' but didn't see one. "
                  ++ "Perhaps you need an extra predicate after '('")
            | .closes _ :: _ =>
                if made then
                  throw ("invalid expression: expected expression before closing parentheses "
                    ++ "')'.")
                throw "invalid expression; empty parentheses are not allowed."
            | _ =>
                set rest
                let f ← expression depth 0 (some (.opens made))
                match ← get with
                | .closes _ :: rest =>
                    set rest
                    pure f
                | _ => throw ("invalid expression; I was expecting to find a ')' somewhere but "
                    ++ "did not see one.")
      behind (expression depth) rank (pieces.length + 1) f

/-- Whether a piece does something by itself. -/
def acts : FindPiece → Bool
  | .test f => f.acts
  | _ => false

/-- The expression that pieces make.  Names are shown behind it if it does nothing by itself. -/
def joined (pieces : List FindPiece) : Except String Finding :=
  let shown : FindPiece := .test (.print none "\n")
  let whole :=
    if pieces.isEmpty then [shown]
    else if pieces.any acts then withJoins pieces
    else .opens true :: withJoins pieces ++ [.closes true, .join 3 "-a", shown]
  match (expression (whole.length + 1) 0 none).run whole with
  | .error fault _ => .error fault
  | .ok f [] => .ok f
  | .ok _ (.closes _ :: _) => .error "you have too many ')'"
  | .ok _ _ => .error "unexpected extra predicate"

end FindPiece

/-- The expression that words make, and the options among them. -/
def readFinding (p : FindPlace) (words : List String) (o : FindOptions) :
    Except (String × FindOptions) (Finding × FindOptions) :=
  match (FindReader.pieces (words.length + 1) p).run { words := words, options := o } with
  | .error fault s => .error (fault, s.options)
  | .ok pieces s =>
      match FindPiece.joined pieces with
      | .error fault => .error (fault, s.options)
      | .ok f =>
          if f.deletes && f.prunes && !s.options.fromBelow then
            .error ("The -delete action automatically turns on -depth, but -prune does nothing "
              ++ "when -depth is in effect.  If you want to carry on anyway, just explicitly use "
              ++ "the -depth option.", s.options)
          else .ok (f, { s.options with fromBelow := s.options.fromBelow || f.deletes })

end ToyLang.Tools
