import ToyLang.Process.Program
import ToyLang.Shell.Pattern
import ToyLang.Text.Quoted
import ToyLang.Tools.FileFacts

/-!
# How files are listed

Terminals show names in the colors that the kinds of files and the endings of names have.

## Main definitions

* `ListColors` — the colors.
* `ListColors.of` — those that an environment asks for.
* `ListColors.code` — the color of a file.
* `ListStyle` — which files are listed, in what order, and what is shown of them.
* `ListStyle.take` — what an option changes about it.
* `listOptions` — the options of the programs that list files.
-/

namespace ToyLang.Tools

open Run Text

/-! ### Colors of names -/

/-- The codes of the colors by the marks of the kinds of files, and by endings of names. -/
structure ListColors where
  kinds : List (String × String)
  endings : List (String × String) := []

namespace ListColors

/-- The usual colors. -/
def usual : ListColors where
  kinds :=
    [("di", "01;34"), ("ln", "01;36"), ("pi", "33"), ("so", "01;35"), ("bd", "01;33"),
      ("cd", "01;33"), ("ex", "01;32"), ("su", "37;41"), ("sg", "30;43"), ("st", "37;44"),
      ("ow", "34;42"), ("tw", "30;42")]

/-- The terminals that are known to have colors. -/
def knownTerminals : List String :=
  ["Eterm", "ansi", "*color*", "con[0-9]*x[0-9]*", "cons25", "console", "cygwin", "*direct*",
    "dtterm", "gnome", "hurd", "jfbterm", "konsole", "kterm", "linux", "linux-c", "mlterm",
    "putty", "rxvt*", "screen*", "st", "terminator", "tmux*", "vt100", "xterm*"]

/-- Take up an entry: a kind or an ending, with its code. -/
def add (c : ListColors) (entry : String) : ListColors :=
  match entry.splitOn "=" with
  | [key, code] =>
      if key.startsWith "*" then
        { c with endings := (String.ofList (key.toList.drop 1), code) :: c.endings }
      else { c with kinds := (key, code) :: c.kinds }
  | _ => c

/-- The colors that an environment asks for, if there are any. -/
def of (environment : List (String × String)) : Option ListColors :=
  let value (name : String) : String := (environment.lookup name).getD ""
  let isKnown : Bool := knownTerminals.any fun t => (NamePattern.ofText false t).fits (value "TERM")
  if value "LS_COLORS" ≠ "" then some (((value "LS_COLORS").splitOn ":").foldl add usual)
  else if value "COLORTERM" ≠ "" || (value "TERM" ≠ "" && isKnown) then some usual
  else none

/-- The code of a kind, if it has one that shows. -/
def kind? (c : ListColors) (mark : String) : Option String :=
  (c.kinds.lookup mark).filter fun code => code ≠ "" && code ≠ "0" && code ≠ "00"

/-- The code for a folder. -/
def folderCode? (c : ListColors) (mode : Nat) : Option String :=
  let sticky := mode &&& 0o1000 ≠ 0
  let isOpen := mode &&& 0o002 ≠ 0
  (if sticky && isOpen then c.kind? "tw" else none)
    <|> (if isOpen then c.kind? "ow" else none)
    <|> (if sticky then c.kind? "st" else none)
    <|> c.kind? "di"

/-- The code for a file that holds bytes. -/
def fileCode? (c : ListColors) (mode : Nat) (name : String) : Option String :=
  (if mode &&& 0o4000 ≠ 0 then c.kind? "su" else none)
    <|> (if mode &&& 0o2000 ≠ 0 then c.kind? "sg" else none)
    <|> (if Program.mayExecute mode then c.kind? "ex" else none)
    <|> ((c.endings.find? fun entry => name.endsWith entry.1).map Prod.snd)
    <|> c.kind? "fi"

/-- The code for a file, given what a link leads to. -/
def code? (c : ListColors) (name : String) (n : Node) (target : Option Node) : Option String :=
  let plain (n : Node) : Option String :=
    match n.content with
    | .folder _ _ => c.folderCode? n.mode
    | .file _ => c.fileCode? n.mode name
    | .link _ => none
    | .device _ => match kindLetter n.content with
        | 'p' => c.kind? "pi"
        | 'b' => c.kind? "bd"
        | _ => c.kind? "cd"
  match n.content, target with
  | .link _, none => c.kind? "or" <|> (if c.kind? "ln" = some "target" then none else c.kind? "ln")
  | .link _, some target => if c.kind? "ln" = some "target" then plain target else c.kind? "ln"
  | _, _ => plain n

/-- The characters that begin a color. -/
def start (code : String) : String := "\x1b[" ++ code ++ "m"

/-- The characters that end a color. -/
def stop : String := "\x1b[0m"

end ListColors

/-! ### Styles -/

/-- Where names are put. -/
inductive ListFormat where
  /-- A line for each name. -/
  | single
  /-- A line for each name, with what is known about the file. -/
  | long
  /-- Columns that are filled one by one. -/
  | vertical
  /-- Columns that are filled line by line. -/
  | horizontal
  | commas
  deriving DecidableEq

/-- What decides about the order. -/
inductive ListOrder where
  | name
  | size
  | time
  | ending
  | version
  | width
  | none
  deriving DecidableEq

/-- Which links are followed. -/
inductive ListFollow where
  | never
  | operands
  /-- Operands that lead to folders. -/
  | folders
  | always
  deriving DecidableEq

/-- Which files get a mark behind their names. -/
inductive ListMarks where
  | none
  | folders
  /-- All but those that hold text. -/
  | kinds
  /-- Those that can be executed too. -/
  | all
  deriving DecidableEq

/-- Which names that begin with a dot are listed. -/
inductive ListDots where
  | none
  /-- All but the folder itself and the one above it. -/
  | almost
  | all
  deriving DecidableEq

/-- How files are listed. -/
structure ListStyle where
  format : Option ListFormat := Option.none
  order : Option ListOrder := Option.none
  reversed : Bool := false
  foldersFirst : Bool := false
  time : Option FileTime := Option.none
  dots : ListDots := .none
  /-- Patterns of names that are left out. -/
  leftOut : List String := []
  /-- Patterns of names that are left out unless those with dots are listed. -/
  hidden : List String := []
  follow : Option ListFollow := Option.none
  marks : ListMarks := .none
  names : Option NameStyle := Option.none
  masked : Bool := false
  recursive : Bool := false
  /-- Whether folders are listed, and not what is in them. -/
  asFiles : Bool := false
  numbers : Bool := false
  blocks : Bool := false
  blockSize : SizeStyle := { unit := 1024 }
  size : SizeStyle := {}
  owner : Bool := true
  group : Bool := true
  author : Bool := false
  context : Bool := false
  /-- Whether owners are shown as numbers. -/
  plainOwners : Bool := false
  /-- How times are shown, those that are recent last. -/
  times : String × String := ("%b %e  %Y", "%b %e %H:%M")
  /-- The width of lines; none means that they never end. -/
  width : Option Nat := some 80
  tab : Nat := 8
  colored : Bool := false
  stop : String := "\n"

namespace ListStyle

/-- Reading options, which may end the program. -/
abbrev Reading := ExceptT Nat Run

/-- The status of a program that cannot read its options. -/
def failure : Nat := 2

/-- What a word chooses. -/
def choose {α : Type} (name option word : String) (choices : List (List String × α)) :
    Reading α :=
  ExceptT.mk do
    match choice? choices word with
    | .ok a => return .ok a
    | .error isStart =>
        complainOfChoice name option word choices isStart
        return .error (← askForHelp name 1)

/-- Refuse an option. -/
def refuse {α : Type} (name text : String) : Reading α :=
  ExceptT.mk do
    blame name text
    return .error failure

/-- The words for orders. -/
def orders : List (List String × ListOrder) :=
  [(["none"], .none), (["time"], .time), (["size"], .size), (["extension"], .ending),
    (["version"], .version), (["width"], .width)]

/-- The words for points in time. -/
def points : List (List String × FileTime) :=
  [(["atime", "access", "use"], .used), (["ctime", "status"], .altered),
    (["mtime", "modification"], .changed), (["birth", "creation"], .changed)]

/-- The words for formats. -/
def formats : List (List String × ListFormat) :=
  [(["verbose", "long"], .long), (["commas"], .commas), (["horizontal", "across"], .horizontal),
    (["vertical"], .vertical), (["single-column"], .single)]

/-- The words for marks. -/
def markWords : List (List String × ListMarks) :=
  [(["none"], .none), (["slash"], .folders), (["file-type"], .kinds), (["classify"], .all)]

/-- The words that say whether something is done; no output is a terminal. -/
def whens : List (List String × Bool) :=
  [(["always", "yes", "force"], true), (["never", "no", "none"], false),
    (["auto", "tty", "if-tty"], false)]

/-- What is said of a style of times that there is not. -/
def timeStyleFault (word : String) (isStart : Bool) : String :=
  (if isStart then "ambiguous" else "invalid") ++ " argument " ++ mentioned word ++ " for "
    ++ mentioned "time style"

/-- The styles of times, as they are listed. -/
def timeStyleList : String :=
  "Valid arguments are:\n" ++ joinLines
    ["  - [posix-]full-iso", "  - [posix-]long-iso", "  - [posix-]iso", "  - [posix-]locale",
      "  - +FORMAT (e.g., +%H:%M) for a 'date'-style format"]

/-- How a style of times shows them. -/
def timesOf (name word : String) : Reading (String × String) := do
  match word.toList with
  | '+' :: cs =>
      match (String.ofList cs).splitOn "\n" with
      | [old, recent] => return (old, recent)
      | _ => return (String.ofList cs, String.ofList cs)
  | _ =>
      let word := if word.startsWith "posix-" then String.ofList (word.toList.drop 6) else word
      let both (format : String) : String × String := (format, format)
      let styles : List (List String × (String × String)) :=
        [(["full-iso"], both "%Y-%m-%d %H:%M:%S.%N %z"), (["long-iso"], both "%Y-%m-%d %H:%M"),
          (["iso"], ("%Y-%m-%d ", "%m-%d %H:%M")), (["locale"], ("%b %e  %Y", "%b %e %H:%M"))]
      ExceptT.mk do
        match choice? styles word with
        | .ok found => return .ok found
        | .error isStart =>
            blame name (timeStyleFault word isStart)
            complain timeStyleList
            return .error (← askForHelp name failure)

/-- A number of columns, in octal digits behind a zero. -/
def columns? (text : String) : Option Nat :=
  let cs := text.toList
  let isOctal (c : Char) : Bool := '0' ≤ c && c ≤ '7'
  if cs.isEmpty || !cs.all Char.isDigit then none
  else if cs.head? = some '0' then
    (if cs.all isOctal then some (Nat.ofDigitChars 8 cs 0) else none)
  else some (Nat.ofDigitChars 10 cs 0)

/-- Show sizes in a style, of files and of what they take. -/
def withSizes (s : ListStyle) (style : SizeStyle) : ListStyle :=
  { s with blockSize := style, size := style }

/-- The style after an option. -/
def take (name : String) (s : ListStyle) : Char × String → Reading ListStyle
  | (letter, word) =>
    let long (s : ListStyle) : ListStyle := { s with format := some .long }
    match letter with
    | 'a' => return { s with dots := .all }
    | 'A' => return { s with dots := .almost }
    | 'b' => return { s with names := some .escape }
    | 'B' => return { s with leftOut := "*~" :: ".*~" :: s.leftOut }
    | 'c' => return { s with time := some .altered }
    | 'C' => return { s with format := some .vertical }
    | 'd' => return { s with asFiles := true }
    | 'D' => return long s
    | 'f' =>
        return { s with
          dots := .all
          order := some .none
          blocks := false
          colored := false
          format := if s.format = some .long then Option.none else s.format }
    | 'F' => do
        let whenever ← if word = "" then pure true else choose name "--classify" word whens
        return if whenever then { s with marks := .all } else s
    | 'g' => return { long s with owner := false }
    | 'G' => return { s with group := false }
    | 'h' => return s.withSizes .binary
    | 'H' => return { s with follow := some .operands }
    | 'i' => return { s with numbers := true }
    | 'I' => return { s with leftOut := word :: s.leftOut }
    | 'k' => return { s with blockSize := { unit := 1024 } }
    | 'l' => return long s
    | 'L' => return { s with follow := some .always }
    | 'm' => return { s with format := some .commas }
    | 'n' => return { long s with plainOwners := true }
    | 'N' => return { s with names := some .literal }
    | 'o' => return { long s with group := false }
    | 'p' => return { s with marks := .folders }
    | 'q' => return { s with masked := true }
    | 'Q' => return { s with names := some .c }
    | 'r' => return { s with reversed := true }
    | 'R' => return { s with recursive := true }
    | 's' => return { s with blocks := true }
    | 'S' => return { s with order := some .size }
    | 't' => return { s with order := some .time }
    | 'T' => match columns? word with
        | some n => return { s with tab := n }
        | none => refuse name ("invalid tab size: " ++ mentioned word)
    | 'u' => return { s with time := some .used }
    | 'U' => return { s with order := some .none }
    | 'v' => return { s with order := some .version }
    | 'w' => match columns? word with
        | some 0 => return { s with width := Option.none }
        | some n => return { s with width := some n }
        | none => refuse name ("invalid line width: " ++ mentioned word)
    | 'x' => return { s with format := some .horizontal }
    | 'X' => return { s with order := some .ending }
    | 'Z' => return { s with context := true }
    | '1' => return if s.format = some .long then s else { s with format := some .single }
    | '2' => return { s with author := true }
    | '3' => match SizeStyle.read? word with
        | some style => return s.withSizes style
        | none => refuse name (sizeStyleFault "--block-size" word)
    | '4' => do
        let colored ← if word = "" then pure true else choose name "--color" word whens
        return { s with colored := colored }
    | '5' => return { s with follow := some .folders }
    | '6' => return { s with marks := .kinds }
    | '7' => return { s with format := some (← choose name "--format" word formats) }
    | '8' => return { long s with times := ← timesOf name "full-iso" }
    | '9' => return { s with foldersFirst := true }
    | '/' => return { s with hidden := word :: s.hidden }
    | '=' => return { s with marks := ← choose name "--indicator-style" word markWords }
    | '+' => return { s with names := some (← choose name "--quoting-style" word NameStyle.words) }
    | '-' => return { s with masked := false }
    | ':' => return s.withSizes .decimal
    | ';' => return { s with order := some (← choose name "--sort" word orders) }
    | '<' => return { s with time := some (← choose name "--time" word points) }
    | '>' => return { s with times := ← timesOf name word }
    | '0' =>
        return { s with
          stop := "\x00"
          masked := false
          colored := false
          names := some .literal
          format := if s.format = some .long then s.format else some .single }
    | _ => return s

/-- The format in the end. -/
def formatIn (s : ListStyle) : ListFormat := s.format.getD .single

/-- The order in the end: asking for another point in time asks for its order too, unless times
are shown. -/
def orderIn (s : ListStyle) : ListOrder :=
  s.order.getD (if s.time.isSome && s.formatIn ≠ .long then .time else .name)

/-- The point in time in the end. -/
def timeIn (s : ListStyle) : FileTime := s.time.getD .changed

/-- Which links are followed in the end. -/
def followIn (s : ListStyle) : ListFollow :=
  s.follow.getD
    (if s.asFiles || s.marks = .all || s.formatIn = .long then .never else .folders)

/-- The way to show names in the end. -/
def namesIn (s : ListStyle) : NameStyle := s.names.getD .literal

/-- Whether a name is left out. -/
def omits (s : ListStyle) (name : String) : Bool :=
  let isDotted := name.startsWith "."
  let fits (pattern : String) : Bool :=
    (!isDotted || pattern.startsWith ".") && (NamePattern.ofText false pattern).fits name
  (isDotted && s.dots = .none) || (s.dots = .none && s.hidden.any fits) || s.leftOut.any fits

/-- The characters that do not stand alone in names. -/
def marksWithin (s : ListStyle) : List Char :=
  (if s.namesIn = .escape then [' '] else []) ++
    match s.marks with
    | .all => ['*', '=', '>', '@', '|']
    | .kinds => ['=', '>', '@', '|']
    | _ => []

/-- A name, without marks and colors. -/
def shownName (s : ListStyle) (marks : List Char) (name : String) : String :=
  let shown := s.namesIn.shown marks name
  if s.masked && s.namesIn.isOpen then maskedText shown else shown

end ListStyle

/-- The options of the programs that list files. -/
def listOptions : OptionTable :=
  { flags := "abcdfghiklmnopqrstuvxABCDFGHLNQRSUXZ1", valued := "wIT"
    long := [("all", 'a', .none), ("escape", 'b', .none), ("directory", 'd', .none),
      ("dired", 'D', .none), ("full-time", '8', .none),
      ("group-directories-first", '9', .none), ("human-readable", 'h', .none),
      ("inode", 'i', .none), ("kibibytes", 'k', .none), ("numeric-uid-gid", 'n', .none),
      ("no-group", 'G', .none), ("hide-control-chars", 'q', .none), ("reverse", 'r', .none),
      ("size", 's', .none), ("width", 'w', .required), ("almost-all", 'A', .none),
      ("ignore-backups", 'B', .none), ("classify", 'F', .optional), ("file-type", '6', .none),
      ("si", ':', .none), ("dereference-command-line", 'H', .none),
      ("dereference-command-line-symlink-to-dir", '5', .none), ("hide", '/', .required),
      ("ignore", 'I', .required), ("indicator-style", '=', .required), ("dereference", 'L', .none),
      ("literal", 'N', .none), ("quote-name", 'Q', .none), ("quoting-style", '+', .required),
      ("recursive", 'R', .none), ("format", '7', .required), ("show-control-chars", '-', .none),
      ("sort", ';', .required), ("tabsize", 'T', .required), ("time", '<', .required),
      ("time-style", '>', .required), ("zero", '0', .none), ("color", '4', .optional),
      ("block-size", '3', .required), ("context", 'Z', .none), ("author", '2', .none)] }

end ToyLang.Tools
