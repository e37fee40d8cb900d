import ToyLang.Files.Access
import ToyLang.Format.Date
import ToyLang.Shell.Pattern
import ToyLang.Text.Regex
import ToyLang.Tools.FileFacts

/-!
# What can be asked about files

Tests of a file, and actions on it.  An action counts as a test too, so that both may be joined in
one expression.

## Main definitions

* `Finding` — tests and actions.
* `ShownPart` — what a format shows.
* `Visited` — a file that was reached on a walk.
-/

namespace ToyLang.Tools

/-- A part of a format. -/
inductive ShownPart where
  | text (s : String)
  /-- Nothing behind this place is shown. -/
  | stop
  | field (f : ShownFlags) (letter : Char)
  | time (f : ShownFlags) (which : FileTime) (letter : Char)

/-- Where an action writes to: the output, or a file by its place among those that are opened. -/
abbrev Sink := Option Nat

/-- How a command is run for the files that are found. -/
structure Running where
  words : List String
  /-- Whether it is run for many files at once. -/
  together : Bool := false
  /-- Whether it is run in the folder of the file. -/
  inFolder : Bool := false
  /-- Whether it is asked for first. -/
  asks : Bool := false
  deriving DecidableEq

/-- Tests of a file, and actions on it. -/
inductive Finding where
  | always (truth : Bool)
  /-- Whether a pattern matches the last name of a file, or the whole path. -/
  | name (whole : Bool) (pattern : NamePattern)
  /-- Whether a file is of some kind; `turned` says that links are followed where the walk does
  not do so, and the other way round. -/
  | kind (turned : Bool) (letters : List Char)
  /-- Whether a file has a mode; what is asked for differs between folders and other files. -/
  | mode (sign : Option Char) (bits folderBits : Nat)
  | size (sign : Option Char) (count unit : Nat)
  | empty
  /-- Whether a point in time of a file lies behind another one. -/
  | newer (which : FileTime) (time : Int)
  /-- Whether a point in time lies behind one, and not behind another one. -/
  | within (which : FileTime) (above most : Option Int)
  | links (sign : Option Char) (count : Nat)
  | number (sign : Option Char) (count : Nat)
  | owner (forGroup : Bool) (sign : Option Char) (count : Nat)
  | same (number : Nat)
  /-- Whether a link leads to what a pattern matches. -/
  | linked (pattern : NamePattern)
  /-- Whether an expression matches the whole path. -/
  | regex (fold : Bool) (r : Text.Regex)
  | executable
  | print (sink : Sink) (stop : String)
  | printf (sink : Sink) (format : List ShownPart)
  /-- Show a file as a long listing does. -/
  | list (sink : Sink)
  | exec (r : Running)
  | delete
  | prune
  | quit
  | not (t : Finding)
  | both (a b : Finding)
  | either (a b : Finding)
  | sequence (a b : Finding)

/-- Whether a test does something by itself, so that names need not be shown. -/
def Finding.acts : Finding → Bool
  | .print _ _ | .printf _ _ | .list _ | .exec _ | .delete | .quit => true
  | .not t => t.acts
  | .both a b | .either a b | .sequence a b => a.acts || b.acts
  | _ => false

/-- Whether a test contains one of some kind. -/
def Finding.has (p : Finding → Bool) : Finding → Bool
  | .not t => t.has p
  | .both a b | .either a b | .sequence a b => a.has p || b.has p
  | f => p f

/-- Whether a test removes files. -/
def Finding.deletes (f : Finding) : Bool :=
  f.has fun
    | .delete => true
    | _ => false

/-- Whether a test keeps the walk out of folders. -/
def Finding.prunes (f : Finding) : Bool :=
  f.has fun
    | .prune => true
    | _ => false

/-- Compare a number with what is asked for. -/
def asAsked (sign : Option Char) (asked found : Nat) : Bool :=
  match sign with
  | some '+' => asked < found
  | some '-' => found < asked
  | _ => found = asked

/-! ### Showing a file -/

/-- A file that was reached on a walk. -/
structure Visited where
  path : String
  start : String
  number : Nat
  depth : Nat
  /-- Whether links are followed at this place. -/
  follow : Bool := false
  /-- The folders that lead here, the nearest first. -/
  above : List (Nat × String) := []

/-- The letter for the kind of a node in a search. -/
def foundKind (c : Content) : Char :=
  match kindLetter c with
  | '-' => 'f'
  | letter => letter

/-- The last name of a path, with the slashes behind it. -/
def lastNameOf (path : String) : String :=
  let cs := path.toList.reverse
  let slashes := cs.takeWhile (· = '/')
  let name := (cs.drop slashes.length).takeWhile (· ≠ '/')
  String.ofList (name.reverse ++ slashes)

/-- How the time of a file is shown in full. -/
def wholeTime : String := "%a %b %e %H:%M:%S.%N0 %Y"

/-- What a letter in a format stands for, as a text. -/
def Visited.fieldText (v : Visited) (t : FileTree) (letter : Char) : String :=
  let n := t.node v.number
  let time (which : FileTime) : String := (Format.Moment.ofNanoseconds (which.of n)).text wholeTime
  match letter with
  | 'p' => v.path
  | 'f' => lastNameOf v.path
  | 'h' =>
      let cs := v.path.toList.reverse
      let cs := if v.depth = 0 ∧ cs.dropWhile (· = '/') = [] then [] else
        ((cs.dropWhile (· = '/')).dropWhile (· ≠ '/')).drop 1
      if cs.isEmpty then (if v.path.startsWith "/" then "" else ".") else String.ofList cs.reverse
  | 'H' => v.start
  | 'P' => String.ofList ((v.path.toList.drop v.start.length).dropWhile (· = '/'))
  | 's' => toString (sizeOf n.content)
  | 'M' => modeColumn n
  | 'y' => String.singleton (foundKind n.content)
  | 'l' => match n.content with
      | .link target => target
      | _ => ""
  | 'u' => Owner.shown false n.owner
  | 'g' => Owner.shown true n.group
  | 'U' => toString n.owner
  | 'G' => toString n.group
  | 'n' => toString (linkCount t v.number)
  | 'i' => toString (v.number + 1)
  | 'k' => toString (storedUnits n.content)
  | 'b' => toString (2 * storedUnits n.content)
  | 'S' => "1"
  | 'D' => "65024"
  | 'F' => "overlay"
  | 't' => time .changed
  | 'a' => time .used
  | 'c' => time .altered
  | _ => ""

/-- The letter for the kind of what a file leads to. -/
def Visited.ledKind (v : Visited) (t : FileTree) (folder : Nat) : Char :=
  match t.content v.number with
  | .link _ => match t.locate folder v.path with
      | .ok number => foundKind (t.content number)
      | .error .tooManyLinks => 'L'
      | .error .noEntry | .error .notDirectory => 'N'
      | .error _ => '?'
  | c => foundKind c

/-- The format of a single letter for a point in time; what has seconds in it shows their
fractions. -/
def timeFormat : Char → String
  | '@' => "%s.%N0"
  | 'S' => "%S.%N0"
  | 'T' | 'X' => "%T.%N0"
  | '+' => "%F+%T.%N0"
  | c => String.ofList ['%', c]

/-- The text of a format, for a file that was reached from a folder. -/
def Visited.text (v : Visited) (t : FileTree) (folder : Nat) : List ShownPart → String
  | [] | .stop :: _ => ""
  | .text s :: parts => s ++ v.text t folder parts
  | .field f 'd' :: parts =>
      let front := if '+' ∈ f.letters then "+" else if ' ' ∈ f.letters then " " else ""
      f.digits front (toString v.depth) ++ v.text t folder parts
  | .field f 'm' :: parts =>
      let front := if '#' ∈ f.letters then "0" else ""
      f.digits front (Mode.octal (t.node v.number).mode) ++ v.text t folder parts
  | .field f 'Y' :: parts =>
      f.text (String.singleton (v.ledKind t folder)) ++ v.text t folder parts
  | .field f letter :: parts => f.text (v.fieldText t letter) ++ v.text t folder parts
  | .time f which letter :: parts =>
      f.text ((Format.Moment.ofNanoseconds (which.of (t.node v.number))).text (timeFormat letter))
        ++ v.text t folder parts

/-- A name as a long listing shows it: what could be misread is spelled out. -/
def spelledName (name : String) : String :=
  let shown (c : Char) : List Char :=
    match c with
    | '\\' => ['\\', '\\']
    | '"' => ['\\', '"']
    | ' ' => ['\\', ' ']
    | '\n' => ['\\', 'n']
    | '\t' => ['\\', 't']
    | '\r' => ['\\', 'r']
    | c =>
        if c.toNat = 8 then ['\\', 'b']
        else if c.toNat = 12 then ['\\', 'f']
        else if c.toNat < 0x20 ∨ 0x7F ≤ c.toNat then
          '\\' :: Format.filledUp '0' 3 (Nat.toDigits 8 c.toNat)
        else [c]
  String.ofList (name.toList.flatMap shown)

/-- The line for a file in a long listing. -/
def Visited.line (v : Visited) (t : FileTree) : String :=
  let n := t.node v.number
  let target := match n.content with
    | .link target => " -> " ++ spelledName target
    | _ => ""
  padLeft 9 (toString (v.number + 1)) ++ " " ++ padLeft 6 (toString (storedUnits n.content)) ++ " "
    ++ modeColumn n ++ " " ++ padLeft 3 (toString (linkCount t v.number)) ++ " "
    ++ padRight 8 (Owner.shown false n.owner) ++ " " ++ padRight 8 (Owner.shown true n.group) ++ " "
    ++ padLeft 8 (toString (sizeOf n.content)) ++ " " ++ shownTime t n ++ " "
    ++ spelledName v.path ++ target ++ "\n"

end ToyLang.Tools
