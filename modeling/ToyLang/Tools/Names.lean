import ToyLang.Format.Print
import ToyLang.Shell.Builtin.CountedTest
import ToyLang.Tools.Basic

/-!
# Programs on texts and names

Programs that show their arguments, or parts of them, or say whether something holds.  A name of a
file may be too long for a host, or hold characters that some hosts do not take.

## Main definitions

* `echo`, `printf`, `testTool` — arguments and conditions.
* `basename`, `dirname` — the parts of paths.
* `pwd` — the folder that is worked in.
* `PortableRules` — what is asked of names.
* `nameFault?` — what is wrong with a name.
* `pathchk` — names that work everywhere.
-/

namespace ToyLang.Tools

open Run Text

/-! ### Arguments -/

/-- Show the arguments with blanks between them. -/
def echo : Tool := fun _ arguments => do
  let isOption (argument : String) : Bool := match argument.toList with
    | '-' :: c :: cs => (c :: cs).all ['n', 'e', 'E'].contains
    | _ => false
  let options := arguments.takeWhile isOption
  let letters := options.flatMap String.toList
  let escapes := (letters.filter ['e', 'E'].contains).getLast? = some 'e'
  let text := " ".intercalate (arguments.drop options.length)
  let u := if escapes then Format.unescape .programEcho text else { text := text.toList }
  put (String.ofList u.text ++ if letters.contains 'n' || u.stopped then "" else "\n")
  return 0

/-- How the program prints: only the conversions for numbers have all flags. -/
def printStyle : Format.PrintStyle where
  formats := .programFormat
  arguments := .programArgument
  notNumeric s := mentioned s ++ ": expected a numeric value"
  halfNumeric s := mentioned s ++ ": value not completely converted"
  outOfRange s := mentioned s ++ ": Numerical result out of range"
  beyondQuoted := some fun s =>
    "warning: " ++ s ++ ": character(s) following character constant have been ignored"
  badDirective s := s ++ ": invalid conversion specification"
  cutDirective s := s ++ ": invalid conversion specification"
  flags := ['#', '-', '+', ' ', '0', '\'', 'I']
  sizes := ['l', 'h', 'L', 'j', 'z', 't']
  quote := some fun _ text => Text.quotedForShell text
  quotesMissing := false
  dates := false
  floats := .extended
  bytes := false
  loneQuotes := false
  allows c :=
    let without (flag : Char) (letters : String) : Bool :=
      !(c.has flag && letters.contains c.letter)
    if c.letter = 'b' ∨ c.letter = 'q' then
      c.flags.isEmpty && c.width = 0 && c.precision.isNone
    else c.letter ≠ 'Q' && without '\'' "aAceEosxX" && without '#' "cdisu" && without '0' "cs"
      && without 'I' "aAcoxXs" && !(c.letter = 'c' && c.precision.isSome)

/-- Show arguments in a format. -/
def printf : Tool := fun name arguments => do
  let arguments := if arguments.head? = some "--" then arguments.drop 1 else arguments
  match arguments with
  | [] => missingOperand name []
  | format :: rest =>
      let p := Format.print printStyle format rest
      let mut written := 0
      for (before, text) in p.complaints do
        put (String.ofList ((p.text.take before).drop written))
        written := before
        blame name text
      put (String.ofList (p.text.drop written))
      let status ← match p.failure, p.asked || p.stopped, rest with
        | some text, _, _ => do
            blame name text
            pure 1
        | none, false, extra :: _ => do
            blame name ("warning: ignoring excess arguments, starting with " ++ mentioned extra)
            pure 0
        | none, _, _ => pure (if p.failed then 1 else 0)
      return status

/-- Say by the status whether a condition holds. -/
def testTool (bracket : Bool) : Tool := fun name arguments => do
  if bracket ∧ arguments.getLast? ≠ some "]" then
    blame name ("missing " ++ mentioned "]")
    return 2
  match ← Shell.countedTest .program (if bracket then arguments.dropLast else arguments) with
  | .ok truth => return if truth then 0 else 1
  | .error text =>
      blame name text
      return 2

/-- Do nothing, with a status. -/
def idle (status : Nat) : Tool := fun _ _ => return status

/-! ### Parts of paths -/

/-- A name without an ending, unless that is all of it. -/
def withoutEnding (name ending : String) : String :=
  if name ≠ ending ∧ name.endsWith ending then
    String.ofList (name.toList.take (name.length - ending.length))
  else name

/-- Show the last names of paths. -/
def basename : Tool := fun name arguments =>
  withOptions name
    { flags := "az", valued := "s", inOrder := true
      long := [("multiple", 'a', .none), ("suffix", 's', .required), ("zero", 'z', .none)] }
    arguments fun g => do
      let stop := if g.has 'z' then "\x00" else "\n"
      let show_ (path ending : String) : Run Unit :=
        put (withoutEnding (Path.base path) ending ++ stop)
      if g.operands.isEmpty then return ← missingOperand name []
      if g.has 'a' ∨ g.has 's' then
        for path in g.operands do
          show_ path ((g.value? 's').getD "")
        return 0
      match g.operands with
      | [path] => show_ path ""
      | [path, ending] => show_ path ending
      | _ :: _ :: extra :: _ => return ← extraOperand name extra
      | [] => pure ()
      return 0

/-- Show what comes before the last names of paths. -/
def dirname : Tool := fun name arguments =>
  withOptions name { flags := "z", long := [("zero", 'z', .none)] } arguments fun g => do
    if g.operands.isEmpty then return ← missingOperand name []
    for path in g.operands do
      put (Path.parent path ++ if g.has 'z' then "\x00" else "\n")
    return 0

/-! ### The folder at hand -/

/-- Show the folder that is worked in. -/
def pwd : Tool := fun name arguments =>
  withOptions name { flags := "LP", long := [("logical", 'L', .none), ("physical", 'P', .none)] }
    arguments fun g => do
      if !g.operands.isEmpty then blame name "ignoring non-option arguments"
      let t ← tree
      let p ← process
      let physical := t.pathOf p.folder
      let logical := match p.environment.lookup "PWD" with
        | some path =>
            match t.locate p.folder path with
            | .ok number => if number = p.folder && Path.isAbsolute path then path else physical
            | .error _ => physical
        | none => physical
      put ((if g.last? ['L', 'P'] = some 'L' then logical else physical) ++ "\n")
      return 0

/-! ### Names that work everywhere -/

/-- What is asked of names. -/
structure PortableRules where
  /-- Whether a name has to work on any host. -/
  anywhere : Bool
  /-- Whether a name must not be empty, and no part of it may begin with a minus. -/
  strict : Bool

/-- The characters that all hosts take in names. -/
def isPortableChar (c : Char) : Bool := c.isAlphanum || c ∈ ['/', '.', '_', '-']

/-- The longest path, and the longest name, that all hosts take. -/
def portablePath : Nat := 255

/-- The longest name in a folder that all hosts take. -/
def portableName : Nat := 14

/-- The characters of a limit that is exceeded. -/
def exceeded (limit length : Nat) (what shown : String) : String :=
  "limit " ++ toString limit ++ " exceeded by length " ++ toString length ++ " of file name "
    ++ what ++ shown

/-- The first part of a path that is longer than a limit. -/
def longPart? (limit : Nat) (path : String) : Option String :=
  ((path.splitOn "/").find? fun part => decide (limit < part.length)).map fun part =>
    exceeded limit part.length "component " (mentioned part)

/-- What is wrong with a name.  `found` tells what became of looking for it. -/
def nameFault? (r : PortableRules) (found : Except FileError Unit) (path : String) :
    Option String := do
  let begins := (path.splitOn "/").any fun part => part.startsWith "-"
  if r.strict ∧ begins then
    some ("leading '-' in a component of file name " ++ quoted path)
  else if (r.anywhere || r.strict) && path = "" then some "empty file name"
  else if r.anywhere then
    match (widen path).toList.find? fun c => !isPortableChar c with
    | some c =>
        some ("nonportable character " ++ mentioned (String.ofList (narrowChar c))
          ++ " in file name " ++ quoted path)
    | none =>
        if portablePath < path.length then
          some (exceeded portablePath path.length "" (quoted path))
        else longPart? portableName path
  else match found with
    | .ok () => none
    | .error .noEntry =>
        if path = "" then some (quotedIfNeeded path ++ ": " ++ FileError.noEntry.reason)
        else longPart? Path.longestName path
    | .error e => some (quotedIfNeeded path ++ ": " ++ e.reason)

/-- Tell which names do not work everywhere. -/
def pathchk : Tool := fun name arguments =>
  withOptions name
    { flags := "pP", long := [("portability", '/', .none)] }
    arguments fun g => do
      if g.operands.isEmpty then return ← missingOperand name []
      let r : PortableRules :=
        { anywhere := g.has 'p' || g.has '/', strict := g.has 'P' || g.has '/' }
      let mut status := 0
      for path in g.operands do
        let found := (← locatePath path false).map fun _ => ()
        match nameFault? r found path with
        | some fault =>
            blame name fault
            status := 1
        | none => pure ()
      return status

end ToyLang.Tools
