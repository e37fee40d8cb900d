import ToyLang.Process.Machine

/-!
# Programs

A program is a file that may be executed.  Its first bytes say what it is: an image of a program
of the system, or a script, whose first line names the program that runs it.

## Main definitions

* `Program.image` — the file of a program of the system.
* `Program.load` — what a file is as a program.
* `Program.lookUp` — the file that the name of a program leads to.
-/

namespace ToyLang.Program

open Run

/-- The first bytes of an image. -/
def imageMark : String :=
  "\x7fELF\x02\x01\x01\x00\x00\x00\x00\x00\x00\x00\x00\x00\x03\x00\x3e\x00\x01\x00\x00\x00\xc0\xf5"

/-- The file of a program of the system. -/
def image (kind : String) : ByteArray := Text.bytesOfRaw (imageMark ++ kind)

/-- The program of the system whose image a text is. -/
def kindOf? (text : List Char) : Option String :=
  if imageMark.toList.isPrefixOf text then
    some (String.ofList (text.drop imageMark.length))
  else none

/-- The bytes of a script that are looked at. -/
def headSize : Nat := 256

/-- Whether a character is a blank in the first line of a script. -/
def isBlank (c : Char) : Bool := c = ' ' || c = '\t'

/-- Drop blanks at the end. -/
def dropLastBlanks (cs : List Char) : List Char := (cs.reverse.dropWhile isBlank).reverse

/-- The program that a script names in its first line, and what follows it there.  A line that is
cut off must at least name the program as a whole. -/
def interpreter? (text : List Char) : Option (String × Option String) :=
  match text.take headSize with
  | '#' :: '!' :: head =>
      let line := head.takeWhile fun c => c ≠ '\n' && c ≠ '\x00'
      let complete := (head.drop line.length).head? = some '\n'
      let line := if complete then dropLastBlanks line else line
      let names := line.dropWhile isBlank
      let name := names.takeWhile fun c => !isBlank c
      let rest := (names.drop name.length).dropWhile isBlank
      let cut := !complete && head.length + 2 = headSize && name.length = names.length
      if name.isEmpty || cut then none
      else some (String.ofList name, if rest.isEmpty then none else some (String.ofList rest))
  | _ => none

/-- Whether a mode lets anyone execute a file. -/
def mayExecute (mode : Nat) : Bool := mode &&& 0o111 ≠ 0

/-- The start of the executable file at a path. -/
def executable (path : String) : Run (Except FileError (List Char)) := do
  let t ← tree
  match t.locate (← process).folder path with
  | .error e => return .error e
  | .ok number =>
      match t.content number with
      | .file bytes =>
          if mayExecute (t.node number).mode then
            return .ok (Text.rawOfBytes (bytes.extract 0 headSize)).toList
          return .error .permissionDenied
      | _ => return .error .permissionDenied

/-- How many scripts may be named one by the other. -/
def deepest : Nat := 6

/-- What the file at a path is as a program: its kind, and the arguments that it gets. -/
def loadWithin : (depth : Nat) → (path : String) → List String →
    Run (Except FileError (String × List String))
  | 0, _, _ => return .error .tooManyLinks
  | depth + 1, path, arguments => do
      match ← executable path with
      | .error e => return .error e
      | .ok text =>
          match kindOf? text with
          | some kind => return .ok (kind, arguments)
          | none =>
              match interpreter? text with
              | none => return .error .badFormat
              | some (name, extra) =>
                  loadWithin depth name (name :: extra.toList ++ path :: arguments.drop 1)

/-- What the file at a path is as a program, with its own name in front of its arguments. -/
def load (path : String) (arguments : List String) :
    Run (Except FileError (String × List String)) :=
  loadWithin deepest path arguments

/-- The folders in which programs are looked up, unless the environment names others. -/
def usualFolders : String := "/usr/local/sbin:/usr/local/bin:/usr/sbin:/usr/bin:/sbin:/bin"

/-- Look a name up in folders.  A file that is there and cannot be executed is passed over,
but remembered as the reason if none is found. -/
def lookUpIn (name : String) (denied : Bool) : List String → Run (Except FileError String)
  | [] => return .error (if denied then .permissionDenied else .noEntry)
  | folder :: folders => do
      let path := if folder = "" then name else Path.join folder name
      match ← executable path with
      | .ok _ => return .ok path
      | .error .noEntry | .error .notDirectory => lookUpIn name denied folders
      | .error .permissionDenied => lookUpIn name true folders
      | .error e => return .error e

/-- The path of the file that the name of a program leads to. -/
def lookUp (name folders : String) : Run (Except FileError String) := do
  if name.contains '/' then return .ok name
  if name = "" then return .error .noEntry
  if Path.longestName < name.length then return .error .nameTooLong
  lookUpIn name false (folders.splitOn ":")

end ToyLang.Program
