import ToyLang.Files.Access
import ToyLang.Shell.Builtin.Variable

/-!
# Commands on the folder that is worked in

## Main definitions

* `cdCommand`, `pwdCommand` — going to a folder, and where one is.
* `pushdCommand`, `popdCommand`, `dirsCommand` — folders put aside.
* `umaskCommand`, `ulimitCommand` — what new files and processes do not get.
-/

namespace ToyLang.Shell

open Run

/-! ### Going to a folder -/

/-- Go to the folder at a path. -/
def enter (path : String) : Run (Except FileError Unit) := do
  match (← tree).locate (← process).folder path with
  | .error e => return .error e
  | .ok number =>
      if !(← tree).isFolder number then return .error .notDirectory
      modifyProcess fun p => { p with folder := number }
      return .ok ()

/-- Keep in mind where the shell is and where it was. -/
def noteFolder (path : String) : Run Unit := do
  let old := (← shell).path
  modifyShell fun sh => { sh with path := path }
  assign "OLDPWD" old
  exportVariable "OLDPWD"
  assign "PWD" path
  exportVariable "PWD"

/-- Go to a folder: the path is taken by its spelling, or by the folders themselves. -/
def goTo (path : String) (physical : Bool) : Run (Except FileError Unit) := do
  if physical then
    match ← enter path with
    | .error e => return .error e
    | .ok () =>
        noteFolder ((← tree).pathOf (← process).folder)
        return .ok ()
  let new := Path.normalize (← shell).path path
  match ← enter new with
  | .ok () =>
      noteFolder new
      return .ok ()
  | .error e =>
      if (← shell).dialect = .plain then return .error e
      match ← enter path with
      | .ok () =>
          noteFolder ((← tree).pathOf (← process).folder)
          return .ok ()
      | .error e => return .error e

/-- The first folder of a search path that holds a folder with a name; the flag says that it was
named. -/
def findFolder (name : String) : List String → Run (Option (String × Bool))
  | [] => return none
  | folder :: folders => do
      let path := if folder = "" then name else Path.join folder name
      match (← tree).locate (← process).folder path with
      | .ok number =>
          if (← tree).isFolder number then return some (path, folder ≠ "")
          findFolder name folders
      | .error _ => findFolder name folders

/-- Go to a folder. -/
def cdCommand (arguments : List String) : Run Nat := do
  let extended := (← shell).dialect = .extended
  match takeLetters (if extended then ['L', 'P', 'e'] else ['L', 'P']) arguments with
  | .error c => refuseOption "cd" c
  | .ok (letters, operands) =>
      let chosen := (letters.filter fun c => c = 'L' || c = 'P').getLast?
      let physical := chosen = some 'P' || (chosen.isNone && extended && (← hasOption 'P'))
      if extended ∧ 1 < operands.length then return ← refuse "cd" "too many arguments"
      let (target?, shown) ← match operands.head? with
        | none => do pure (← lookup? "HOME", false)
        | some "-" => do pure (← lookup? "OLDPWD", true)
        | some path => pure (some path, false)
      if extended ∧ target?.isNone then
        return ← refuse "cd" (if shown then "OLDPWD not set" else "HOME not set")
      let target := target?.getD ""
      let direct := target.startsWith "/"
        || ((Path.names target).head?).any fun name => name = "." || name = ".."
      let searched : Option (String × Bool) ←
        if direct then pure none
        else match ← lookup? "CDPATH" with
          | some folders => findFolder target (folders.splitOn ":")
          | none => pure none
      let (path, named) := searched.getD (if target = "" then "." else target, false)
      match ← goTo path physical with
      | .ok () =>
          if shown || named then put ((← shell).path ++ "\n")
          return 0
      | .error e =>
          if extended then refuse "cd" (target ++ ": " ++ e.reason)
          else refuse "cd" ("can't cd to " ++ target)

/-- Show the folder that is worked in. -/
def pwdCommand (arguments : List String) : Run Nat := do
  match takeLetters ['L', 'P'] arguments with
  | .error c => refuseOption "pwd" c
  | .ok (letters, _) =>
      if letters.getLast? = some 'P' then
        put ((← tree).pathOf (← process).folder ++ "\n")
      else put ((← shell).path ++ "\n")
      return 0

/-! ### Folders put aside -/

/-- A path with a tilde for the home folder at its start. -/
def briefPath (home path : String) : String :=
  if home ≠ "" ∧ (path = home ∨ path.startsWith (home ++ "/")) then
    "~" ++ String.ofList (path.toList.drop home.length)
  else path

/-- What the arguments of a command on folders put aside say. -/
structure StackArguments where
  letters : List Char := []
  /-- A place among the folders, as it is written: whether it is counted from the end, and the
  number. -/
  place : Option (Bool × Nat) := none
  operand : Option String := none

/-- Take the arguments of a command on folders put aside; a refusal has the wording. -/
def takeStack (known : List Char) : List String → StackArguments → Except String StackArguments
  | [], o => .ok o
  | argument :: rest, o =>
      match argument.toList with
      | ['-', '-'] => .ok { o with operand := rest.head? }
      | ['-'] => .ok { o with operand := some "-" }
      | sign :: c :: cs =>
          if sign ≠ '-' ∧ sign ≠ '+' then .ok { o with operand := some argument }
          else if (c :: cs).all Char.isDigit then
            takeStack known rest { o with place := some (sign = '-', numberOf 10 (c :: cs)) }
          else if sign = '-' ∧ (c :: cs).all known.contains then
            takeStack known rest { o with letters := o.letters ++ (c :: cs) }
          else .error (argument ++ ": invalid number")
      | _ => .ok { o with operand := some argument }

/-- Refuse the arguments of a command on folders put aside. -/
def refuseStack (name text : String) : Run Nat := do
  discard (refuse name text)
  showUsage name

/-- The folders put aside, with the present one in front. -/
def folderStack : Run (List String) := do
  let sh ← shell
  return sh.path :: sh.folders

/-- The place among the folders that is meant. -/
def stackPlace? (stack : List String) : Bool × Nat → Option Nat
  | (fromEnd, n) =>
      if stack.length ≤ n then none
      else some (if fromEnd then stack.length - 1 - n else n)

/-- The folder for which a tilde stands in paths, if there is to be one. -/
def homeFor (long : Bool) : Run String := do
  if long then return ""
  return (← lookup? "HOME").getD ""

/-- Show the folders that were put aside. -/
def showFolders (long : Bool) : Run Unit := do
  let home ← homeFor long
  put (" ".intercalate ((← folderStack).map (briefPath home)) ++ "\n")

/-- Say that a place among the folders is not there. -/
def refusePlace (name shown : String) : Run Nat := do
  if (← shell).folders.isEmpty then return ← refuse name "directory stack empty"
  refuse name (shown ++ ": directory stack index out of range")

/-- How a place is written. -/
def writtenPlace : Bool × Nat → String
  | (fromEnd, n) => (if fromEnd then "-" else "+") ++ toString n

/-- Show or forget the folders that were put aside. -/
def dirsCommand (arguments : List String) : Run Nat := do
  match takeStack ['c', 'l', 'p', 'v'] arguments {} with
  | .error text => refuseStack "dirs" text
  | .ok o =>
      if let some text := o.operand then return ← refuseStack "dirs" (text ++ ": invalid option")
      let has (c : Char) : Bool := o.letters.contains c
      if has 'c' then
        modifyShell fun sh => { sh with folders := [] }
        return 0
      let home ← homeFor (has 'l')
      let stack := (← folderStack).map (briefPath home)
      match o.place with
      | some place =>
          match stackPlace? stack place with
          | some i =>
              put (stack.getD i "" ++ "\n")
              return 0
          | none => refusePlace "dirs" (toString place.2)
      | none =>
          if has 'v' then
            for (path, i) in stack.zipIdx do
              let n := toString i
              put (String.ofList (List.replicate (2 - n.length) ' ') ++ n ++ "  " ++ path ++ "\n")
          else if has 'p' then
            for path in stack do
              put (path ++ "\n")
          else put (" ".intercalate stack ++ "\n")
          return 0

/-- Make the folder at the front of a list the present one, and put the others aside. -/
def goToFirst (name : String) (stack : List String) : Run Nat := do
  match stack with
  | [] => return 0
  | path :: rest =>
      match ← goTo path false with
      | .ok () =>
          modifyShell fun sh => { sh with folders := rest }
          showFolders false
          return 0
      | .error e => refuse name (path ++ ": " ++ e.reason)

/-- Go to a folder, and put the present one aside. -/
def pushdCommand (arguments : List String) : Run Nat := do
  if 1 < (arguments.filter fun a => !a.startsWith "-" && !a.startsWith "+").length then
    return ← refuse "pushd" "too many arguments"
  match takeStack ['n'] arguments {} with
  | .error text => refuseStack "pushd" text
  | .ok o =>
      let stack ← folderStack
      match o.place, o.operand with
      | some place, _ =>
          match stackPlace? stack place with
          | none => refusePlace "pushd" (writtenPlace place)
          | some i => goToFirst "pushd" (stack.drop i ++ stack.take i)
      | none, none =>
          match stack with
          | first :: second :: rest => goToFirst "pushd" (second :: first :: rest)
          | _ => refuse "pushd" "no other directory"
      | none, some path =>
          if o.letters.contains 'n' then
            modifyShell fun sh => { sh with folders := path :: sh.folders }
            showFolders false
            return 0
          match ← goTo path false with
          | .ok () =>
              modifyShell fun sh => { sh with folders := stack }
              showFolders false
              return 0
          | .error e => refuse "pushd" (path ++ ": " ++ e.reason)

/-- Go back to the folder that was put aside last, or forget one. -/
def popdCommand (arguments : List String) : Run Nat := do
  match takeStack ['n'] arguments {} with
  | .error text => refuseStack "popd" text
  | .ok o =>
      if let some text := o.operand then
        return ← refuseStack "popd" (text ++ ": invalid argument")
      let stack ← folderStack
      if stack.length ≤ 1 then return ← refuse "popd" "directory stack empty"
      let place := o.place.getD (false, if o.letters.contains 'n' then 1 else 0)
      match stackPlace? stack place with
      | none => refusePlace "popd" (writtenPlace place)
      | some 0 => goToFirst "popd" (stack.drop 1)
      | some i =>
          modifyShell fun sh => { sh with folders := sh.folders.eraseIdx (i - 1) }
          showFolders false
          return 0

/-! ### Limits -/

/-- A number in octal digits, filled up with zeros. -/
def octalText (width n : Nat) : String :=
  let digits := Nat.toDigits 8 n
  String.ofList (List.replicate (width - digits.length) '0' ++ digits)

/-- The letters of what a mask leaves, for a class. -/
def leftLetters (n : Nat) : String :=
  (if n / 4 % 2 = 1 then "r" else "") ++ (if n / 2 % 2 = 1 then "w" else "")
    ++ (if n % 2 = 1 then "x" else "")

/-- What is wrong with a mode in letters, in the extended dialect. -/
def symbolicTrouble (text : String) : String :=
  let rest := text.toList.dropWhile fun c => "ugoa".toList.contains c
  let sign := rest.headD ' '
  if "+-=".toList.contains sign then
    let bad := (rest.drop 1).find? fun c => !"rwxXstugo,".toList.contains c
    "\x60" ++ String.singleton (bad.getD ' ') ++ "': invalid symbolic mode character"
  else "\x60" ++ String.singleton sign ++ "': invalid symbolic mode operator"

/-- Show or set the bits of a mode that new files do not get. -/
def umaskCommand (arguments : List String) : Run Nat := do
  let extended := (← shell).dialect = .extended
  match takeLetters (if extended then ['S', 'p'] else ['S']) arguments with
  | .error c => refuseOption "umask" c
  | .ok (letters, operands) =>
      let mask := (← process).mask
      match operands.head? with
      | none =>
          let left := 0o777 - mask
          if letters.contains 'S' then
            put ((if letters.contains 'p' then "umask -S " else "") ++ "u=" ++ leftLetters (left / 0o100) ++ ",g=" ++ leftLetters (left / 0o10 % 8)
              ++ ",o=" ++ leftLetters (left % 8) ++ "\n")
          else put ((if letters.contains 'p' then "umask " else "") ++ octalText 4 mask ++ "\n")
          return 0
      | some text =>
          match text.toList.head? with
          | some c =>
              if c.isDigit then
                let n := Nat.ofDigitChars 8 text.toList 0
                if text.toList.all Mode.isOctal ∧ (!extended ∨ n ≤ 0o777) then
                  modifyProcess fun p => { p with mask := n % 0o1000 }
                  return 0
                if extended then refuse "umask" (text ++ ": octal number out of range")
                else refuse "umask" ("Illegal number: " ++ text)
              else
                match Mode.ofText? text 0 false (0o777 - mask) with
                | some left =>
                    modifyProcess fun p => { p with mask := 0o777 - left % 0o1000 }
                    return 0
                | none =>
                    if extended then refuse "umask" (symbolicTrouble text)
                    else refuse "umask" ("Illegal mode: " ++ text)
          | none => return 0

/-- Show the limits of processes, none of which is in force. -/
def ulimitCommand (arguments : List String) : Run Nat := do
  match takeLetters "SHacdefilmnpqrstuvxT".toList (arguments.filter fun a => a.startsWith "-") with
  | .error c => refuseOption "ulimit" c
  | .ok (letters, _) =>
      if (arguments.filter fun a => !a.startsWith "-").isEmpty then
        put (if letters.contains 'c' then "0\n" else "unlimited\n")
      return 0

end ToyLang.Shell
