/-!
# File trees

What is stored: nodes, which have numbers, and names for them in folders.  A file may have
several names, a link stands for a path, and a device stores nothing.

A path is written as names with slashes between them.  One that begins with a slash starts at
the root, and every other one in the folder that is worked in.

Why a file cannot be read, written, changed or started is one of a few errors, with the wording of
the operating system.

## Main definitions

* `FileError` — why a file cannot be used as it is asked for.
* `Path.names` — the names of a written path.
* `Path.base`, `Path.parent` — the last name of a path and what comes before it.
* `Path.join` — a name below a folder.
* `Node`, `FileTree` — what is stored.
* `FileTree.find` — what a path leads to.
* `FileTree.setContent`, `FileTree.bind`, `FileTree.unbind` — changes.
* `FileTree.makeFolder`, `FileTree.makeLink`, `FileTree.makeName` — new names at a path.
* `FileTree.removeName`, `FileTree.removeFolder` — fewer of them.
* `FileTree.move` — a name in place of another one.
-/

namespace ToyLang

/-! ### Errors -/

/-- Why a file cannot be used as it is asked for. -/
inductive FileError where
  | notPermitted
  | noEntry
  | noDevice
  | badFormat
  | badStream
  | permissionDenied
  | alreadyThere
  | notDirectory
  | isDirectory
  | invalid
  | noSpace
  | illegalSeek
  | brokenPipe
  | nameTooLong
  | notEmpty
  | tooManyLinks
  | busy
  | tooLarge
  | unsupported
  | notText
  deriving DecidableEq, Repr

/-- What went wrong, in words. -/
def FileError.reason : FileError → String
  | notPermitted => "Operation not permitted"
  | noEntry => "No such file or directory"
  | noDevice => "No such device or address"
  | badFormat => "Exec format error"
  | badStream => "Bad file descriptor"
  | permissionDenied => "Permission denied"
  | alreadyThere => "File exists"
  | notDirectory => "Not a directory"
  | isDirectory => "Is a directory"
  | invalid => "Invalid argument"
  | noSpace => "No space left on device"
  | illegalSeek => "Illegal seek"
  | brokenPipe => "Broken pipe"
  | nameTooLong => "File name too long"
  | notEmpty => "Directory not empty"
  | tooManyLinks => "Too many levels of symbolic links"
  | busy => "Device or resource busy"
  | tooLarge => "File too large"
  | unsupported => "Operation not supported"
  | notText => "stream did not contain valid UTF-8"

/-- The number that the operating system gives to an error; one is not of its making. -/
def FileError.number? : FileError → Option Nat
  | notPermitted => some 1
  | noEntry => some 2
  | noDevice => some 6
  | badFormat => some 8
  | badStream => some 9
  | permissionDenied => some 13
  | alreadyThere => some 17
  | notDirectory => some 20
  | isDirectory => some 21
  | invalid => some 22
  | noSpace => some 28
  | illegalSeek => some 29
  | brokenPipe => some 32
  | nameTooLong => some 36
  | notEmpty => some 39
  | tooManyLinks => some 40
  | busy => some 16
  | tooLarge => some 27
  | unsupported => some 95
  | notText => none

/-- The wording of a file error; an error of the operating system carries its number. -/
def FileError.message (e : FileError) : String :=
  match e.number? with
  | some n => e.reason ++ " (os error " ++ toString n ++ ")"
  | none => e.reason

end ToyLang

namespace ToyLang.Path

/-- The longest name, in bytes, that a file can have. -/
def longestName : Nat := 255

/-- The number of bytes from which on a path is refused. -/
def limit : Nat := 4096

/-- The names among some characters, given those of the first name so far, the last one first. -/
def namesAmong (begun : List Char) : List Char → List String
  | [] => [String.ofList begun.reverse]
  | c :: cs =>
      if c = '/' then String.ofList begun.reverse :: namesAmong [] cs
      else namesAmong (c :: begun) cs

/-- The names of a path as it is written; a leading slash gives an empty first name. -/
def names (path : String) : List String := namesAmong [] path.toList

/-- Whether a path starts at the root. -/
def isAbsolute (path : String) : Bool := path.toList.head? = some '/'

/-- Drop the slashes at the end of a path, except for the root itself. -/
def trimSlashes (path : String) : String :=
  let cs := (path.toList.reverse.dropWhile (· = '/')).reverse
  if cs.isEmpty && path.startsWith "/" then "/" else String.ofList cs

/-- The last name of a path. -/
def base (path : String) : String :=
  let path := trimSlashes path
  if path = "/" then "/" else ((names path).getLast?).getD ""

/-- What comes before the last name of a path. -/
def parent (path : String) : String :=
  let cs := (trimSlashes path).toList.reverse.dropWhile (· ≠ '/')
  if cs.isEmpty then "."
  else
    let above := (cs.dropWhile (· = '/')).reverse
    if above.isEmpty then "/" else String.ofList above

/-- A name below a folder. -/
def join (folder name : String) : String :=
  if folder.endsWith "/" then folder ++ name else folder ++ "/" ++ name

/-- The path with `.` and `..` resolved by their spelling alone, from a folder whose path is
absolute. -/
def normalize (folder path : String) : String :=
  let all := names (if isAbsolute path then path else folder ++ "/" ++ path)
  let kept := all.foldl (fun kept name =>
    if name = "" ∨ name = "." then kept
    else if name = ".." then kept.dropLast
    else kept ++ [name]) ([] : List String)
  "/" ++ "/".intercalate kept

end ToyLang.Path

namespace ToyLang

/-- A file that stores nothing by itself. -/
inductive Device where
  /-- Keeps nothing and holds nothing. -/
  | null
  /-- Keeps nothing and holds zero bytes without end. -/
  | zero
  /-- Has no room, and holds zero bytes without end. -/
  | full
  /-- Stands for a stream of the process that opens it. -/
  | stream (number : Nat)
  /-- Stands for a pipe, which processes find by its name. -/
  | pipe (number : Nat)
  /-- Is not there, although it has a name. -/
  | absent
  /-- Has numbers that no host part answers to. -/
  | numbered (block : Bool) (major minor : Nat)
  deriving DecidableEq, Repr

/-- What a node of the tree holds. -/
inductive Content where
  | file (bytes : ByteArray)
  | folder (parent : Nat) (entries : List (String × Nat))
  | link (target : String)
  | device (d : Device)
  deriving Inhabited

/-- A node of the tree: what it holds, what may be done with it, and some points in time, in
nanoseconds since the start of 1970. -/
structure Node where
  content : Content
  mode : Nat
  /-- When the content was changed. -/
  time : Int
  /-- When the content was used. -/
  used : Int
  /-- When anything about the node was changed. -/
  altered : Int
  /-- The numbers of the user and of the group that own the node. -/
  owner : Nat := 0
  group : Nat := 0
  deriving Inhabited

/-- A node that is made at a time. -/
def Node.made (c : Content) (mode : Nat) (now : Int) : Node :=
  { content := c, mode := mode, time := now, used := now, altered := now }

/-- A tree of files; node zero is its root. -/
structure FileTree where
  nodes : Array Node
  /-- The time at which changes are made. -/
  now : Int

/-- What a path leads to. -/
inductive Found where
  /-- A node; unless the path ends in dots or slashes, the folder and the name that bind it. -/
  | node (number : Nat) (place : Option (Nat × String))
  /-- Nothing yet, inside a folder that exists; the flag says that a slash ends the path. -/
  | vacant (folder : Nat) (name : String) (slash : Bool)

namespace FileTree

/-- The number of the root. -/
def root : Nat := 0

/-- A node by its number. -/
def node (t : FileTree) (number : Nat) : Node := t.nodes.getD number default

/-- What a node holds. -/
def content (t : FileTree) (number : Nat) : Content := (t.node number).content

/-- The names in a folder with the nodes that they are bound to. -/
def entries (t : FileTree) (folder : Nat) : List (String × Nat) :=
  match t.content folder with
  | .folder _ entries => entries
  | _ => []

/-- The folder above a folder. -/
def above (t : FileTree) (folder : Nat) : Nat :=
  match t.content folder with
  | .folder parent _ => parent
  | _ => root

/-- Whether a node is a folder. -/
def isFolder (t : FileTree) (number : Nat) : Bool :=
  match t.content number with
  | .folder _ _ => true
  | _ => false

/-- The links that a path may lead through. -/
def linkLimit : Nat := 40

/-- Follow names from a folder.  A link at the end is followed if `last` says so. -/
def walk (t : FileTree) (last : Bool) (links : Nat) (folder : Nat) :
    List String → Except FileError Found
  | [] => .ok (.node folder none)
  | name :: names =>
      if name = "" ∨ name = "." then t.walk last links folder names
      else if name = ".." then t.walk last links (t.above folder) names
      else if Path.longestName < name.length then .error .nameTooLong
      else match (t.entries folder).lookup name with
        | none =>
            if names.all (· = "") then .ok (.vacant folder name (!names.isEmpty))
            else .error .noEntry
        | some number =>
            match t.content number with
            | .folder _ _ =>
                if names.isEmpty then .ok (.node number (some (folder, name)))
                else t.walk last links number names
            | .link target =>
                if names.isEmpty && !last then .ok (.node number (some (folder, name)))
                else match links with
                  | 0 => .error .tooManyLinks
                  | links + 1 =>
                      match Path.names target with
                      | "" :: below => t.walk last links root (below ++ names)
                      | below => t.walk last links folder (below ++ names)
            | _ =>
                if names.isEmpty then .ok (.node number (some (folder, name)))
                else .error .notDirectory
termination_by names => (links, names.length)

/-- What a written path leads to from a folder.  A link at its end is followed if `last` says
so. -/
def find (t : FileTree) (folder : Nat) (path : String) (last : Bool := true) :
    Except FileError Found :=
  if path = "" then .error .noEntry
  else if Path.limit ≤ path.length then .error .nameTooLong
  else match Path.names path with
    | "" :: names => t.walk last linkLimit root names
    | names => t.walk last linkLimit folder names

/-- The node that a written path leads to. -/
def locate (t : FileTree) (folder : Nat) (path : String) (last : Bool := true) :
    Except FileError Nat := do
  match ← t.find folder path last with
  | .node number _ => pure number
  | .vacant _ _ _ => throw .noEntry

/-! ### Changes -/

/-- Give a node another content. -/
def setContent (t : FileTree) (number : Nat) (c : Content) : FileTree :=
  { t with nodes := t.nodes.modify number fun n =>
    { n with content := c, time := t.now, altered := t.now } }

/-- Take everything out of a folder, as if it had never been there. -/
def emptied (t : FileTree) (folder : Nat) : FileTree :=
  { t with nodes := t.nodes.modify folder fun n =>
    { n with content := .folder (t.above folder) [] } }

/-- Change what is known about a node. -/
def alter (t : FileTree) (number : Nat) (f : Node → Node) : FileTree :=
  { t with nodes := t.nodes.modify number fun n => { f n with altered := t.now } }

/-- Give a node another mode. -/
def setMode (t : FileTree) (number mode : Nat) : FileTree :=
  t.alter number fun n => { n with mode := mode }

/-- Add a node, which no name is bound to yet. -/
def allocate (t : FileTree) (c : Content) (mode : Nat) : Nat × FileTree :=
  (t.nodes.size, { t with nodes := t.nodes.push (.made c mode t.now) })

/-- Bind a name in a folder to a node. -/
def bind (t : FileTree) (folder : Nat) (name : String) (number : Nat) : FileTree :=
  match t.content folder with
  | .folder parent entries =>
      t.setContent folder
        (.folder parent ((name, number) :: entries.filter fun entry => entry.1 ≠ name))
  | _ => t

/-- Take a name out of a folder. -/
def unbind (t : FileTree) (folder : Nat) (name : String) : FileTree :=
  match t.content folder with
  | .folder parent entries =>
      t.setContent folder (.folder parent (entries.filter fun entry => entry.1 ≠ name))
  | _ => t

/-- Add a node under a name in a folder. -/
def add (t : FileTree) (folder : Nat) (name : String) (c : Content) (mode : Nat) : Nat × FileTree :=
  let (number, t) := t.allocate c mode
  (number, t.bind folder name number)

/-- The mode of a folder that is made with nothing said about it. -/
def folderMode : Nat := 0o755

/-- Make the folders that a list of names leads through, as far as they are not there, and give
the last of them. -/
def addFolders (t : FileTree) (folder : Nat) : List String → Nat × FileTree
  | [] => (folder, t)
  | name :: names =>
      if name = "" ∨ name = "." then t.addFolders folder names
      else if name = ".." then t.addFolders (t.above folder) names
      else match (t.entries folder).lookup name with
        | some number => t.addFolders number names
        | none =>
            let (number, t) := t.add folder name (.folder folder []) folderMode
            t.addFolders number names

/-- Put a node at a path from a folder, making the folders on the way. -/
def place (t : FileTree) (folder : Nat) (path : String) (c : Content) (mode : Nat) : FileTree :=
  let names := Path.names path
  let (folder, t) := t.addFolders (if Path.isAbsolute path then root else folder) names.dropLast
  (t.add folder (names.getLast?.getD "") c mode).2

/-- A tree that holds nothing but its root, at a time. -/
def empty (now : Int) : FileTree := ⟨#[.made (.folder root []) folderMode now], now⟩

/-! ### Looking -/

/-- The names in a folder, sorted by their bytes. -/
def listing (t : FileTree) (folder : Nat) : List String :=
  ((t.entries folder).map Prod.fst).mergeSort fun a b => decide (a ≤ b)

/-- The path of a folder, found by the folders above it; `depth` bounds how many there are. -/
def pathWithin (t : FileTree) : (depth : Nat) → (folder : Nat) → List String
  | 0, _ => []
  | depth + 1, folder =>
      if folder = root then []
      else
        let parent := t.above folder
        match (t.entries parent).find? fun entry => entry.2 = folder with
        | some (name, _) => t.pathWithin depth parent ++ [name]
        | none => []

/-- The path of a folder. -/
def pathOf (t : FileTree) (folder : Nat) : String :=
  "/" ++ "/".intercalate (t.pathWithin t.nodes.size folder)

/-- The number of names that are bound to a node. -/
def nameCount (t : FileTree) (number : Nat) : Nat :=
  t.nodes.foldl (fun n node => match node.content with
    | .folder _ entries => n + (entries.filter fun entry => entry.2 = number).length
    | _ => n) 0

/-! ### Changes at a path -/

/-- What a path leads to if slashes at its end are passed over; a link there is not followed. -/
def findItself (t : FileTree) (folder : Nat) (path : String) : Except FileError Found :=
  t.find folder (Path.trimSlashes path) false

/-- The place at which a path binds a name, or would: the folder, the name, and the node. -/
def placeOf (t : FileTree) (folder : Nat) (path : String) :
    Except FileError (Nat × String × Option Nat) := do
  match ← t.findItself folder path with
  | .node number (some (parent, name)) => pure (parent, name, some number)
  | .node _ none => throw .alreadyThere
  | .vacant parent name _ => pure (parent, name, none)

/-- Make a folder. -/
def makeFolder (t : FileTree) (folder : Nat) (path : String) (mode : Nat) :
    Except FileError FileTree := do
  match ← t.placeOf folder path with
  | (parent, name, none) => pure (t.add parent name (.folder parent []) mode).2
  | (_, _, some _) => throw .alreadyThere

/-- The mode that every link has. -/
def linkMode : Nat := 0o777

/-- Make a link to a path. -/
def makeLink (t : FileTree) (folder : Nat) (target path : String) : Except FileError FileTree := do
  if target = "" then throw .noEntry
  match ← t.find folder path false with
  | .vacant parent name false => pure (t.add parent name (.link target) linkMode).2
  | .vacant _ _ true => throw .noEntry
  | .node _ _ => throw .alreadyThere

/-- Make a device. -/
def makeDevice (t : FileTree) (folder : Nat) (d : Device) (path : String) (mode : Nat) :
    Except FileError FileTree := do
  match ← t.find folder path false with
  | .vacant parent name false => pure (t.add parent name (.device d) mode).2
  | .vacant _ _ true => throw .noEntry
  | .node _ _ => throw .alreadyThere

/-- Bind a further name to a node. -/
def makeName (t : FileTree) (folder : Nat) (number : Nat) (path : String) :
    Except FileError FileTree := do
  if t.isFolder number then throw .notPermitted
  match ← t.find folder path false with
  | .vacant parent name false => pure (t.bind parent name number)
  | .vacant _ _ true => throw .noEntry
  | .node _ _ => throw .alreadyThere

/-- Take away a name of what is not a folder. -/
def removeName (t : FileTree) (folder : Nat) (path : String) : Except FileError FileTree := do
  match ← t.find folder path false with
  | .vacant _ _ _ => throw .noEntry
  | .node number place? =>
      if t.isFolder number then throw .isDirectory
      match place? with
      | some (parent, name) => pure (t.unbind parent name)
      | none => throw .notDirectory

/-- Take away a folder that holds nothing. -/
def removeFolder (t : FileTree) (folder : Nat) (path : String) : Except FileError FileTree := do
  if Path.base path = "." then throw .invalid
  match ← t.findItself folder path with
  | .vacant _ _ _ => throw .noEntry
  | .node number place? =>
      if !t.isFolder number then throw .notDirectory
      if !(t.entries number).isEmpty then throw .notEmpty
      match place? with
      | some (parent, name) => pure (t.unbind parent name)
      | none => throw .notEmpty

/-- Whether a folder lies in another one, or is it; `depth` bounds how many lie around it. -/
def isBelow (t : FileTree) (upper : Nat) : (depth : Nat) → (folder : Nat) → Bool
  | 0, _ => false
  | depth + 1, folder =>
      folder = upper || (folder ≠ root && t.isBelow upper depth (t.above folder))

/-- Give a folder another folder to lie in. -/
def setAbove (t : FileTree) (number parent : Nat) : FileTree :=
  match t.content number with
  | .folder _ entries => t.setContent number (.folder parent entries)
  | _ => t

/-- Let a name take the place of another one. -/
def move (t : FileTree) (folder : Nat) (path target : String) : Except FileError FileTree := do
  match ← t.placeOf folder path with
  | (_, _, none) => throw .noEntry
  | (parent, name, some number) =>
      let isFolder := t.isFolder number
      if path.endsWith "/" ∧ !isFolder then throw .notDirectory
      let (newParent, newName, old?) ← t.placeOf folder target
      if isFolder ∧ t.isBelow number t.nodes.size newParent then throw .invalid
      if target.endsWith "/" ∧ !isFolder then throw .notDirectory
      match old? with
      | none => pure ()
      | some old =>
          if t.isFolder old ∧ !isFolder then throw .isDirectory
          if isFolder ∧ !t.isFolder old then throw .notDirectory
          if old ≠ number ∧ isFolder ∧ !(t.entries old).isEmpty then throw .notEmpty
      if old? = some number then pure t
      else pure (((t.unbind parent name).bind newParent newName number).setAbove number newParent)

end FileTree

end ToyLang
