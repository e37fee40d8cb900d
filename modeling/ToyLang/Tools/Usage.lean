import ToyLang.Format.Date
import ToyLang.Shell.Pattern
import ToyLang.Tools.FileFacts

/-!
# How much files take

The sizes of files are summed up, folder by folder.

## Main definitions

* `Usage` — how files are measured and shown.
* `measure` — the size of a file and of all below it.
* `du` — the program.
-/

namespace ToyLang.Tools

open Run Text

/-- How files are measured and shown. -/
structure Usage where
  /-- Whether all files are shown, and not just folders. -/
  all : Bool
  /-- Whether sizes are those of what files hold, and not of where it is stored. -/
  apparent : Bool
  /-- Whether files are counted, and not their sizes. -/
  counts : Bool
  separate : Bool
  /-- Whether a file counts again under each of its names. -/
  allNames : Bool
  /-- Whether a file that was met before is left out even if it has one name. -/
  distinct : Bool
  follow : Bool
  deepest : Option Nat
  least : Option Int
  leftOut : NameFilter
  style : SizeStyle
  time : Bool
  stop : String

/-- What has been measured so far. -/
structure Measured where
  lines : List String := []
  /-- The files that were met. -/
  seen : List Nat := []
  faults : List String := []

/-- A size with the time of the last change. -/
structure Measure where
  size : Nat := 0
  time : Int := 0

/-- Two measures together. -/
def Measure.add (a b : Measure) : Measure := ⟨a.size + b.size, max a.time b.time⟩

namespace Usage

/-- The measure of a node by itself. -/
def ofNode (u : Usage) (n : Node) : Measure :=
  { size := if u.counts then 1 else if u.apparent then sizeOf n.content
      else 1024 * storedUnits n.content
    time := n.time }

/-- The line for a file. -/
def line (u : Usage) (m : Measure) (path : String) : String :=
  let size := if u.counts then toString m.size else u.style.text m.size
  let time := if u.time then (Format.Moment.ofNanoseconds m.time).text "%Y-%m-%d %H:%M" ++ "\t"
    else ""
  size ++ "\t" ++ time ++ path ++ u.stop

/-- Whether a size passes the threshold. -/
def passes (u : Usage) (size : Nat) : Bool :=
  match u.least with
  | some n => if n < 0 then decide ((size : Int) ≤ -n) else decide (n ≤ size)
  | none => true

/-- Whether a file is left out. -/
def omits (u : Usage) (path : String) : Bool := !u.leftOut.isEmpty && u.leftOut.excludes true path

end Usage

/-- The measure of a file and of all below it; `limit` bounds how deep folders lie. -/
def measure (u : Usage) (t : FileTree) (folder : Nat) :
    (limit : Nat) → (depth number : Nat) → (path : String) → StateM Measured (Option Measure)
  | 0, _, _, _ => return none
  | limit + 1, depth, number, path => do
      let n := t.node number
      let isFolder := t.isFolder number
      let counted := u.distinct || (!isFolder && 1 < linkCount t number)
      if u.omits path then return none
      if counted && !u.allNames && (← get).seen.contains number then return none
      modify fun s => { s with seen := number :: s.seen }
      let mut own := u.ofNode n
      let mut whole := own
      for (name, _) in (t.entries number).reverse do
        let below := Path.join path name
        match t.locate folder below u.follow with
        | .error e =>
            modify fun s =>
              { s with faults := s.faults ++ ["cannot access " ++ quoted below ++ ": " ++ e.reason] }
        | .ok inner =>
            match ← measure u t folder limit (depth + 1) inner below with
            | none => pure ()
            | some m =>
                whole := whole.add m
                if !t.isFolder inner then own := own.add m
      let shown := if u.separate then own else whole
      let deep := match u.deepest with
        | some n => decide (depth ≤ n)
        | none => true
      if (depth = 0 || (deep && (u.all || isFolder))) && u.passes shown.size then
        modify fun s => { s with lines := s.lines ++ [u.line shown path] }
      return some whole

/-- What options of `du` ask for, or what is wrong with them. -/
def usageOf (g : Given) (patterns : List String) : Except (String × Bool) Usage := do
  let deepest ← match g.value? 'd' with
    | none => pure none
    | some text => match text.toNat? with
        | some n => pure (some n)
        | none => throw ("invalid maximum depth " ++ mentioned text, true)
  let least ← match g.value? 't' with
    | none => pure none
    | some text =>
        let (sign, cs) := match text.toList with
          | '-' :: cs => (-1, cs)
          | cs => (1, cs)
        match sizeOf? (String.ofList cs) with
        | some n => pure (some (sign * (n : Int)))
        | none => throw ("invalid -t argument " ++ quoted text, false)
  let sized := g.options.filter fun o => o.1 ∈ ['b', 'h', 'H', 'k', 'm', 'B']
  let style ← match sized.getLast? with
    | some ('b', _) => pure { unit := 1 }
    | some ('h', _) => pure SizeStyle.binary
    | some ('H', _) => pure .decimal
    | some ('m', _) => pure { unit := twoTo 20 }
    | some ('B', text) => match SizeStyle.read? text with
        | some style => pure style
        | none => throw (sizeStyleFault "-B" text, false)
    | _ => pure { unit := 1024 }
  if g.has 'a' && g.has 's' then throw ("cannot both summarize and show all entries", true)
  return {
    all := g.has 'a', apparent := g.has 'b' || g.has 'A', counts := g.has 'i'
    separate := g.has 'S', allNames := g.has 'l'
    distinct := 1 < g.operands.length || g.has 'L'
    follow := g.has 'L'
    deepest := if g.has 's' then some 0 else deepest
    least := least
    leftOut := patterns.map fun p => (false, p)
    style := style
    time := g.has 'T'
    stop := if g.has '0' then "\x00" else "\n" }

/-- Show how much files take. -/
def du : Tool := fun name arguments =>
  withOptions name
    { flags := "abchkmsxlLSDHP0", valued := "dBtX"
      long := [("all", 'a', .none), ("apparent-size", 'A', .none), ("bytes", 'b', .none),
        ("block-size", 'B', .required), ("total", 'c', .none), ("dereference", 'L', .none),
        ("dereference-args", 'D', .none), ("exclude", 'e', .required),
        ("exclude-from", 'X', .required), ("human-readable", 'h', .none), ("inodes", 'i', .none),
        ("count-links", 'l', .none), ("max-depth", 'd', .required), ("null", '0', .none),
        ("no-dereference", 'P', .none), ("one-file-system", 'x', .none),
        ("separate-dirs", 'S', .none), ("si", 'H', .none), ("summarize", 's', .none),
        ("threshold", 't', .required), ("time", 'T', .optional)] }
    arguments fun g => do
      let mut patterns := g.values 'e'
      for file in g.values 'X' do
        match ← readInput file with
        | .ok text => patterns := patterns ++ linesOf text
        | .error e => return ← misused name (quotedIfNeeded file ++ ": " ++ e.reason)
      match usageOf g patterns with
      | .error (text, asks) =>
          if asks then return ← misused name text
          blame name text
          return 1
      | .ok u =>
          match g.has 's', g.value? 'd' with
          | true, some "0" =>
              blame name "warning: summarizing is the same as using --max-depth=0"
          | true, some depth =>
              return ← misused name ("warning: summarizing conflicts with --max-depth=" ++ depth)
          | _, _ => pure ()
          let t ← tree
          let folder := (← process).folder
          let mut status := 0
          let mut state : Measured := {}
          let mut total : Measure := {}
          for path in (if g.operands.isEmpty then ["."] else g.operands) do
            if path = "" then
              blame name "invalid zero-length file name"
              status := 1
            else
              match t.locate folder path (u.follow || g.has 'D') with
              | .error e =>
                  blame name ("cannot access " ++ quoted path ++ ": " ++ e.reason)
                  status := 1
              | .ok number =>
                  let (found, after) :=
                    (measure u t folder (t.nodes.size + 1) 0 number path).run
                      { state with lines := [], faults := [] }
                  put (String.join after.lines)
                  for fault in after.faults do
                    blame name fault
                    status := 1
                  state := after
                  total := total.add (found.getD {})
          if g.has 'c' then put (u.line total "total")
          return status

end ToyLang.Tools
