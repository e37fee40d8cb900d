import ToyLang.Text.Version
import ToyLang.Tools.ListStyle
import ToyLang.Tools.Basic

/-!
# Programs that list files

## Main definitions

* `Listed` — a file in a list.
* `ListStyle.lines` — the text of a list.
* `ls`, `dir`, `vdir` — the programs.
-/

namespace ToyLang.Tools

open Run Text

/-- A file in a list. -/
structure Listed where
  name : String
  path : String
  /-- The node, unless what a link leads to should be listed and is not there. -/
  number : Option Nat
  /-- What a link leads to. -/
  target : Option Nat := none

/-- What a list is made with. -/
structure Lister where
  style : ListStyle
  tree : FileTree
  folder : Nat
  colors : Option ListColors

namespace Lister

/-- The node of a file. -/
def node? (l : Lister) (e : Listed) : Option Node := e.number.map l.tree.node

/-- Whether a file is a folder. -/
def isFolder (l : Lister) (e : Listed) : Bool := e.number.any l.tree.isFolder

/-- Whether a file is a folder, or a link to one. -/
def leadsToFolder (l : Lister) (e : Listed) : Bool :=
  l.isFolder e || e.target.any l.tree.isFolder

/-- The units of 1024 bytes that a file takes. -/
def unitsOf (l : Lister) (e : Listed) : Nat :=
  ((l.node? e).map fun n => storedUnits n.content).getD 0

/-! ### Order -/

/-- The ending of a name. -/
def endingOf (name : String) : String :=
  let tail := name.toList.reverse.takeWhile (· ≠ '.')
  if tail.length = name.length then "" else String.ofList ('.' :: tail.reverse)

/-- A name as it is shown, without marks and colors. -/
def nameText (l : Lister) (e : Listed) : String := l.style.shownName l.style.marksWithin e.name

/-- Compare two files by what decides about the order. -/
def compare (l : Lister) (a b : Listed) : Ordering :=
  let byName := Ord.compare a.name b.name
  let size (e : Listed) : Nat := ((l.node? e).map fun n => sizeOf n.content).getD 0
  let time (e : Listed) : Int := ((l.node? e).map l.style.timeIn.of).getD 0
  match l.style.orderIn with
  | .size => (Ord.compare (size b) (size a)).then byName
  | .time => (Ord.compare (time b) (time a)).then byName
  | .ending => (Ord.compare (endingOf a.name) (endingOf b.name)).then byName
  | .version => (compareVersions a.name.toList b.name.toList).then byName
  | .width => (Ord.compare (textWidth (l.nameText a)) (textWidth (l.nameText b))).then byName
  | .name | .none => byName

/-- Put files in order. -/
def ordered (l : Lister) (entries : List Listed) : List Listed :=
  if l.style.orderIn = .none then entries
  else
    let sorted := entries.mergeSort fun a b =>
      (if l.style.reversed then l.compare b a else l.compare a b) ≠ .gt
    if l.style.foldersFirst then
      sorted.filter l.leadsToFolder ++ sorted.filter fun e => !l.leadsToFolder e
    else sorted

/-! ### Names -/

/-- The mark for the kind of a node. -/
def kindMark (l : Lister) (n : Node) : String :=
  let kinds := l.style.marks = .kinds || l.style.marks = .all
  match kindLetter n.content with
  | 'd' => if l.style.marks = .none then "" else "/"
  | 'l' => if kinds then "@" else ""
  | 'p' => if kinds then "|" else ""
  | '-' => if l.style.marks = .all && Program.mayExecute n.mode then "*" else ""
  | _ => ""

/-- The mark behind the name of a file. -/
def markOf (l : Lister) (e : Listed) : String :=
  match l.node? e with
  | some n => l.kindMark n
  | none => if l.style.marks = .kinds || l.style.marks = .all then "@" else ""

/-- Whether names without quotes have to stand in line with those in quotes. -/
def isAligned (l : Lister) : Bool :=
  l.style.namesIn.varies && match l.style.formatIn with
    | .long => true
    | .vertical | .horizontal => l.style.width.isSome
    | _ => false

/-- A name with a blank in front if others have quotes there; `some quoted` tells that. -/
def alignedName (l : Lister) (quoted : Bool) (e : Listed) : String :=
  let text := l.nameText e
  if quoted && l.isAligned && text = e.name then " " ++ text else text

/-- Whether any of some names is shown in quotes. -/
def hasQuoted (l : Lister) (entries : List Listed) : Bool :=
  l.isAligned && entries.any fun e => l.nameText e ≠ e.name

/-- A name in its color. -/
def coloredName (l : Lister) (quoted : Bool) (e : Listed) : String :=
  let text := l.alignedName quoted e
  match l.colors, l.node? e with
  | some colors, some n =>
      match colors.code? e.name n (e.target.map l.tree.node) with
      | some code =>
          let bare := l.nameText e
          let long := match l.style.width, l.style.formatIn with
            | some width, .single => decide (width < textWidth text)
            | _, _ => false
          String.ofList (List.replicate (text.length - bare.length) ' ') ++ ListColors.start code
            ++ bare ++ ListColors.stop ++ (if long then "\x1b[K" else "")
      | none => text
  | _, _ => text

/-! ### What stands in front of names -/

/-- The widths of the columns in front of names. -/
structure Widths where
  number : Nat
  blocks : Nat

/-- The text for the units that a file takes. -/
def blocksText (l : Lister) (e : Listed) : String :=
  if e.number.isNone then "?" else l.style.blockSize.text (1024 * l.unitsOf e)

/-- The number of a file. -/
def numberText (e : Listed) : String :=
  match e.number with
  | some n => toString (n + 1)
  | none => "?"

/-- The widest of some texts. -/
def widest (texts : List String) : Nat := (texts.map String.length).foldl max 0

/-- The widths of the columns in front of names. -/
def widths (l : Lister) (entries : List Listed) : Widths :=
  if l.style.formatIn = .commas then ⟨0, 0⟩
  else ⟨widest (entries.map numberText), widest (entries.map l.blocksText)⟩

/-- What stands in front of a name outside of long lists. -/
def front (l : Lister) (w : Widths) (e : Listed) : String :=
  (if l.style.numbers then padLeft w.number (numberText e) ++ " " else "")
    ++ (if l.style.blocks then padLeft w.blocks (l.blocksText e) ++ " " else "")

/-- A cell of a list: its text, and the columns that it takes. -/
def cell (l : Lister) (w : Widths) (quoted : Bool) (e : Listed) : String × Nat :=
  let front := l.front w e ++ (if l.style.context then "? " else "")
  let mark := l.markOf e
  (front ++ l.coloredName quoted e ++ mark,
    front.length + textWidth (l.alignedName quoted e) + mark.length)

/-! ### Columns -/

/-- The least width of a column. -/
def leastWidth : Nat := 3

/-- The gap between columns. -/
def gap : Nat := 2

/-- The column in which a cell stands. -/
def columnOf (vertical : Bool) (count columns place : Nat) : Nat :=
  if vertical then place / ((count + columns - 1) / columns) else place % columns

/-- The widths of columns, if the cells fit into lines that way. -/
def columnWidths? (vertical : Bool) (limit : Nat) (cells : List Nat) (columns : Nat) :
    Option (List Nat) :=
  let count := cells.length
  let grow (widths : Array Nat) (cell : Nat × Nat) : Array Nat :=
    let column := columnOf vertical count columns cell.1
    let wide := cell.2 + if column = columns - 1 then 0 else gap
    widths.modify column (max wide)
  let widths :=
    ((List.range count).zip cells).foldl grow (Array.replicate columns leastWidth)
  if widths.foldl (· + ·) 0 < limit then some widths.toList else none

/-- The widths of as many columns as fit into lines. -/
def columnWidths (vertical : Bool) (limit : Nat) (cells : List Nat) : List Nat :=
  let most := min cells.length ((limit + leastWidth - 1) / leastWidth)
  let found := (List.range most).reverse.findSome? fun i =>
    if i = 0 then none else columnWidths? vertical limit cells (i + 1)
  found.getD [0]

/-- Blanks and tabs from one column to another. -/
def gapText (tab : Nat) : (steps : Nat) → (start stop : Nat) → String
  | 0, _, _ => ""
  | steps + 1, start, stop =>
      if stop ≤ start then ""
      else if tab ≠ 0 ∧ (start + 1) / tab < stop / tab then
        "\t" ++ gapText tab steps (start + tab - start % tab) stop
      else " " ++ gapText tab steps (start + 1) stop

/-- A line of cells, each of them with the width of its column. -/
def rowText (tab : Nat) : (place : Nat) → List ((String × Nat) × Nat) → String
  | _, [] => ""
  | _, [((text, _), _)] => text
  | place, ((text, taken), width) :: rest =>
      text ++ gapText tab (width + 1) (place + taken) (place + width)
        ++ rowText tab (place + width) rest

/-- Cells in columns. -/
def inColumns (l : Lister) (vertical : Bool) (limit : Nat) (cells : List (String × Nat)) :
    List String :=
  let widths := columnWidths vertical limit (cells.map Prod.snd)
  let columns := widths.length
  let count := cells.length
  let rows := (count + columns - 1) / columns
  let all := cells.toArray
  let tab := if l.colors.isSome then 0 else l.style.tab
  (List.range rows).map fun row =>
    let line := (List.range columns).filterMap fun column =>
      let place := if vertical then column * rows + row else row * columns + column
      (all[place]?).map fun cell => (cell, widths.getD column 0)
    rowText tab 0 line

/-- Cells behind each other with commas between them; `place` is where the next one begins. -/
def withCommas (l : Lister) : (first : Bool) → (place : Nat) → List (String × Nat) → String
  | _, _, [] => ""
  | first, place, (text, taken) :: rest =>
      let fits := match l.style.width with
        | some width => decide (place + taken + 2 < width)
        | none => true
      if first then text ++ l.withCommas false taken rest
      else if fits then ", " ++ text ++ l.withCommas false (place + 2 + taken) rest
      else "," ++ l.style.stop ++ text ++ l.withCommas false taken rest

/-! ### Long lists -/

/-- The seconds after which a time is not recent any more. -/
def isRecent (now time : Int) : Bool :=
  let age := now - time
  decide (0 ≤ age ∧ age < Format.nanosecondsPerSecond * recent)

/-- The time of a node. -/
def timeText (l : Lister) (n : Node) : String :=
  let time := l.style.timeIn.of n
  let (old, new) := l.style.times
  (Format.Moment.ofNanoseconds time).text (if isRecent l.tree.now time then new else old)

/-- The name of the owner of a node, or of the group. -/
def ownerText (l : Lister) (forGroup : Bool) (n : Node) : String :=
  let number := if forGroup then n.group else n.owner
  if l.style.plainOwners then toString number else Owner.shown forGroup number

/-- The numbers of a device. -/
def deviceNumbers? (n : Node) : Option (Nat × Nat) :=
  match n.content with
  | .device .null => some (1, 3)
  | .device .zero => some (1, 5)
  | .device .full => some (1, 7)
  | .device .absent => some (5, 0)
  | .device (.numbered _ major minor) => some (major, minor)
  | _ => none

/-- The columns of a line in a long list, without the name. -/
structure Row where
  links : String
  owner : String
  group : String
  author : String
  size : String
  /-- The two numbers of a device. -/
  numbers : Option (String × String)
  time : String
  mode : String

/-- The columns for a file. -/
def row (l : Lister) (e : Listed) : Row :=
  match e.number with
  | none =>
      let t := (Format.Moment.ofNanoseconds 0).text l.style.times.1
      { links := "?", owner := "?", group := "?", author := "?", size := "?", numbers := none
        time := padLeft t.length "?", mode := "l?????????" }
  | some number =>
      let n := l.tree.node number
      { links := toString (linkCount l.tree number)
        owner := l.ownerText false n
        group := l.ownerText true n
        author := l.ownerText false n
        size := l.style.size.text (sizeOf n.content)
        numbers := (deviceNumbers? n).map fun (a, b) => (toString a, toString b)
        time := l.timeText n
        mode := modeColumn n }

/-- The lines of a long list, in columns that have room for some files. -/
def longLines (l : Lister) (measured entries : List Listed) : List String :=
  let shown := entries.map l.row
  let rows := measured.map l.row
  let w := l.widths measured
  let quoted := l.hasQuoted entries
  let links := widest (rows.map Row.links)
  let owners := widest (rows.map Row.owner)
  let groups := widest (rows.map Row.group)
  let majors := widest (rows.map fun r => (r.numbers.map Prod.fst).getD "")
  let minors := widest (rows.map fun r => (r.numbers.map Prod.snd).getD "")
  let sizes := widest ((rows.filter fun r => r.numbers.isNone).map Row.size)
  let sizes := max sizes (if majors = 0 then 0 else majors + 2 + minors)
  let owned (width : Nat) (text : String) : String :=
    (if l.style.plainOwners then padLeft width text else padRight width text) ++ " "
  (entries.zip shown).map fun (e, r) =>
    let size := match r.numbers with
      | some (major, minor) =>
          padLeft (sizes - minors - 2) major ++ ", " ++ padLeft minors minor
      | none => padLeft sizes r.size
    let target := match (l.node? e).map Node.content with
      | some (.link target) =>
          let mark := if l.style.marks = .folders then ""
            else (e.target.map fun n => l.kindMark (l.tree.node n)).getD ""
          " -> " ++ l.style.shownName l.style.marksWithin target ++ mark
      | _ => if e.number.isNone then "" else l.markOf e
    l.front w e ++ r.mode ++ " " ++ padLeft links r.links ++ " "
      ++ (if l.style.owner then owned owners r.owner else "")
      ++ (if l.style.group then owned groups r.group else "")
      ++ (if l.style.author then owned owners r.author else "")
      ++ (if l.style.context then "? " else "")
      ++ size ++ " " ++ r.time ++ " " ++ l.coloredName quoted e ++ target

/-- The text of a list, in columns that have room for some files. -/
def text (l : Lister) (measured entries : List Listed) : String :=
  if entries.isEmpty then ""
  else
    let w := l.widths measured
    let quoted := l.hasQuoted entries
    let cells := entries.map (l.cell w quoted)
    let lines (ls : List String) : String := String.join (ls.map (· ++ l.style.stop))
    let spaced : String := "  ".intercalate (cells.map Prod.fst) ++ l.style.stop
    match l.style.formatIn with
    | .long => lines (l.longLines measured entries)
    | .single => lines (cells.map Prod.fst)
    | .commas => l.withCommas true 0 cells ++ l.style.stop
    | .vertical => match l.style.width with
        | some limit => lines (l.inColumns true limit cells)
        | none => spaced
    | .horizontal => match l.style.width with
        | some limit => lines (l.inColumns false limit cells)
        | none => spaced

/-! ### Folders -/

/-- Whether more is asked about files than their names and kinds. -/
def needsFacts (l : Lister) : Bool :=
  l.style.formatIn = .long || l.style.blocks || l.style.orderIn = .size || l.style.orderIn = .time
    || l.style.numbers || l.style.marks ≠ .none || l.colors.isSome || l.style.foldersFirst
    || l.style.recursive

/-- A file by its name and path, and a complaint if it cannot be listed. -/
def listed (l : Lister) (follow : Bool) (name path : String) (number : Nat) :
    Listed × Option FileError :=
  let (found, fault) : Option Nat × Option FileError :=
    if follow && l.needsFacts then
      match l.tree.locate l.folder path with
      | .ok n => (some n, none)
      | .error e => (none, some e)
    else (some number, none)
  let target := match found.map l.tree.content with
    | some (.link _) => (l.tree.locate l.folder path).toOption
    | _ => none
  ({ name := name, path := path, number := found, target := target }, fault)

/-- The files in a folder that are listed, and those that could not be looked at. -/
def inside (l : Lister) (number : Nat) (path : String) :
    List Listed × List (String × FileError) :=
  let entries := (l.tree.entries number).reverse.filter fun entry => !l.style.omits entry.1
  let dots := if l.style.dots = .all then [(".", number), ("..", l.tree.above number)] else []
  let dots := dots.filter fun entry => !l.style.leftOut.contains entry.1
  let all := (dots ++ entries).map fun (name, n) =>
    l.listed (l.style.followIn = .always) name (Path.join path name) n
  (l.ordered (all.map Prod.fst), all.filterMap fun (e, fault) => fault.map fun f =>
    (if path = "." then e.name else e.path, f))

end Lister

/-- A part of the output: a text, or a complaint. -/
inductive ListPart where
  | shown (text : String)
  | fault (text : String) (serious : Bool)

namespace Lister

/-- What is in a folder, and in those below it if that is asked for; `depth` bounds how deep they
lie, and `above` holds those that lie around it. -/
def folderParts (l : Lister) :
    (depth : Nat) → (titled : Bool) → (above : List Nat) → (path : String) → Nat →
      (first : Bool) → List ListPart
  | 0, _, _, _, _, _ => []
  | depth + 1, titled, above, path, number, first =>
      if above.contains number then
        [.fault (quotedIfNeeded path ++ ": not listing already-listed directory") true]
      else
        let (entries, faults) := l.inside number path
        let marks := ':' :: (if l.style.namesIn = .escape then [' '] else [])
        let title := (if first then "" else "\n") ++
          (if titled || l.style.recursive then l.style.shownName marks path ++ ":\n" else "")
        let units := (entries.map l.unitsOf).foldl (· + ·) 0
        let total :=
          if l.style.formatIn = .long || l.style.blocks then
            "total " ++ l.style.blockSize.text (1024 * units) ++ l.style.stop
          else ""
        let isBelow (e : Listed) : Bool := e.name ≠ "." && e.name ≠ ".." && l.isFolder e
        let below := if !l.style.recursive then [] else
          (entries.filter isBelow).flatMap fun e => match e.number with
            | some n => l.folderParts depth true (number :: above) e.path n false
            | none => []
        faults.map (fun (path, e) =>
            ListPart.fault ("cannot access " ++ quoted path ++ ": " ++ e.reason) false)
          ++ [.shown (title ++ total ++ l.text entries entries)] ++ below

end Lister

/-- What operands lead to: the file to list, or why there is none. -/
def ListStyle.operand (s : ListStyle) (t : FileTree) (folder : Nat) (path : String) :
    Except FileError Nat :=
  match s.followIn with
  | .never => t.locate folder path false
  | .operands | .always => t.locate folder path
  | .folders =>
      match t.locate folder path with
      | .ok n => if t.isFolder n then .ok n else t.locate folder path false
      | .error .noEntry | .error .tooManyLinks => t.locate folder path false
      | .error e => .error e

/-- List files in a style. -/
def listFiles (name : String) (style : ListStyle) (operands : List String) : Run Nat := do
  let t ← tree
  let p ← process
  let folder := p.folder
  let colors := if style.colored then ListColors.of p.environment else none
  let l : Lister := { style := style, tree := t, folder := folder, colors := colors }
  let mut status := 0
  let mut entries : List Listed := []
  for path in (if operands.isEmpty then ["."] else operands) do
    match style.operand t folder path with
    | .error e =>
        blame name ("cannot access " ++ quoted path ++ ": " ++ e.reason)
        status := ListStyle.failure
    | .ok number =>
        let (e, _) := l.listed false path path number
        entries := entries ++ [e]
  let isListed (e : Listed) : Bool := !style.asFiles && l.isFolder e
  let files := l.ordered (entries.filter fun e => !isListed e)
  let folders := l.ordered (entries.filter isListed)
  let titled := 1 < operands.length
  let mut parts : List ListPart := [.shown (l.text entries files)]
  let mut first := files.isEmpty
  for e in folders do
    match e.number with
    | some n =>
        parts := parts ++ l.folderParts (t.nodes.size + 1) titled [] e.path n first
        first := false
    | none => pure ()
  let usesColor (text : String) : Bool := text.contains '\x1b'
  let mut colored := false
  for part in parts do
    match part with
    | .shown text =>
        if !colored && usesColor text then
          let before := text.toList.takeWhile (· ≠ '\x1b')
          put (String.ofList before ++ ListColors.stop
            ++ String.ofList (text.toList.drop before.length))
          colored := true
        else put text
    | .fault text serious =>
        blame name text
        status := max status (if serious then ListStyle.failure else 1)
  return status

/-- List files as options say, in a style to begin with. -/
def listWith (name : String) (start : ListStyle) (g : Given) : Run Nat := do
  let asked := (← process).environment.lookup "COLUMNS"
  let columns := (asked.bind String.toNat?).filter (· ≠ 0)
  let start := { start with width := columns <|> start.width }
  match ← (g.options.foldlM (ListStyle.take name) start).run with
  | .error status => return status
  | .ok style => listFiles name style g.operands

/-- A program that lists files, given the style that it begins with. -/
def lister (start : ListStyle) : Tool := fun name arguments =>
  withOptions name listOptions arguments (listWith name start) ListStyle.failure

/-- List files, each in a line. -/
def ls : Tool := lister {}

/-- List files in columns. -/
def dir : Tool := lister { format := some .vertical, names := some .escape }

/-- List files with what is known about them. -/
def vdir : Tool := lister { format := some .long, names := some .escape }

end ToyLang.Tools
