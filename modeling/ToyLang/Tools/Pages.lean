import ToyLang.Format.DateText
import ToyLang.Text.Width
import ToyLang.Tools.Basic
import ToyLang.Tools.PageStyle

/-!
# Pages

Inputs are set in pages line by line.  Columns that go down are read as a whole before they are set,
so that they can be of the same length.

## Main definitions

* `Paging`, `PageRun` — pages in the making.
* `PageRun.line`, `PageRun.storedLine`, `PageRun.page` — a line of a column, and a page.
* `pr` — the program.
-/

namespace ToyLang.Tools

open Run

/-! ### Pages in the making -/

/-- What a column can do. -/
inductive ColumnState where
  | ready
  /-- The page is over for the column. -/
  | held
  /-- The page is over, but its header is still to be set. -/
  | fed
  | closed
  deriving DecidableEq, Inhabited

/-- A column of a page. -/
structure PageColumn where
  /-- The input that the column is read from. -/
  source : Nat
  state : ColumnState := .ready
  /-- The lines that are still to be set on this page. -/
  left : Int := 0
  /-- The lines that were read before, and the next of them. -/
  stored : Nat := 0
  next : Nat := 0
  /-- Where the column begins. -/
  start : Nat := 0
  isNumbered : Bool := false
  /-- Whether lines are read before they are set. -/
  isStored : Bool := false
  /-- Whether the page before was full. -/
  wasFull : Bool := false
  deriving Inhabited

/-- Pages in the making. -/
structure Paging where
  style : PageStyle
  columns : Array PageColumn
  /-- What is left of the inputs. -/
  inputs : Array (List Char)
  /-- The output, the last character first. -/
  out : List Char := []
  date : String
  title : String
  page : Nat := 1
  number : Int := 1
  /-- Where the output is in its line, and the blanks that are still to be set there. -/
  place : Int := 0
  blanks : Int := 0
  separators : Nat := 0
  /-- Where the input is in its line. -/
  inputPlace : Nat := 0
  /-- Where the column begins that is being set, until it has begun. -/
  padding : Nat := 0
  /-- Whether something was set in the line. -/
  isSet : Bool := false
  isEmptyLine : Bool := true
  alignsEmpty : Bool := false
  wantsHeader : Bool := false
  isFeedOnly : Bool := false
  wantsFeed : Bool := false
  /-- How many inputs are ready. -/
  ready : Int
  /-- The lines that were read before, with their widths. -/
  stored : Array (List Char × Nat) := #[]
  /-- The line that is being stored, the last character first. -/
  storing : List Char := []

/-- Actions on pages. -/
abbrev PageRun := StateM Paging

namespace PageRun

/-- Change a column. -/
def setColumn (i : Nat) (f : PageColumn → PageColumn) : PageRun Unit :=
  modify fun p => { p with columns := p.columns.modify i f }

/-- Change all columns. -/
def setColumns (f : PageColumn → PageColumn) : PageRun Unit :=
  modify fun p => { p with columns := p.columns.map f }

/-- A column. -/
def column (i : Nat) : PageRun PageColumn := return (← get).columns.getD i { source := 0 }

/-- Put a character out. -/
def emit (c : Char) : PageRun Unit := modify fun p => { p with out := c :: p.out }

/-- Put characters out. -/
def emitAll (cs : List Char) : PageRun Unit := modify fun p => { p with out := cs.reverse ++ p.out }

/-- Take a character of the input of a column. -/
def take (source : Nat) : PageRun (Option Char) := do
  match (← get).inputs.getD source [] with
  | [] => return none
  | c :: cs =>
      modify fun p => { p with inputs := p.inputs.set! source cs }
      return some c

/-- Take a line end if it comes next. -/
def skipLineEnd (source : Nat) : PageRun Unit := do
  if ((← get).inputs.getD source []).head? = some '\n' then discard (take source)

/-! ### Blanks and separators -/

/-- The tabs and the blanks from one place to another. -/
def filling (tab : Char × Nat) : (steps : Nat) → (place goal : Int) → List Char
  | 0, _, _ => []
  | steps + 1, place, goal =>
      if goal ≤ place then []
      else
        let next := place + (tab.2 - place % tab.2)
        if 1 < goal - place ∧ next ≤ goal then tab.1 :: filling tab steps next goal
        else List.replicate (goal - place).toNat ' '

/-- Set the blanks that are still to be set. -/
def setBlanks : PageRun Unit := do
  let p ← get
  let goal := p.place + p.blanks
  emitAll (filling p.style.tabOut (goal - p.place).toNat p.place goal)
  modify fun p => { p with place := goal, blanks := 0 }

/-- Go to a place in the line. -/
def goTo (place : Nat) : PageRun Unit := do
  let p ← get
  if p.style.compresses then set { p with blanks := place - p.place }
  else
    emitAll (List.replicate (place - p.place).toNat ' ')
    modify fun p => { p with place := place }

/-- Set the separator of columns; only the first of several is set. -/
def setSeparator : PageRun Unit := do
  let p ← get
  if p.separators = 0 then
    if 0 < p.blanks then setBlanks
  else
    for c in p.style.gap.toList do
      if c = ' ' then modify fun p => { p with blanks := p.blanks + 1 }
      else
        if 0 < (← get).blanks then setBlanks
        emit c
        modify fun p => { p with place := p.place + 1 }
    if 0 < (← get).blanks then setBlanks
    modify fun p => { p with separators := 0 }

/-- Whether a character can be seen, or is a blank. -/
def isShown (c : Char) : Bool := ' ' ≤ c && c ≤ '~'

/-- Set a character. -/
def setChar (c : Char) : PageRun Unit := do
  if (← get).style.compresses then
    if c = ' ' then
      modify fun p => { p with blanks := p.blanks + 1 }
      return
    if 0 < (← get).blanks then setBlanks
    if isShown c then modify fun p => { p with place := p.place + 1 }
    else if c = '\x08' then modify fun p => { p with place := p.place - 1 }
  emit c

/-- Set or store a character of a column. -/
def addChar (k : PageColumn) (c : Char) : PageRun Unit :=
  if k.isStored then modify fun p => { p with storing := c :: p.storing } else setChar c

/-! ### Headers and numbers -/

/-- Set the header of a page. -/
def setHeader : PageRun Unit := do
  modify fun p => { p with place := 0 }
  goTo (← get).style.margin
  setBlanks
  let p ← get
  let width (text : String) : Nat :=
    ((Text.widen text).toList.map Text.width).foldl (· + ·) 0
  let shown := "Page " ++ toString p.page
  let room := p.style.width - width p.date - width p.title - width shown
  let left := room / 2
  let blanks (n : Nat) : List Char := List.replicate (max 1 n) ' '
  emitAll ("\n\n".toList ++ List.replicate p.style.margin ' ' ++ p.date.toList ++ blanks left
    ++ p.title.toList ++ blanks (room - left) ++ shown.toList ++ "\n\n\n".toList)
  modify fun p => { p with page := p.page + 1, wantsHeader := false, place := 0 }

/-- Set the number of a line. -/
def setNumber (k : PageColumn) : PageRun Unit := do
  let p ← get
  match p.style.number with
  | none => pure ()
  | some (mark, width) =>
      let digits := (toString p.number).toList
      let text := List.replicate (width - digits.length) ' ' ++ digits
      set { p with number := p.number + 1 }
      for c in text.drop (text.length - width) do addChar k c
      let all := p.style.numberWidth
      if 1 < p.style.columns then
        if mark = '\t' then
          for _ in [width:all] do addChar k ' '
        else addChar k mark
      else
        addChar k mark
        if mark = '\t' then
          modify fun p =>
            let gap := p.style.tabOut.2
            { p with place := p.place + (gap - p.place % gap) }
      if p.style.cuts && !p.style.isParallel then
        modify fun p => { p with inputPlace := p.inputPlace + all }

/-- Set what stands in front of a column that has no more lines. -/
def align (i : Nat) : PageRun Unit := do
  let k ← column i
  modify fun p => { p with padding := k.start }
  let p ← get
  if p.style.gap.length < p.padding then
    goTo (p.padding - p.style.gap.length)
    modify fun p => { p with padding := 0 }
  if p.style.usesSeparator then setSeparator
  if k.isNumbered then setNumber k

/-! ### Inputs -/

/-- The page is over for a column. -/
def hold (i : Nat) : PageRun Unit := do
  let s := (← get).style
  if s.isParallel then setColumn i fun k => { k with state := .held }
  else setColumns fun k => { k with state := if s.isStored then .fed else .held }
  setColumn i fun k => { k with left := 0 }
  modify fun p => { p with ready := p.ready - 1 }

/-- The input of a column is over. -/
def close (i : Nat) : PageRun Unit := do
  if (← column i).state = .closed then return
  if (← get).style.isParallel then setColumn i fun k => { k with state := .closed, left := 0 }
  else setColumns fun k =>
    { k with state := .closed, left := if k.stored = 0 then 0 else k.left }
  modify fun p => { p with ready := p.ready - 1 }

/-- Go over what is left of a line. -/
def skipRest (i : Nat) : PageRun Unit := do
  let k ← column i
  let count := ((← get).inputs.getD k.source []).length
  for _ in [0:count + 1] do
    match ← take k.source with
    | none => return ← close i
    | some '\n' => return
    | some '\x0c' =>
        skipLineEnd k.source
        if (← get).style.keepsFeeds then modify fun p => { p with wantsFeed := true }
        return ← hold i
    | some _ => pure ()

/-- What a character is set as, and how wide it is. -/
def shownAs (s : PageStyle) (place : Nat) (c : Char) : List Char × Int :=
  let octal : List Char :=
    '\\' :: [c.toNat / 64 % 8, c.toNat / 8 % 8, c.toNat % 8].map fun n => Char.ofNat (48 + n)
  if c = s.tabIn.1 ∨ c = '\t' then
    let width := PageStyle.tabWidth (if c = s.tabIn.1 then s.tabIn.2 else 8) place
    (if s.expands then List.replicate width ' ' else [c], width)
  else if isShown c then ([c], 1)
  else if s.showsNumbers then (octal, 4)
  else if s.showsControls then
    if c.toNat < 0x80 then (['^', Char.ofNat (c.toNat ^^^ 0x40)], 2) else (octal, 4)
  else if c = '\x08' then ([c], -1)
  else ([c], 0)

/-- What a character is set as; the place in the input moves on. -/
def clump (c : Char) : PageRun (List Char) := do
  let p ← get
  let (text, width) := shownAs p.style p.inputPlace c
  let place := p.inputPlace + width
  set { p with inputPlace := place.toNat }
  return if width < 0 && p.inputPlace = 0 then [] else text

/-- Whether the place in the input is behind the end of the column. -/
def isTooFar : PageRun Bool := do
  let p ← get
  return p.style.cuts && decide (p.style.columnWidth < p.inputPlace)

/-- Set the rest of a line.  The answer says whether all of it was set. -/
def restOfLine (i : Nat) : PageRun Bool := do
  let k ← column i
  let count := ((← get).inputs.getD k.source []).length
  for _ in [0:count + 1] do
    match ← take k.source with
    | none =>
        close i
        return true
    | some '\n' => return true
    | some '\x0c' =>
        skipLineEnd k.source
        if (← get).style.keepsFeeds then modify fun p => { p with wantsFeed := true }
        hold i
        return true
    | some c =>
        let before := (← get).inputPlace
        let text ← clump c
        if ← isTooFar then
          modify fun p => { p with inputPlace := before }
          return false
        for c in text do addChar k c
  return true

/-- Set what stands in front of a line in a column. -/
def beginLine (k : PageColumn) : PageRun Unit := do
  modify fun p => { p with isSet := true }
  let p ← get
  if p.wantsHeader && !p.style.isStored then setHeader
  if p.style.isParallel && p.alignsEmpty then
    let count := p.separators
    modify fun p => { p with separators := 0 }
    for j in [0:count] do
      align j
      modify fun p => { p with separators := p.separators + 1 }
    modify fun p =>
      { p with
        padding := k.start
        blanks := if p.style.cuts then p.style.columnWidth else 0
        alignsEmpty := false }
  let p ← get
  if p.style.gap.length < p.padding then
    goTo (p.padding - p.style.gap.length)
    modify fun p => { p with padding := 0 }
  if p.style.usesSeparator then setSeparator

/-- Set a line of a column as it is read.  The answer says whether all of it was set. -/
def line (i : Nat) : PageRun Bool := do
  let k ← column i
  let before := (← get).inputPlace
  let mut first ← take k.source
  if first = some '\x0c' && k.wasFull then
    first ← take k.source
    if first = some '\n' then first ← take k.source
  setColumn i fun k => { k with wasFull := false }
  match first with
  | some '\x0c' =>
      skipLineEnd k.source
      modify fun p => { p with isFeedOnly := true }
      let p ← get
      if p.wantsHeader && !p.style.isStored then
        modify fun p => { p with isSet := true }
        setHeader
      else if p.style.keepsFeeds then modify fun p => { p with wantsFeed := true }
      hold i
      return true
  | none =>
      close i
      return true
  | some c =>
      let text ← if c = '\n' then pure [] else clump c
      if ← isTooFar then
        modify fun p => { p with inputPlace := before }
        return false
      if !k.isStored then beginLine k
      if k.isNumbered then setNumber k
      modify fun p => { p with isEmptyLine := false }
      if c = '\n' then return true
      for c in text do addChar k c
      restOfLine i

/-- Set a line of a column that was read before. -/
def storedLine (i : Nat) : PageRun Bool := do
  let k ← column i
  setColumn i fun k => { k with next := k.next + 1 }
  let (text, width) := (← get).stored.getD k.next ([], 0)
  modify fun p => { p with isSet := true }
  if (← get).wantsHeader then setHeader
  if k.state = .fed then
    setColumns fun k => { k with state := .held }
    if (← column 0).left ≤ 0 then
      if !(← get).style.isFramed then modify fun p => { p with isSet := false }
      return true
  let p ← get
  if p.style.gap.length < p.padding then
    goTo (p.padding - p.style.gap.length)
    modify fun p => { p with padding := 0 }
  if p.style.usesSeparator then setSeparator
  for c in text do setChar c
  if (← get).blanks = 0 then
    modify fun p =>
      let gap := p.style.gap.length
      let place : Int := k.start + width
      { p with place := if (k.start : Int) - gap = p.style.margin then place - gap else place }
  return true

/-! ### Whole pages -/

/-- Read the lines of a page before they are set, and share them out among the columns. -/
def store : PageRun Unit := do
  modify fun p => { p with stored := #[] }
  setColumns fun k => { k with stored := 0 }
  let s := (← get).style
  for i in [0:s.columns] do
    for _ in [0:s.bodyLines] do
      if 0 < (← get).ready && (← column i).state = .ready then
        modify fun p => { p with inputPlace := 0, storing := [] }
        if !(← line i) then skipRest i
        let p ← get
        if (← column i).state = .ready || !p.storing.isEmpty then
          setColumn i fun k => { k with stored := k.stored + 1 }
          modify fun p => { p with stored := p.stored.push (p.storing.reverse, p.inputPlace) }
  let total := (← get).stored.size
  let mut first := 0
  for i in [0:s.columns] do
    let count := total / s.columns + if i < total % s.columns then 1 else 0
    let start := first
    setColumn i fun k => { k with stored := count, next := start }
    first := first + count

/-- How many columns have lines to set. -/
def readyColumns : PageRun Nat := do
  let p ← get
  return (p.columns.toList.filter fun k =>
    k.state = .ready || k.state = .fed
      || (p.style.isStored && 0 < k.stored && decide (0 < k.left))).length

/-- Set one line of each column. -/
def row : PageRun Unit := do
  modify fun p =>
    { p with
      place := 0, blanks := 0, separators := 0, isSet := false, alignsEmpty := false
      isEmptyLine := true }
  let s := (← get).style
  let mut isOver := false
  let mut anySet := false
  for i in [0:s.columns] do
    if !isOver then
      modify fun p => { p with inputPlace := 0 }
      let k ← column i
      if 0 < k.left || k.state = .fed then
        modify fun p => { p with isFeedOnly := false, padding := k.start }
        let isWhole ← if k.isStored then storedLine i else line i
        if !isWhole then skipRest i
        anySet := anySet || (← get).isSet
        setColumn i fun k => { k with left := k.left - 1 }
        if (← column i).left ≤ 0 then
          if (← readyColumns) = 0 then isOver := true
        let k ← column i
        if !isOver && s.isParallel && k.state ≠ .ready then
          let p ← get
          if p.isEmptyLine then modify fun p => { p with alignsEmpty := true }
          else if k.state = .closed || (k.state = .held && p.isFeedOnly) then align i
      else if s.isParallel then
        if (← get).isEmptyLine then modify fun p => { p with alignsEmpty := true }
        else align i
      if !isOver && s.usesSeparator then
        modify fun p => { p with separators := p.separators + 1 }

/-- Set a page.  The answer says whether there may be more of them. -/
def page : PageRun Bool := do
  let s := (← get).style
  let body : Int := s.bodyLines
  if s.isStored then
    store
    setColumns fun k => { k with left := k.stored }
  else setColumns fun k => { k with left := if k.state = .ready then body else 0 }
  if (← readyColumns) = 0 then return false
  modify fun p => { p with isSet := false, wantsHeader := p.wantsHeader || s.isFramed }
  let mut anySet := false
  let mut left := if s.isDoubled then 2 * body else body
  for _ in [0:2 * s.bodyLines + 2] do
    if left ≤ 0 || (← readyColumns) = 0 then break
    row
    anySet := anySet || (← get).isSet
    if (← get).isSet then
      emit '\n'
      left := left - 1
    if (← readyColumns) = 0 && !s.isFramed then break
    if s.isDoubled && anySet then
      emit '\n'
      left := left - 1
  if left = 0 then
    setColumns fun k => { k with wasFull := k.wasFull || k.state = .ready }
  if anySet && s.isFramed then
    emitAll (if s.endsByFeed then ['\x0c']
      else List.replicate (left + frameLines.2).toNat '\n')
  else if s.keepsFeeds && (← get).wantsFeed then
    emit '\x0c'
    modify fun p => { p with wantsFeed := false }
  if s.last.any (· < (← get).page) then return false
  let held := ((← get).columns.toList.filter fun k => k.state = .held).length
  setColumns fun k => { k with state := if k.state = .held then .ready else k.state }
  let isClosed := (← column 0).state = .closed
  modify fun p =>
    { p with ready := if s.isStored then (if isClosed then 0 else 1) else p.ready + held }
  return true

/-- Go over a line of a column. -/
def skipLine (i : Nat) (isLast : Bool) : PageRun Unit := do
  let k ← column i
  let mut first ← take k.source
  if first = some '\x0c' && k.wasFull then
    first ← take k.source
    if first = some '\n' then first ← take k.source
  let isFeed := first = some '\x0c'
  setColumn i fun k => { k with wasFull := isLast }
  let count := ((← get).inputs.getD k.source []).length
  let mut c := first
  for _ in [0:count + 2] do
    match c with
    | some '\n' => break
    | some '\x0c' =>
        if isLast then
          if (← get).style.isParallel then setColumn i fun k => { k with wasFull := false }
          else setColumns fun k => { k with wasFull := false }
        skipLineEnd k.source
        hold i
        break
    | none =>
        close i
        break
    | some _ => c ← take k.source
  let p ← get
  if p.style.start.isNone && (!p.style.isParallel || i = 0) && !isFeed then
    set { p with number := p.number + 1 }

/-- Go over pages up to the first one that is wanted.  The answer is the number of pages if there
are not so many of them. -/
def skipTo (wanted : Nat) : PageRun (Option Nat) := do
  let s := (← get).style
  for n in [1:wanted] do
    for l in [0:s.bodyLines] do
      for i in [0:s.columns] do
        if (← column i).state = .ready then skipLine i (l + 1 = s.bodyLines)
    if s.isStored then
      setColumns fun k => { k with state := if k.state = .closed then .closed else .held }
    let held := ((← get).columns.toList.filter fun k => k.state = .held).length
    setColumns fun k => { k with state := if k.state = .held then .ready else k.state }
    let isClosed := (← column 0).state = .closed
    modify fun p =>
      { p with ready := if s.isStored then (if isClosed then 0 else 1) else p.ready + held }
    if (← get).ready < 1 then return some n
  return none

/-- Set all pages. -/
def pages : PageRun (Option Nat) := do
  let s := (← get).style
  let wanted := s.first.getD 1
  if 1 < wanted then
    if let some count ← skipTo wanted then return some count
  modify fun p => { p with page := wanted }
  let count := ((← get).inputs.toList.map List.length).foldl (· + ·) 0
  for _ in [0:count + 2] do
    if !(← page) then break
  return none

end PageRun

/-- The columns of a style. -/
def PageStyle.pageColumns (s : PageStyle) : Array PageColumn :=
  let gap := s.gap.length
  let first := s.margin
    + s.columnWidth + if s.isParallel then s.numberWidth else 0
  let start (i : Nat) : Nat :=
    if i = 0 then s.margin + gap
    else if !s.cuts then 0
    else first + gap + (i - 1) * (s.columnWidth + gap)
  ((List.range s.columns).map fun i =>
    { source := if s.isParallel then i else 0
      start := start i
      isNumbered := s.number.isSome && (!s.isParallel || i = 0)
      isStored := s.isStored : PageColumn }).toArray

/-! ### The program -/

/-- The options of `pr`. -/
def pageOptions : OptionTable :=
  { flags := "0123456789FJTabcdfmrtv", valued := "DNWhlow", optional := "Seins"
    long := [("pages", 'P', .required), ("columns", 'C', .required), ("across", 'a', .none),
      ("show-control-chars", 'c', .none), ("double-space", 'd', .none),
      ("date-format", 'D', .required), ("expand-tabs", 'e', .optional), ("form-feed", 'f', .none),
      ("header", 'h', .required), ("output-tabs", 'i', .optional), ("join-lines", 'J', .none),
      ("length", 'l', .required), ("merge", 'm', .none), ("number-lines", 'n', .optional),
      ("first-line-number", 'N', .required), ("indent", 'o', .required),
      ("no-file-warnings", 'r', .none), ("separator", 's', .optional),
      ("sep-string", 'S', .optional), ("omit-header", 't', .none),
      ("omit-pagination", 'T', .none), ("show-nonprinting", 'v', .none), ("width", 'w', .required),
      ("page-width", 'W', .required)] }

/-- Set some inputs that share their pages. -/
def setPages (name : String) (style : PageStyle) (files : List String) : Run Bool := do
  let mut texts : Array (List Char) := #[]
  let mut well := true
  let mut time := (← tree).now
  for file in inputsOf files do
    match ← readInput file with
    | .ok text =>
        texts := texts.push text.toList
        if file ≠ "-" then
          if let .ok number ← locatePath file true then time := ((← tree).node number).time
    | .error e =>
        if !style.isQuiet || e = .isDirectory then blame name (unread file e)
        well := false
  if texts.isEmpty then return false
  let s := style.settled files.length
  let isShared := s.isParallel || files.isEmpty || files = ["-"]
  if isShared then time := (← tree).now
  let s := if s.isParallel then { s with columns := texts.size } else s
  if s.columnWidth < 1 then
    blame name "page width too narrow"
    throw (.exit 1)
  let p : Paging :=
    { style := s, columns := s.pageColumns, inputs := texts
      date := (Format.Moment.ofNanoseconds time).text s.dateFormat
      title := s.header.getD (if isShared then "" else files.headD "")
      number := s.start.getD 1
      ready := texts.size }
  let (short?, p) := PageRun.pages.run p
  put (String.ofList p.out.reverse)
  if let some count := short? then
    blame name ("starting page number " ++ toString (s.first.getD 1) ++ " exceeds page count "
      ++ toString count)
  return well

/-- Set inputs in pages. -/
def pr : Tool := fun name arguments =>
  withOptions name pageOptions arguments fun g => do
    match PageStyle.ofOptions g.options with
    | .error fault =>
        blame name fault.text
        if fault.offersHelp then askForHelp name 1 else return 1
    | .ok style =>
        let mut style := style
        let mut files : List String := []
        for file in g.operands do
          let range? : Except PageFault (Option (Nat × Option Nat)) :=
            if style.first.isNone && file.startsWith "+" then
              PageStyle.pageRange "+" (String.ofList (file.toList.drop 1))
            else .ok none
          match range? with
          | .error fault =>
              blame name fault.text
              return 1
          | .ok (some (first, last)) => style := { style with first := some first, last := last }
          | .ok none => files := files ++ [file]
        if style.isParallel || files.isEmpty then
          return if ← setPages name style files then 0 else 1
        let mut status := 0
        for file in files do
          if !(← setPages name style [file]) then status := 1
        return status

end ToyLang.Tools
