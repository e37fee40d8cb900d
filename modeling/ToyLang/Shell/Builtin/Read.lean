import ToyLang.Shell.Builtin.Variable
import ToyLang.Shell.Pattern

/-!
# Commands that read

## Main definitions

* `readCommand` — a line of input, cut into fields.
* `mapfileCommand` — all lines of input.
* `getoptsCommand` — the options among some arguments.
-/

namespace ToyLang.Shell

open Run

/-! ### Lines -/

/-- Whether a byte goes on with a character that has begun, if characters are more than bytes. -/
def goesOn (wide : Bool) (c : Char) : Bool := wide && 0x80 ≤ c.toNat && c.toNat < 0xc0

/-- Read characters up to a delimiter, or as many as `limit` says.  The flag says that the
delimiter was found, or that the limit was reached.  Unless `whole` says so, a backslash takes the
meaning of the next character. -/
def readLine (stream : Nat) (whole : Bool) (delimiter : Char) (limit : Option Nat) :
    Run (List Marked × Bool) := do
  let wide := decide ((← shell).dialect = .extended)
  let mut found : List Marked := []
  let mut escaped := false
  let mut count := 0
  let mut more := 0
  for _ in [0:rounds] do
    if limit = some count ∧ more = 0 then return (found.reverse, true)
    match ← readBytes stream 1 with
    | .error _ => return (found.reverse, false)
    | .ok bytes =>
        match bytes.toList with
        | [] => return (found.reverse, false)
        | b :: _ =>
            let c := Char.ofNat b.toNat
            if goesOn wide c ∧ 0 < more then
              more := more - 1
              found := (c, escaped) :: found
            else if escaped then
              if c ≠ '\n' then
                found := (c, true) :: found
                count := count + 1
              escaped := false
            else if c = delimiter then return (found.reverse, true)
            else if c = '\\' ∧ !whole then escaped := true
            else if c ≠ '\x00' then
              found := (c, false) :: found
              count := count + 1
              more := if wide then ((Text.followers? c.toNat).map fun f => f.1).getD 0 else 0
  return (found.reverse, false)

/-- Whether a character separates fields. -/
def isSeparator (separators : List Char) (m : Marked) : Bool := !m.2 && separators.contains m.1

/-- Whether a character is a blank that separates fields. -/
def isBlankSeparator (separators : List Char) (m : Marked) : Bool :=
  isSeparator separators m && (m.1 = ' ' || m.1 = '\t' || m.1 = '\n')

/-- Drop what separates a field from the next one: blanks, around one other separator at most. -/
def dropSeparator (separators : List Char) (cs : List Marked) : List Marked :=
  match cs.dropWhile (isBlankSeparator separators) with
  | m :: rest =>
      if isSeparator separators m then rest.dropWhile (isBlankSeparator separators) else m :: rest
  | [] => []

/-- Cut a line into as many fields as there are names.  The last one is all that is left, without
the separator that ends it. -/
def cutLine (separators : List Char) : (count : Nat) → List Marked → List String
  | 0, _ => []
  | 1, cs =>
      let cs := (cs.reverse.dropWhile (isBlankSeparator separators)).reverse
      let field := cs.takeWhile fun m => !isSeparator separators m
      if (dropSeparator separators (cs.drop field.length)).isEmpty then [textOfMarked field]
      else [textOfMarked cs]
  | count + 2, cs =>
      let field := cs.takeWhile fun m => !isSeparator separators m
      textOfMarked field
        :: cutLine separators (count + 1) (dropSeparator separators (cs.drop field.length))

/-- The options of a command that reads. -/
structure ReadOptions where
  whole : Bool := false
  delimiter : Char := '\n'
  limit : Option Nat := none
  /-- Whether the limit alone ends the input. -/
  exact : Bool := false
  stream : Nat := 0
  list : Option String := none
  names : List String := []

/-- Take the options of a command that reads; each step takes one argument at least. -/
def takeReadOptions (dialect : Dialect) : (steps : Nat) → List String → ReadOptions →
    Except String ReadOptions
  | 0, _, o => .ok o
  | steps + 1, argument :: rest, o =>
      match argument.toList with
      | ['-', '-'] => .ok { o with names := rest }
      | '-' :: c :: cs =>
          let again : List String := if cs.isEmpty then rest else String.ofList ('-' :: cs) :: rest
          let numbered (number : String → Option Nat) (trouble : String)
              (change : Nat → ReadOptions) : Except String ReadOptions :=
            let (value, rest) := if cs.isEmpty then (rest.head?, rest.drop 1)
              else (some (String.ofList cs), rest)
            match value with
            | none => .error ("-" ++ String.singleton c ++ ": option requires an argument")
            | some value =>
                match number value with
                | some n => takeReadOptions dialect steps rest (change n)
                | none => .error (value ++ ": " ++ trouble)
          let valued (change : String → ReadOptions) : Except String ReadOptions :=
            if cs.isEmpty then
              match rest with
              | value :: rest => takeReadOptions dialect steps rest (change value)
              | [] =>
                  if dialect = .extended then
                    .error ("-" ++ String.singleton c ++ ": option requires an argument")
                  else .error ("No arg for -" ++ String.singleton c ++ " option")
            else takeReadOptions dialect steps rest (change (String.ofList cs))
          if c = 'r' then takeReadOptions dialect (steps) again { o with whole := true }
          else if c = 'p' then valued fun _ => o
          else if dialect = .plain then .error ("Illegal option -" ++ String.singleton c)
          else match c with
            | 's' | 'e' => takeReadOptions dialect steps again o
            | 't' =>
                let time (text : String) : Option Nat :=
                  if text ≠ "" ∧ text.toList.all (fun c => c.isDigit || c = '.') then some 0
                  else none
                numbered time "invalid timeout specification" fun _ => o
            | 'i' => valued fun _ => o
            | 'a' => valued fun value => { o with list := some value }
            | 'd' => valued fun value => { o with delimiter := value.toList.headD '\x00' }
            | 'n' => numbered (·.toNat?) "invalid number" fun n => { o with limit := some n }
            | 'N' =>
                numbered (·.toNat?) "invalid number" fun n => { o with limit := some n, exact := true }
            | 'u' =>
                numbered (·.toNat?) "invalid file descriptor specification" fun n =>
                  { o with stream := n }
            | c => .error ("-" ++ String.singleton c ++ ": invalid option")
      | _ => .ok { o with names := argument :: rest }
  | _, [], o => .ok o

/-- Read a line into variables. -/
def readCommand (arguments : List String) : Run Nat := do
  let dialect := (← shell).dialect
  let steps := arguments.foldl (fun n a => n + a.length) arguments.length
  match takeReadOptions dialect (steps + 1) arguments {} with
  | .error text =>
      discard (refuse "read" text)
      if text.startsWith "-" then return ← showUsage "read"
      return 1
  | .ok o =>
      if dialect = .plain ∧ o.names.isEmpty then return ← refuse "read" "arg count"
      if dialect = .extended then
        for name in o.list.toList ++ o.names do
          if !isTarget true name then return ← refuseName "read" name
        if (← openFile? o.stream).isNone then
          return ← refuse "read"
            (if o.stream = 0 then "read error: 0: Bad file descriptor"
              else toString o.stream ++ ": invalid file descriptor: Bad file descriptor")
      let delimiter := if o.exact then Char.ofNat 0x100 else o.delimiter
      let (line, complete) ← readLine o.stream o.whole delimiter o.limit
      let separators ← separators
      let status := if complete then 0 else 1
      let start := if o.exact then line else line.dropWhile (isBlankSeparator separators)
      match o.list with
      | some name =>
          let texts := if start.isEmpty then []
            else cutLine separators ((start.filter (isSeparator separators)).length + 1) start
          let texts := (texts.reverse.dropWhile (· = "")).reverse
          discard (changeable (← aim name).1)
          storeVariable (← aim name).1 { value := .list false (entriesOfTexts texts) }
          return status
      | none =>
          match o.names with
          | [] => assign "REPLY" (textOfMarked line)
          | [name] =>
              if o.exact then assignTo name (textOfMarked line)
              else if dialect = .plain ∧ !isVariableName name then
                return ← refuse "read" (name ++ ": bad variable name")
              else assignTo name ((cutLine separators 1 start).headD "")
          | names =>
              for (name, text) in names.zip (cutLine separators names.length start) do
                if dialect = .plain ∧ !isVariableName name then
                  return ← refuse "read" (name ++ ": bad variable name")
                assignTo name text
          return status

/-- The options of the command that reads all lines. -/
structure LinesOptions where
  delimiter : Char := '\n'
  /-- How many lines are read at most; none means all. -/
  limit : Nat := 0
  origin : Option Nat := none
  skipped : Nat := 0
  trims : Bool := false
  stream : Nat := 0
  callback : Option String := none
  /-- How many lines are read before each call. -/
  quantum : Nat := 5000
  name : String := "MAPFILE"

/-- Take the options of the command that reads all lines; each step takes one argument at
least. -/
def takeLinesOptions : (steps : Nat) → List String → LinesOptions → Except String LinesOptions
  | 0, _, o => .ok o
  | _, [], o => .ok o
  | steps + 1, argument :: rest, o =>
      match argument.toList with
      | ['-', '-'] => .ok { o with name := rest.headD o.name }
      | '-' :: 't' :: cs =>
          takeLinesOptions steps (if cs.isEmpty then rest else String.ofList ('-' :: cs) :: rest)
            { o with trims := true }
      | '-' :: c :: cs =>
          if !"dnOsuCc".toList.contains c then
            .error ("-" ++ String.singleton c ++ ": invalid option")
          else
            let (value?, rest) := if cs.isEmpty then (rest.head?, rest.drop 1)
              else (some (String.ofList cs), rest)
            match value? with
            | none => .error ("-" ++ String.singleton c ++ ": option requires an argument")
            | some value =>
                let numbered (trouble : String) (change : Nat → LinesOptions) :
                    Except String LinesOptions :=
                  match value.toNat? with
                  | some n => takeLinesOptions steps rest (change n)
                  | none => .error (value ++ ": " ++ trouble)
                match c with
                | 'd' =>
                    takeLinesOptions steps rest { o with delimiter := value.toList.headD '\x00' }
                | 'n' => numbered "invalid line count" fun n => { o with limit := n }
                | 'O' => numbered "invalid array origin" fun n => { o with origin := some n }
                | 's' => numbered "invalid line count" fun n => { o with skipped := n }
                | 'u' =>
                    numbered "invalid file descriptor specification" fun n => { o with stream := n }
                | 'C' => takeLinesOptions steps rest { o with callback := some value }
                | _ => numbered "invalid callback quantum" fun n => { o with quantum := n }
      | _ => .ok { o with name := argument }

/-- Read all lines into a list. -/
def mapfileCommand (perform : Perform) (command : String) (arguments : List String) :
    Run Nat := do
  match takeLinesOptions (arguments.length + 1) arguments {} with
  | .error text =>
      discard (refuse command text)
      if text.startsWith "-" then return ← showUsage command
      return 1
  | .ok o =>
      if !isVariableName o.name then return ← refuseName command o.name
      if (← openFile? o.stream).isNone then
        return ← refuse command
          (toString o.stream ++ ": invalid file descriptor: Bad file descriptor")
      let name := (← aim o.name).1
      let v ← changeable name
      let kept := match o.origin, v.value with
        | some _, .list false entries => entries
        | _, _ => []
      storeVariable name { v with value := .list false kept, isBare := false }
      let mut place := o.origin.getD 0
      for i in [0:rounds] do
        if o.limit ≠ 0 ∧ o.skipped + o.limit ≤ i then return 0
        let (line, complete) ← readLine o.stream true o.delimiter none
        if line.isEmpty ∧ !complete then return 0
        if o.skipped ≤ i then
          let text := textOfMarked line
            ++ if complete && !o.trims then String.singleton o.delimiter else ""
          match o.callback with
          | some callback =>
              if (i + 1 - o.skipped) % o.quantum = 0 then
                let script := callback ++ " " ++ toString place ++ " " ++ reusable text
                discard (perform (.script script (← shell).line true false))
          | none => pure ()
          storeAt name (toString place) text
          place := place + 1
      return 0

/-! ### Options of a script -/

/-- What is found where an option may stand. -/
inductive OptionFound where
  | none
  | letter (c : Char) (rest : List Char)

/-- Whether a letter is an option, and whether it takes a value. -/
def optionKind? (c : Char) : List Char → Option Bool
  | [] => .none
  | ':' :: ds => optionKind? c ds
  | d :: ds => if c = d then some (ds.head? = some ':') else optionKind? c ds

/-- Find the next option of some arguments. -/
def getoptsCommand (arguments : List String) : Run Nat := do
  match arguments with
  | letters :: name :: given =>
      let sh ← shell
      let given := if given.isEmpty then sh.arguments else given
      let quiet := letters.startsWith ":"
      let index := sh.optionNext
      let within := if index ≤ 1 ∨ sh.optionPlace = 0 then []
        else ((given[index - 2]?).getD "").toList.drop sh.optionPlace
      let store (name text : String) : Run Unit := do
        let v ← changeable name
        storeVariable name { v with value := .text text }
      let finish (index place : Nat) (value : String) (status : Nat) : Run Nat := do
        store "OPTIND" (toString index)
        modifyShell fun sh => { sh with optionPlace := place, optionNext := index }
        if !isVariableName name then
          return ← refuse "getopts" (name ++ ": bad variable name")
        assign name value
        return status
      let (index, found) := match within with
        | c :: rest => (index, OptionFound.letter c rest)
        | [] => match given[index - 1]? with
          | some argument => match argument.toList with
            | ['-', '-'] => (index + 1, .none)
            | '-' :: c :: rest => (index + 1, .letter c rest)
            | _ => (index, .none)
          | none => (index, .none)
      match found with
      | .none => finish index 0 "?" 1
      | .letter c rest =>
          let size := ((given[index - 2]?).getD "").length
          let place := size - rest.length
          let say (plain extended : String) : Run Unit := do
            if sh.dialect = .extended then
              if (← lookup? "OPTERR") ≠ some "0" then
                complain (sh.name ++ ": " ++ extended ++ " -- " ++ String.singleton c ++ "\n")
            else complain (plain ++ "\n")
          let bad (value : String) (plain extended : String) (index place : Nat) : Run Nat := do
            if quiet then assign "OPTARG" (String.singleton c)
            else
              say plain extended
              unsetVariable "OPTARG"
            finish index place (if quiet then value else "?") 0
          match optionKind? c letters.toList with
          | .none =>
              bad "?" ("Illegal option -" ++ String.singleton c) "illegal option" index place
          | some false =>
              assign "OPTARG" ""
              finish index place (String.singleton c) 0
          | some true =>
              if rest.isEmpty then
                match given[index - 1]? with
                | some value =>
                    assign "OPTARG" value
                    finish (index + 1) 0 (String.singleton c) 0
                | none =>
                    bad ":" ("No arg for -" ++ String.singleton c ++ " option")
                      "option requires an argument" index place
              else
                assign "OPTARG" (String.ofList rest)
                finish index 0 (String.singleton c) 0
  | _ =>
      if (← shell).dialect = .extended then return ← showUsage "getopts"
      refuse "getopts" "Usage: getopts optstring var [arg...]"

end ToyLang.Shell
