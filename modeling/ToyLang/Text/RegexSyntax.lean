import ToyLang.Text.Regex

/-!
# How regular expressions are written

There are two ways to write regular expressions.  In the basic one, the marks for groups, counts
and alternatives stand behind a backslash, and in the extended one they stand alone.

## Main definitions

* `RegexStyle` — how an expression is written.
* `Regex.read?`, `Regex.ofText?` — the expression that a text spells.
-/

namespace ToyLang.Text

/-- How an expression is written. -/
structure RegexStyle where
  extended : Bool
  /-- Whether a mark for a repetition is refused where there is nothing to repeat, and where its
  bounds are none; in the basic style also behind another such mark. -/
  strict : Bool := false
  /-- Whether letters behind a backslash are nothing but themselves. -/
  plain : Bool := false
  /-- Whether a bracket that closes no group is refused. -/
  paired : Bool := false
  /-- Whether a set is refused that looks like a class whose own brackets are missing. -/
  marked : Bool := false
  /-- Whether characters are bytes, so that all of them have an order. -/
  bytewise : Bool := false

/-- What is left of an expression, and the number of groups so far. -/
structure RegexReader where
  rest : List Char
  groups : Nat := 0
  /-- The groups that are open. -/
  opened : Nat := 0
  /-- What is strange about the expression, the last first. -/
  warnings : List String := []

/-- Actions that read an expression. -/
abbrev ReadRegex := EStateM String RegexReader

namespace RegexReader

/-- Refuse an expression. -/
def refuse {α : Type} (text : String) : ReadRegex α := throw text

/-- Say that a mark for a repetition has nothing in front of it. -/
def warnAtStart (mark : String) : ReadRegex Unit :=
  modify fun r => { r with warnings := (mark ++ " at start of expression") :: r.warnings }

/-- Drop some characters. -/
def drop (n : Nat) : ReadRegex Unit := modify fun r => { r with rest := r.rest.drop n }

/-- The longest name of a character in a set. -/
def longestSetName : Nat := 32

/-- Take a character that stands between two marks, behind the first of them.  Characters have no
names but themselves. -/
def takeNamed (mark : Char) (cs : List Char) : Except String (Char × List Char) :=
  let rec upTo : (steps : Nat) → List Char → List Char → Option (List Char × List Char)
    | 0, _, _ | _, _, [] | _, _, [_] => none
    | steps + 1, name, c :: d :: rest =>
        if c = mark ∧ d = ']' then some (name.reverse, rest)
        else upTo steps (c :: name) (d :: rest)
  match upTo longestSetName [] cs with
  | none => .error "Unmatched [, [^, [:, [., or [="
  | some ([c], rest) =>
      if c.toNat < 0x80 then .ok (c, rest) else .error "Invalid collation character"
  | some _ => .error "Invalid collation character"

/-- What is said of a set that looks like a class whose own brackets are missing. -/
def bareClassText : String := "character class syntax is [[:space:]], not [:space:]"

/-- Whether the text of a set looks like a class whose own brackets are missing. -/
def isBareClass (items : List CharItem) (text : List Char) : Bool :=
  let isOne : CharItem → Bool
    | .range c d => c = d
    | .cls _ => false
  text.head? = some ':' && text.getLast? = some ':' && items.all isOne && text.any (· ≠ ':')

/-- Take the members of a set up to its closing bracket, which may stand first as a member.  Each
step takes at least one character. -/
def takeMembers (style : RegexStyle) : (steps : Nat) → (first : Bool) → List Char →
    Except String (List CharItem × List Char)
  | _, true, [] => .error "Invalid regular expression"
  | 0, _, _ | _, _, [] => .error "Unmatched [, [^, [:, [., or [="
  | steps + 1, first, c :: cs =>
      let plain (c : Char) (cs : List Char) : Except String (List CharItem × List Char) :=
        match cs with
        | '-' :: d :: rest =>
            if d = ']' then (takeMembers style steps false cs).map fun (more, left) =>
              (.range c c :: more, left)
            else
              let high := match d, rest with
                | '[', '.' :: rest => takeNamed '.' rest
                | '[', ':' :: _ | '[', '=' :: _ => .error "Invalid range end"
                | d, rest => .ok (d, rest)
              match high with
              | .error text => .error text
              | .ok (d, rest) =>
                  if !style.bytewise ∧ (0x80 ≤ c.toNat ∨ 0x80 ≤ d.toNat) then
                    .error "Invalid collation character"
                  else if d < c then .error "Invalid range end"
                  else (takeMembers style steps false rest).map fun (more, left) =>
                    (.range c d :: more, left)
        | cs => (takeMembers style steps false cs).map fun (more, left) => (.range c c :: more, left)
      -- A class bounds no range.
      let item (i : CharItem) (cs : List Char) : Except String (List CharItem × List Char) :=
        match cs with
        | '-' :: d :: _ =>
            if d = ']' then (takeMembers style steps false cs).map fun (more, left) =>
              (i :: more, left)
            else .error "Invalid range end"
        | cs => (takeMembers style steps false cs).map fun (more, left) => (i :: more, left)
      if c = ']' ∧ !first then .ok ([], cs)
      else match c, cs with
        | '[', ':' :: cs =>
            let name := cs.takeWhile (· ≠ ':')
            match cs.drop name.length with
            | ':' :: ']' :: cs =>
                if classNames.contains (String.ofList name) then item (.cls (String.ofList name)) cs
                else .error "Invalid character class name"
            | _ => .error "Unmatched [, [^, [:, [., or [="
        | '[', '=' :: cs =>
            match takeNamed '=' cs with
            | .ok (d, cs) => item (.range d d) cs
            | .error text => .error text
        | '[', '.' :: cs =>
            match takeNamed '.' cs with
            | .ok (d, cs) => plain d cs
            | .error text => .error text
        | c, cs => plain c cs

/-- Read a set behind its opening bracket. -/
def readSet (style : RegexStyle) : ReadRegex Regex := do
  let cs := (← get).rest
  let (negated, cs) := match cs with
    | '^' :: cs => (true, cs)
    | cs => (false, cs)
  match takeMembers style (cs.length + 1) true cs with
  | .error text => refuse text
  | .ok (items, rest) =>
      modify fun r => { r with rest := rest }
      let inner := cs.take (cs.length - rest.length)
      if style.marked && isBareClass items inner.dropLast then refuse bareClassText
      return .set negated items

/-- The number that digits spell at the start of some characters. -/
def takeDigits (cs : List Char) : Option Nat × List Char :=
  let digits := cs.takeWhile Char.isDigit
  (if digits.isEmpty then none else some (Nat.ofDigitChars 10 digits 0), cs.drop digits.length)

/-- The bounds of a count, behind its opening brace, and what is left. -/
def takeBounds (extended : Bool) (cs : List Char) : Option (Nat × Option Nat × List Char) :=
  let close : List Char → Option (List Char)
    | '\x7d' :: cs => if extended then some cs else none
    | '\\' :: '\x7d' :: cs => if extended then none else some cs
    | _ => none
  let (least, cs) := takeDigits cs
  match cs with
  | ',' :: cs =>
      let (most, cs) := takeDigits cs
      (close cs).map fun cs => (least.getD 0, most, cs)
  | cs => least.bind fun n => (close cs).map fun cs => (n, some n, cs)

/-- What is wrong with bounds that are none: nothing closes them, or they are no numbers. -/
def boundsFault (cs : List Char) : String :=
  let stops (c : Char) : Bool := c = ',' || c = '\x7d'
  let first := cs.takeWhile fun c => !stops c
  let closed := match cs.drop first.length with
    | [] => false
    | ',' :: rest => !first.all Char.isDigit || rest.any stops
    | _ => true
  if closed then "Invalid content of \\\x7b\\\x7d" else "Unmatched \\\x7b"

/-- What a brace means behind which no bounds are: itself in the extended style, unless that is
strict. -/
def badBounds (style : RegexStyle) (r : Regex) (cs : List Char) : ReadRegex Regex :=
  if style.extended && !style.strict then return r else refuse (boundsFault cs)

/-- The most often that a part may be repeated. -/
def mostRepeats : Nat := 32767

/-- Apply the marks for repetitions that follow a part. -/
def readRepeats (style : RegexStyle) : (steps : Nat) → Regex → ReadRegex Regex
  | 0, r => return r
  | steps + 1, r => do
      let goOn (r : Regex) : ReadRegex Regex := do
        if style.strict ∧ !style.extended then
          match (← get).rest with
          | '*' :: _ | '\\' :: '\x7b' :: _ => refuse "Invalid preceding regular expression"
          | _ => pure ()
        readRepeats style steps r
      let again (r : Regex) (n : Nat) : ReadRegex Regex := do
        drop n
        goOn r
      let counted (cs : List Char) : ReadRegex Regex := do
        match takeBounds style.extended cs with
        | some (least, most, rest) =>
            if most.any (· < least) then refuse "Invalid content of \\\x7b\\\x7d"
            if mostRepeats < most.getD least then refuse "Regular expression too big"
            modify fun s => { s with rest := rest }
            goOn (.rep r least most)
        | none => badBounds style r cs
      match style.extended, (← get).rest with
      | _, '*' :: _ => again (.rep r 0 none) 1
      | true, '+' :: _ => again (.rep r 1 none) 1
      | true, '?' :: _ => again (.rep r 0 (some 1)) 1
      | true, '\x7b' :: cs => counted cs
      | false, '\\' :: '+' :: _ => if style.plain then return r else again (.rep r 1 none) 2
      | false, '\\' :: '?' :: _ => if style.plain then return r else again (.rep r 0 (some 1)) 2
      | false, '\\' :: '\x7b' :: cs => counted cs
      | _, _ => return r

/-- The characters of a word, and all others. -/
def wordSet (negated : Bool) : Regex := .set negated [.cls "alnum", .range '_' '_']

/-- What a letter behind a backslash stands for, unless it is a mark of the style. -/
def escaped (style : RegexStyle) (c : Char) : ReadRegex Regex := do
  if style.plain ∧ !c.isDigit then return .char c
  match c with
  | 'w' => return wordSet false
  | 'W' => return wordSet true
  | 's' => return .set false [.cls "space"]
  | 'S' => return .set true [.cls "space"]
  | 'b' => return .wordEdge
  | 'B' => return .wordInside
  | '<' => return .wordStart
  | '>' => return .wordEnd
  | '\x60' => return .textStart
  | '\'' => return .textEnd
  | c =>
      if c.isDigit ∧ c ≠ '0' then
        let number := c.toNat - '0'.toNat
        if (← get).groups < number then refuse "Invalid back reference"
        return .back number
      return .char c

/-- Whether an expression is for a place between characters. -/
def isPlace : Regex → Bool
  | .wordEdge | .wordInside | .wordStart | .wordEnd | .textStart | .textEnd => true
  | _ => false

/-- Whether a branch ends here. -/
def atBranchEnd (style : RegexStyle) (opened : Nat) : List Char → Bool
  | [] => true
  | '|' :: _ => style.extended
  | ')' :: _ => style.extended && opened ≠ 0
  | '\\' :: '|' :: _ => !style.extended && !style.plain
  | '\\' :: ')' :: _ => !style.extended && (opened ≠ 0 || !style.plain)
  | _ => false

/-- Read one part without what repeats it.  `whole` reads an expression in a group, and `start`
says that a branch begins here. -/
def readPart (style : RegexStyle) (whole : ReadRegex Regex) (start : Bool) :
    ReadRegex (Regex × Bool) := do
  let inGroup (size : Nat) : ReadRegex (Regex × Bool) := do
    drop size
    let number := (← get).groups + 1
    modify fun r => { r with groups := number, opened := r.opened + 1 }
    let r ← whole
    match style.extended, (← get).rest with
    | true, ')' :: _ => drop 1
    | false, '\\' :: ')' :: _ => drop 2
    | _, _ => refuse "Unmatched ( or \\("
    modify fun r => { r with opened := r.opened - 1 }
    return (.group number r, true)
  let one (r : Regex) (size : Nat) : ReadRegex (Regex × Bool) := do
    drop size
    return (r, true)
  match (← get).rest with
  | [] => return (.empty, false)
  | '\\' :: [] => refuse "Trailing backslash"
  | '\\' :: '(' :: _ => if style.extended then one (.char '(') 2 else inGroup 2
  | '\\' :: c :: _ =>
      let marksPlace := ['<', '>', '\x60', '\''].contains c
      if style.extended ∧ !(c.isAlphanum || marksPlace) then one (.char c) 2
      else if !style.extended ∧ c = '\x7b' then
        if start ∧ !style.strict then one (.char '\x7b') 2
        else refuse "Invalid preceding regular expression"
      else do
        let r ← escaped style c
        drop 2
        return (r, !(style.strict && isPlace r))
  | '[' :: _ =>
      drop 1
      return (← readSet style, true)
  | '.' :: _ => one .any 1
  | '(' :: _ => if style.extended then inGroup 1 else one (.char '(') 1
  | '^' :: rest =>
      if style.extended then
        match rest with
        | '*' :: _ => warnAtStart "*"
        | '+' :: _ => warnAtStart "+"
        | '?' :: _ => warnAtStart "?"
        | '\x7b' :: more => if (takeBounds true more).isSome then warnAtStart "\x7b...\x7d"
        | _ => pure ()
      if style.extended ∨ start then
        -- In the basic style a star behind this mark stands for itself.
        drop 1
        return (.atStart, style.extended && !style.strict)
      else one (.char '^') 1
  | '$' :: rest =>
      if style.extended ∨ atBranchEnd style (← get).opened rest then
        drop 1
        return (.atEnd, !style.strict)
      else one (.char '$') 1
  | c :: cs =>
      let bounds := if c = '\x7b' then takeBounds true cs else none
      let opens := bounds.isSome || (style.strict && c = '\x7b')
      if style.extended ∧ (c = '*' ∨ c = '+' ∨ c = '?' ∨ opens) then
        if style.strict then refuse "Invalid preceding regular expression"
        match bounds with
        | some (_, _, rest) =>
            warnAtStart "\x7b...\x7d"
            modify fun r => { r with rest := rest }
        | none =>
            warnAtStart (String.singleton c)
            drop 1
        return (.empty, false)
      else if c = ')' ∧ style.extended ∧ style.paired then refuse "Unmatched ) or \\)"
      else one (.char c) 1

/-- Read a branch: parts one behind the other. -/
def readBranch (style : RegexStyle) (whole : ReadRegex Regex) :
    (steps : Nat) → (start : Bool) → ReadRegex Regex
  | 0, _ => return .empty
  | steps + 1, start => do
      let r ← get
      if atBranchEnd style r.opened r.rest then
        if !style.extended ∧ r.opened = 0 ∧ r.rest.take 2 = ['\\', ')'] then
          refuse "Unmatched ) or \\)"
        return .empty
      let (part, repeatable) ← readPart style whole start
      let part ← if repeatable then readRepeats style (r.rest.length + 1) part else pure part
      let rest ← readBranch style whole steps (start && part matches .empty)
      match part, rest with
      | .empty, rest => return rest
      | part, .empty => return part
      | part, rest => return .seq part rest

/-- Read branches with marks between them. -/
def readBranches (style : RegexStyle) (whole : ReadRegex Regex) : (steps : Nat) → ReadRegex Regex
  | 0 => return .empty
  | steps + 1 => do
      let first ← readBranch style whole ((← get).rest.length + 1) true
      match style.extended, (← get).rest with
      | true, '|' :: _ =>
          drop 1
          return .alt first (← readBranches style whole steps)
      | false, '\\' :: '|' :: _ =>
          drop 2
          return .alt first (← readBranches style whole steps)
      | _, _ => return first

/-- Read an expression; `depth` bounds how deep groups nest. -/
def readWhole (style : RegexStyle) : (depth : Nat) → ReadRegex Regex
  | 0 => refuse "Regular expression too big"
  | depth + 1 => do
      readBranches style (readWhole style depth) ((← get).rest.length + 1)

end RegexReader

/-- How deep groups may nest. -/
def regexDepth : Nat := 200

/-- The expression that a text spells, with the number of its groups and what is strange about
it. -/
def Regex.read? (style : RegexStyle) (text : String) : Except String (Regex × Nat × List String) :=
  match (RegexReader.readWhole style regexDepth).run { rest := text.toList } with
  | .ok r state =>
      match state.rest with
      | [] => .ok (r, state.groups, state.warnings.reverse)
      | _ => .error "Unmatched ) or \\)"
  | .error text _ => .error text

/-- The expression that a text spells, with the number of its groups. -/
def Regex.ofText? (style : RegexStyle) (text : String) : Except String (Regex × Nat) :=
  (Regex.read? style text).map fun (r, groups, _) => (r, groups)

end ToyLang.Text
