import ToyLang.Text.OrderedRegex
import ToyLang.Text.RegexSyntax

/-!
# How ordered expressions are written

In this way to write regular expressions, letters behind a backslash stand for classes, places and
references, and a question mark behind an opening bracket makes the group a special one.

## Main definitions

* `OrderedRegex.ofText?` — the expression that a text spells.
-/

namespace ToyLang.Text

/-- What holds up to the end of a group. -/
structure OrderedFlags where
  /-- Whether upper and lower case count as the same. -/
  fold : Bool := false
  /-- Whether lines within the text have starts and ends. -/
  lines : Bool := false
  /-- Whether a point stands for a line break too. -/
  breaks : Bool := false
  /-- Whether blanks and comments are passed over. -/
  spaced : Bool := false
  /-- Whether repetitions take little unless they are marked. -/
  little : Bool := false

/-- What is left of an expression, and what is known of its groups. -/
structure OrderedReader where
  rest : List Char
  groups : Nat := 0
  names : List (String × Nat) := []
  flags : OrderedFlags := {}
  /-- The names that are referred to, which may come later, with the numbers given to them. -/
  wanted : List (String × Nat) := []

/-- Actions that read an expression. -/
abbrev ReadOrdered := EStateM String OrderedReader

/-- The numbers from which those stand for names that come later. -/
def firstNameNumber : Nat := 100000

/-- What stands behind a backslash. -/
inductive OrderedEscape where
  | char (c : Char)
  | cls (name : String) (negated : Bool)
  | part (r : OrderedRegex)
  deriving Inhabited

namespace OrderedReader

/-- What is left to read. -/
def rest' : ReadOrdered (List Char) := return (← get).rest

/-- Go on with some characters. -/
def goOn (cs : List Char) : ReadOrdered Unit := modify fun r => { r with rest := cs }

/-- Take the characters up to a mark, and the mark. -/
def takeUpTo? (stop : Char) (cs : List Char) : Option (String × List Char) :=
  let name := cs.takeWhile (· ≠ stop)
  match cs.drop name.length with
  | _ :: rest => some (String.ofList name, rest)
  | [] => none

/-- Whether a character may stand in a name. -/
def isNameChar (c : Char) : Bool := c.isAlphanum || c = '_'

/-- Take a name up to a mark. -/
def takeName (stop : Char) (cs : List Char) : ReadOrdered String := do
  let name := cs.takeWhile isNameChar
  let rest := cs.drop name.length
  if name.isEmpty then throw "subpattern name expected"
  if name.head?.any Char.isDigit then throw "subpattern name must start with a non-digit"
  if rest.head? ≠ some stop then throw "syntax error in subpattern name (missing terminator?)"
  goOn (rest.drop 1)
  return String.ofList name

/-- The number that a name refers to. -/
def numberOfName (name : String) : ReadOrdered Nat := do
  let r ← get
  match (r.names.lookup name).orElse fun _ => r.wanted.lookup name with
  | some n => return n
  | none =>
      let n := firstNameNumber + r.wanted.length
      set { r with wanted := (name, n) :: r.wanted }
      return n

/-- The digits at the start of some characters as a number, and what is left. -/
def takeNumber? (cs : List Char) : Option (Nat × List Char) :=
  let digits := cs.takeWhile Char.isDigit
  if digits.isEmpty then none
  else some (Nat.ofDigitChars 10 digits 0, cs.drop digits.length)

/-- The number of a group, which may be counted from the place where it is written. -/
def takeGroupNumber? (groups : Nat) : List Char → Option (Nat × List Char)
  | '-' :: cs => (takeNumber? cs).map fun (n, cs) =>
      (if n = 0 ∨ groups < n then firstNameNumber else groups + 1 - n, cs)
  | '+' :: cs => (takeNumber? cs).map fun (n, cs) => (groups + n, cs)
  | cs => takeNumber? cs

/-- The value of digits. -/
def digitsValue (base : Nat) (digits : List Char) : Nat :=
  digits.foldl (fun n c => n * base +
    (if c.isDigit then c.toNat - '0'.toNat else c.toLower.toNat - 'a'.toNat + 10)) 0

/-- Whether a character is a hexadecimal digit. -/
def isHex (c : Char) : Bool := isInClass "xdigit" c

/-- Whether a character is an octal digit. -/
def isOctal (c : Char) : Bool := '0' ≤ c && c ≤ '7'

/-- The class of a property, by its name. -/
def propertyClass? (name : String) : Option String :=
  [("L", "letter"), ("L&", "letter"), ("Lu", "upperLetter"), ("Ll", "lowerLetter"),
    ("Lo", "letter"), ("N", "number"), ("Nd", "number"), ("P", "mark"), ("Po", "mark"),
    ("S", "sign"), ("Z", "separator"), ("Zs", "separator"), ("C", "control"), ("Cc", "control"),
    ("Any", "any"), ("Xan", "alnum"), ("Xwd", "word"), ("Xsp", "space"),
    ("Xps", "space")].lookup name

/-- Read a property behind its letter. -/
def readProperty (negated : Bool) (cs : List Char) : ReadOrdered OrderedEscape := do
  let (name, rest) ← match cs with
    | '\x7b' :: cs => match takeUpTo? '\x7d' cs with
      | some found => pure found
      | none => throw "malformed \\P or \\p sequence"
    | c :: cs => pure (String.singleton c, cs)
    | [] => throw "malformed \\P or \\p sequence"
  goOn rest
  let (turned, name) := match name.toList with
    | '^' :: cs => (true, String.ofList cs)
    | _ => (false, name)
  match propertyClass? name with
  | some found => return .cls found (negated != turned)
  | none => throw "unknown property after \\P or \\p"

/-- The character with a code, if there is one. -/
def charOfCode (code : Nat) : ReadOrdered Char := do
  if 0x10ffff < code then throw "character code point value in \\x\x7b\x7d or \\o\x7b\x7d is too large"
  if 0xd800 ≤ code ∧ code ≤ 0xdfff then
    throw "disallowed Unicode code point (>= 0xd800 && <= 0xdfff)"
  return Char.ofNat code

/-- Read a code between braces, behind the first of them. -/
def readBraced (base : Nat) (isDigit : Char → Bool) (cs : List Char) : ReadOrdered Char := do
  let digits := cs.takeWhile isDigit
  if cs.isEmpty ∨ (digits.isEmpty ∧ cs.head? = some '\x7d') then
    throw "digits missing in \\x\x7b\x7d or \\o\x7b\x7d or \\N\x7bU+\x7d"
  match cs.drop digits.length with
  | '\x7d' :: rest =>
      goOn rest
      charOfCode (digitsValue base digits)
  | _ =>
      if base = 16 then throw "non-hex character in \\x\x7b\x7d (closing brace missing?)"
      else throw "non-octal character in \\o\x7b\x7d (closing brace missing?)"

/-- Read a code of a character behind its letter. -/
def readCode (base : Nat) (isDigit : Char → Bool) (most : Nat) (cs : List Char) :
    ReadOrdered OrderedEscape := do
  match cs with
  | '\x7b' :: cs => return .char (← readBraced base isDigit cs)
  | cs =>
      let digits := (cs.take most).takeWhile isDigit
      goOn (cs.drop digits.length)
      return .char (← charOfCode (digitsValue base digits))

/-- What is wrong with a reference that has no form of its own. -/
def badReference : String :=
  "\\g is not followed by a braced, angle-bracketed, or quoted name/number or by a plain number"

/-- The number of a group as a reference, which must not be the whole expression. -/
def referenceTo (n : Nat) : ReadOrdered Nat :=
  if n = 0 then throw "reference to non-existent subpattern" else return n

/-- Read a reference to a group behind its letter. -/
def readReference (cs : List Char) : ReadOrdered OrderedEscape := do
  let r ← get
  let part (n : Nat) : ReadOrdered OrderedEscape := return .part (.back r.flags.fold (← referenceTo n))
  match cs with
  | '\x7b' :: cs =>
      match takeGroupNumber? r.groups cs with
      | some (n, '\x7d' :: rest) =>
          goOn rest
          part n
      | some _ => throw badReference
      | none => part (← numberOfName (← takeName '\x7d' cs))
  | mark :: cs' =>
      if mark = '<' ∨ mark = '\'' then
        let stop := if mark = '<' then '>' else mark
        match takeGroupNumber? r.groups cs' with
        | some (n, c :: rest) =>
            if c ≠ stop then throw badReference
            goOn rest
            return .part (.call n)
        | some _ => throw badReference
        | none => return .part (.call (← numberOfName (← takeName stop cs')))
      match takeGroupNumber? r.groups cs with
      | some (n, rest) =>
          goOn rest
          part n
      | none => throw badReference
  | [] => throw badReference

/-- The classes that letters stand for. -/
def letterClasses : List (Char × String) :=
  [('d', "digit"), ('w', "word"), ('s', "space"), ('h', "horizontal"), ('v', "vertical")]

/-- The characters that letters stand for. -/
def letterChars : List (Char × Char) :=
  [('a', '\x07'), ('e', '\x1b'), ('f', '\x0c'), ('n', '\n'), ('r', '\x0d'), ('t', '\t')]

/-- A line break of any kind. -/
def anyBreak : OrderedRegex :=
  .once (.alt (.seq (.char false '\x0d') (.char false '\n')) (.set false false [.cls "vertical" false]))

/-- The places and parts that letters stand for. -/
def letterPart? (c : Char) : Option OrderedRegex :=
  match c with
  | 'b' => some (.wordEdge false)
  | 'B' => some (.wordEdge true)
  | 'A' => some (.atStart false)
  | 'Z' => some (.atEnd false)
  | 'z' => some .textEnd
  | 'G' => some .searchStart
  | 'K' => some .keep
  | 'R' => some anyBreak
  | 'N' => some (.any false)
  | 'X' | 'C' => some (.any true)
  | _ => none

/-- What is said of letters behind a backslash that are used elsewhere only. -/
def unknownLetter : String :=
  "PCRE2 does not support \\F, \\L, \\l, \\N\x7bname\x7d, \\U, or \\u"

/-- The bounds of a repetition behind its opening brace. -/
def takeBounds? (cs : List Char) : Option (Nat × Option Nat × List Char) := do
  let (least, cs) ← takeNumber? cs
  match cs with
  | '\x7d' :: rest => some (least, some least, rest)
  | ',' :: '\x7d' :: rest => some (least, none, rest)
  | ',' :: cs =>
      let (most, cs) ← takeNumber? cs
      match cs with
      | '\x7d' :: rest => some (least, some most, rest)
      | _ => none
  | _ => none

/-- Read what stands behind a backslash. -/
def readEscape (inSet : Bool) : ReadOrdered OrderedEscape := do
  let r ← get
  match r.rest with
  | [] => throw "\\ at end of pattern"
  | c :: cs =>
      goOn cs
      if let some name := letterClasses.lookup c then return .cls name false
      if let some name := letterClasses.lookup c.toLower then return .cls name true
      if let some d := letterChars.lookup c then return .char d
      if inSet && c = 'b' then return .char '\x08'
      let bounds := cs.head? = some '\x7b' && (takeBounds? (cs.drop 1)).isSome
      if c = 'N' && cs.head? = some '\x7b' && !bounds then
        match cs.drop 1 with
        | 'U' :: '+' :: cs => return .char (← readBraced 16 isHex cs)
        | _ => throw unknownLetter
      if let some part := letterPart? c then
        if inSet && c = 'N' then throw "\\N is not supported in a class"
        if inSet then throw "escape sequence is invalid in character class"
        return .part part
      match c with
      | 'p' => readProperty false cs
      | 'P' => readProperty true cs
      | 'x' => readCode 16 isHex 2 cs
      | 'o' =>
          if cs.head? ≠ some '\x7b' then throw "missing opening brace after \\o"
          readCode 8 isOctal 0 cs
      | 'c' => match cs with
          | d :: rest =>
              if d < ' ' ∨ '~' < d then
                throw "\\c must be followed by a printable ASCII character"
              goOn rest
              return .char (Char.ofNat (d.toUpper.toNat ^^^ 0x40))
          | [] => throw "\\c at end of pattern"
      | '0' => readCode 8 isOctal 3 (c :: cs)
      | 'g' =>
          if inSet then throw "escape sequence is invalid in character class"
          readReference cs
      | 'k' => match cs with
          | '\x7b' :: cs => return .part (.back r.flags.fold (← numberOfName (← takeName '\x7d' cs)))
          | '<' :: cs => return .part (.back r.flags.fold (← numberOfName (← takeName '>' cs)))
          | '\'' :: cs => return .part (.back r.flags.fold (← numberOfName (← takeName '\'' cs)))
          | _ => throw "\\k is not followed by a braced, angle-bracketed, or quoted name"
      | c =>
          if c.isDigit then
            let digits := (c :: cs).takeWhile Char.isDigit
            let n := Nat.ofDigitChars 10 digits 0
            if !inSet && (n < 10 || n ≤ r.groups) then
              goOn ((c :: cs).drop digits.length)
              return .part (.back r.flags.fold n)
            if isOctal c then return ← readCode 8 isOctal 3 (c :: cs)
            return .char c
          if "FLlUu".toList.contains c then throw unknownLetter
          if c.isAlpha then throw "unrecognized character follows \\"
          return .char c

/-! ### Sets -/

/-- Whether a mark and a closing bracket come before any other bracket. -/
def endsWithMark (mark : Char) : List Char → Bool
  | [] | [_] => false
  | '\\' :: '\\' :: cs | '\\' :: ']' :: cs => endsWithMark mark cs
  | c :: d :: cs =>
      if c = ']' ∨ (c = '[' ∧ d = mark) then false
      else c = mark && d = ']' || endsWithMark mark (d :: cs)

/-- The mark of the class, or other name, that starts here. -/
def namedMark? (cs : List Char) : Option Char :=
  match cs with
  | '[' :: mark :: cs => if [':', '.', '='].contains mark && endsWithMark mark cs then some mark else none
  | _ => none

/-- Read a class that stands between colons, behind the bracket and the first colon. -/
def readNamedClass (cs : List Char) : ReadOrdered OrderedItem := do
  let negated := cs.head? = some '^'
  let cs := if negated then cs.drop 1 else cs
  let name := cs.takeWhile Char.isAlpha
  let known := classNames ++ ["word", "ascii"]
  match cs.drop name.length with
  | ':' :: ']' :: rest =>
      if !known.contains (String.ofList name) then throw "unknown POSIX class name"
      goOn rest
      return .cls (String.ofList name) negated
  | _ => throw "unknown POSIX class name"

/-- Read the members of a set up to its closing bracket; each step takes a character at least. -/
def readMembers : (steps : Nat) → (first : Bool) → ReadOrdered (List OrderedItem)
  | 0, _ => throw "missing terminating ] for character class"
  | steps + 1, first => do
      let cs ← rest'
      match cs with
      | [] => throw "missing terminating ] for character class"
      | c :: rest =>
          if c = ']' && !first then
            goOn rest
            return []
          if let some mark := namedMark? cs then
            if mark ≠ ':' then throw "POSIX collating elements are not supported"
            let item ← readNamedClass (cs.drop 2)
            return item :: (← readMembers steps false)
          goOn rest
          let found ← if c = '\\' then readEscape true else pure (.char c)
          match found, ← rest' with
          | .char low, '-' :: high :: rest =>
              if high = ']' then return .range low low :: (← readMembers steps false)
              goOn rest
              let high ← if high = '\\' then readEscape true else pure (.char high)
              match high with
              | .char high =>
                  if high < low then throw "range out of order in character class"
                  return .range low high :: (← readMembers steps false)
              | _ => throw "invalid range in character class"
          | .char c, _ => return .range c c :: (← readMembers steps false)
          | .cls name negated, '-' :: high :: _ =>
              if high ≠ ']' then throw "invalid range in character class"
              return .cls name negated :: (← readMembers steps false)
          | .cls name negated, _ => return .cls name negated :: (← readMembers steps false)
          | .part _, _ => readMembers steps false

/-- Read a set behind its opening bracket. -/
def readSet : ReadOrdered OrderedRegex := do
  let cs ← rest'
  let negated : Bool := cs.head? = some '^'
  if negated then goOn (cs.drop 1)
  let items ← readMembers (cs.length + 1) true
  return .set (← get).flags.fold negated items

/-! ### Repetitions -/

/-- Pass over comments, and over blanks where they do not count. -/
def skipBlanks : ReadOrdered Unit := do
  let r ← get
  let skip (cs : List Char) : List Char :=
    let cs :=
      if r.flags.spaced then
        let cs := cs.dropWhile fun c => c = ' ' || ('\t' ≤ c && c ≤ '\r')
        if cs.head? = some '#' then (cs.dropWhile (· ≠ '\n')).drop 1 else cs
      else cs
    match cs with
    | '(' :: '?' :: '#' :: rest => ((takeUpTo? ')' rest).map Prod.snd).getD cs
    | cs => cs
  goOn (r.rest.length.repeat skip r.rest)

/-- The bounds of the repetition that starts here. -/
def takeRepeat? (cs : List Char) : Option (Nat × Option Nat × List Char) :=
  match cs with
  | '*' :: rest => some (0, none, rest)
  | '+' :: rest => some (1, none, rest)
  | '?' :: rest => some (0, some 1, rest)
  | '\x7b' :: rest => takeBounds? rest
  | _ => none

/-- Apply the mark for a repetition that follows a part. -/
def readRepeat (r : OrderedRegex) : ReadOrdered OrderedRegex := do
  skipBlanks
  match takeRepeat? (← rest') with
  | none => return r
  | some (least, most, rest) =>
      if 65535 < least || most.any (65535 < ·) then throw "number too big in \x7b\x7d quantifier"
      if most.any (· < least) then throw "numbers out of order in \x7b\x7d quantifier"
      let little := (← get).flags.little
      match rest with
      | '?' :: rest =>
          goOn rest
          return .rep r least most (if little then .most else .least)
      | '+' :: rest =>
          goOn rest
          return .once (.rep r least most .most)
      | rest =>
          goOn rest
          return .rep r least most (if little then .least else .most)

/-! ### Groups -/

/-- Take letters that set flags, and those behind a minus that clear them. -/
def takeFlags : (on : Bool) → OrderedFlags → List Char → OrderedFlags × List Char
  | _, f, [] => (f, [])
  | on, f, c :: cs =>
      match c with
      | '-' => takeFlags false f cs
      | 'U' => takeFlags on { f with little := on } cs
      | 'i' => takeFlags on { f with fold := on } cs
      | 'm' => takeFlags on { f with lines := on } cs
      | 's' => takeFlags on { f with breaks := on } cs
      | 'x' => takeFlags on { f with spaced := on } cs
      | 'n' | 'J' => takeFlags on f cs
      | c => (f, c :: cs)

/-- Read the closing bracket of a group. -/
def closeGroup : ReadOrdered Unit := do
  match ← rest' with
  | ')' :: rest => goOn rest
  | _ => throw "missing closing parenthesis"

/-- Read a group with a number. -/
def readNumbered (whole : ReadOrdered OrderedRegex) (name : Option String) :
    ReadOrdered OrderedRegex := do
  let r ← get
  let number := r.groups + 1
  if let some name := name then
    if (r.names.lookup name).isSome then
      throw "two named subpatterns have the same name (PCRE2_DUPNAMES not set)"
  set { r with
    groups := number
    names := (name.map fun name => (name, number)).toList ++ r.names }
  let found ← whole
  closeGroup
  modify fun s => { s with flags := r.flags }
  return .group number found

/-- Read a group without a number, and make something of it. -/
def readPlain (whole : ReadOrdered OrderedRegex) (rest : List Char)
    (make : OrderedRegex → OrderedRegex := id) : ReadOrdered OrderedRegex := do
  let flags := (← get).flags
  goOn rest
  let found ← whole
  closeGroup
  modify fun s => { s with flags := flags }
  return make found

/-- Read what looks behind. -/
def readBehind (whole : ReadOrdered OrderedRegex) (negated : Bool) (rest : List Char) :
    ReadOrdered OrderedRegex := do
  let found ← readPlain whole rest
  if !found.hasLengths then throw "lookbehind assertion is not fixed length"
  return .behind negated found

/-- The two branches behind a condition. -/
def readTwo (whole : ReadOrdered OrderedRegex) (cs : List Char) :
    ReadOrdered (OrderedRegex × OrderedRegex) := do
  match ← readPlain whole cs with
  | .alt _ (.alt _ _) => throw "conditional subpattern contains more than two branches"
  | .alt a b => return (a, b)
  | r => return (r, .empty)

/-- Read a group with a condition, behind the bracket that opens the condition. -/
def readChoice (whole : ReadOrdered OrderedRegex) (cs : List Char) : ReadOrdered OrderedRegex := do
  let byNumber (n : Nat) (rest : List Char) : ReadOrdered OrderedRegex := do
    let (yes, no) ← readTwo whole rest
    return .choose n yes no
  let byName (stop : Char) (cs : List Char) : ReadOrdered OrderedRegex := do
    let n ← numberOfName (← takeName stop cs)
    match ← rest' with
    | ')' :: rest => byNumber n rest
    | _ => throw "missing closing parenthesis for condition"
  let byLook (negated behind : Bool) (rest : List Char) : ReadOrdered OrderedRegex := do
    let look ← if behind then readBehind whole negated rest else readPlain whole rest
    let (yes, no) ← readTwo whole (← rest')
    return match look with
      | .behind _ r => .alt (.seq look yes) (.seq (.behind (!negated) r) no)
      | r => .alt (.seq (.ahead negated r) yes) (.seq (.ahead (!negated) r) no)
  match cs with
  | [] => throw "missing closing parenthesis"
  | '?' :: '=' :: rest => byLook false false rest
  | '?' :: '!' :: rest => byLook true false rest
  | '?' :: '<' :: '=' :: rest => byLook false true rest
  | '?' :: '<' :: '!' :: rest => byLook true true rest
  | 'R' :: ')' :: rest => byNumber 0 rest
  | '<' :: cs => byName '>' cs
  | '\'' :: cs => byName '\'' cs
  | 'D' :: 'E' :: 'F' :: 'I' :: 'N' :: 'E' :: ')' :: rest =>
      match ← readPlain whole rest with
      | .alt _ _ => throw "DEFINE subpattern contains more than one branch"
      | found => return .rep found 0 (some 0) .most
  | cs => match takeGroupNumber? (← get).groups cs with
    | some (n, ')' :: rest) => byNumber n rest
    | some _ => throw "missing closing parenthesis for condition"
    | none =>
        let n ← numberOfName (← takeName ')' cs)
        byNumber n (← rest')

/-- Read a group behind the bracket and the question mark that open it.  Flags alone are no
part. -/
def readSpecial (whole resets : ReadOrdered OrderedRegex) (cs : List Char) :
    ReadOrdered (Option OrderedRegex) := do
  let r ← get
  let calling (n : Nat) (rest : List Char) : ReadOrdered (Option OrderedRegex) := do
    goOn rest
    closeGroup
    return some (.call n)
  match cs with
  | ':' :: rest => some <$> readPlain whole rest
  | '|' :: rest => some <$> readPlain resets rest
  | '>' :: rest => some <$> readPlain whole rest .once
  | '=' :: rest => some <$> readPlain whole rest (.ahead false)
  | '!' :: rest => some <$> readPlain whole rest (.ahead true)
  | '#' :: _ => throw "missing ) after (?# comment"
  | 'C' :: cs =>
      let digits := cs.takeWhile Char.isDigit
      match cs.drop digits.length with
      | ')' :: rest =>
          if 255 < Nat.ofDigitChars 10 digits 0 then
            throw "number after (?C is greater than 255"
          goOn rest
          return none
      | _ => throw "missing closing parenthesis for (?C"
  | '<' :: '=' :: rest => some <$> readBehind whole false rest
  | '<' :: '!' :: rest => some <$> readBehind whole true rest
  | '<' :: rest | 'P' :: '<' :: rest => do
      let name ← takeName '>' rest
      some <$> readNumbered whole (some name)
  | '\'' :: rest => do
      let name ← takeName '\'' rest
      some <$> readNumbered whole (some name)
  | 'P' :: '=' :: rest => do
      let n ← numberOfName (← takeName ')' rest)
      return some (.back r.flags.fold n)
  | 'P' :: '>' :: rest | '&' :: rest => do
      let n ← numberOfName (← takeName ')' rest)
      return some (.call n)
  | 'P' :: _ :: _ => throw "unrecognized character after (?P"
  | 'P' :: [] => throw "missing closing parenthesis"
  | '*' :: rest => some <$> readPlain whole rest (.ahead false)
  | '(' :: rest => some <$> readChoice whole rest
  | 'R' :: ')' :: rest => calling 0 (')' :: rest)
  | 'R' :: _ =>
      throw "(?R (recursive pattern call) must be followed by a closing parenthesis"
  | '^' :: '-' :: _ => throw "invalid hyphen in option setting"
  | cs =>
      match takeGroupNumber? r.groups cs with
      | some (n, rest) => calling n rest
      | none =>
          let (flags, rest) := match cs with
            | '^' :: cs => takeFlags true {} cs
            | cs => takeFlags true r.flags cs
          match rest with
          | ')' :: rest =>
              set { r with rest := rest, flags := flags }
              return none
          | ':' :: rest =>
              modify fun s => { s with flags := flags }
              goOn rest
              let found ← whole
              closeGroup
              modify fun s => { s with flags := r.flags }
              return some found
          | [] => throw "missing closing parenthesis"
          | _ => throw "unrecognized character after (? or (?-"

/-- What words behind a star in a bracket mean. -/
def orderedCut? (word : String) : Option OrderedRegex :=
  match ((word.splitOn ":").head?).getD "" with
  | "F" | "FAIL" => some (.set false false [])
  | "ACCEPT" => some (.cut .rest)
  | "COMMIT" => some (.cut .search)
  | "PRUNE" => some (.cut .place)
  | "SKIP" => some (.cut .upToHere)
  | "THEN" => some (.cut .branch)
  | "MARK" | "" | "UTF" | "UCP" | "NO_START_OPT" | "NO_AUTO_POSSESS" => some .empty
  | _ => none

/-- Read what stands behind a bracket and a star: words in capitals, or what looks around. -/
def readWord (whole : ReadOrdered OrderedRegex) (cs : List Char) : ReadOrdered OrderedRegex := do
  if cs.head?.any Char.isLower then
    match takeUpTo? ':' cs with
    | some ("pla", rest) | some ("positive_lookahead", rest)
    | some ("napla", rest) => readPlain whole rest (.ahead false)
    | some ("nla", rest) | some ("negative_lookahead", rest) => readPlain whole rest (.ahead true)
    | some ("plb", rest) | some ("positive_lookbehind", rest)
    | some ("naplb", rest) => readBehind whole false rest
    | some ("nlb", rest) | some ("negative_lookbehind", rest) => readBehind whole true rest
    | some ("atomic", rest) => readPlain whole rest .once
    | some ("sr", rest) | some ("script_run", rest) => readPlain whole rest
    | _ => throw "(*alpha_assertion) not recognized"
  else match takeUpTo? ')' cs with
    | some (word, rest) =>
        match orderedCut? word with
        | some found =>
            goOn rest
            return found
        | none => throw "(*VERB) not recognized or malformed"
    | none => throw "(*VERB) not recognized or malformed"

/-- Whether a letter behind a backslash stands for a place, which cannot be repeated. -/
def isPlaceLetter (c : Char) : Bool := "bBAZzGK".toList.contains c

/-- Read one part without what repeats it, and say whether it can be repeated; marks that are no
part give none. -/
def readPart (whole resets : ReadOrdered OrderedRegex) :
    ReadOrdered (Option OrderedRegex × Bool) := do
  let r ← get
  match r.rest with
  | [] => return (none, false)
  | c :: rest =>
      if (takeRepeat? r.rest).isSome then throw "quantifier does not follow a repeatable item"
      goOn rest
      match c with
      | '\\' => match ← readEscape false with
          | .char c => return (some (.char r.flags.fold c), true)
          | .cls name negated => return (some (.set false negated [.cls name false]), true)
          | .part part => return (some part, !(rest.head?.any isPlaceLetter))
      | '[' =>
          match namedMark? r.rest with
          | some ':' => throw "POSIX named classes are supported only within a class"
          | some _ => throw "POSIX collating elements are not supported"
          | none => pure ()
          return (some (← readSet), true)
      | '.' => return (some (.any r.flags.breaks), true)
      | '^' => return (some (.atStart r.flags.lines), false)
      | '$' => return (some (.atEnd r.flags.lines), false)
      | '(' => match rest with
          | '?' :: rest => return (← readSpecial whole resets rest, true)
          | '*' :: d :: rest =>
              if d.isAlpha || d = ':' then return (some (← readWord whole (d :: rest)), d.isLower)
              return (some (← readNumbered whole none), true)
          | _ => return (some (← readNumbered whole none), true)
      | c => return (some (.char r.flags.fold c), true)

/-- Read a branch: parts one behind the other. -/
def readBranch (whole resets : ReadOrdered OrderedRegex) : (steps : Nat) → ReadOrdered OrderedRegex
  | 0 => return .empty
  | steps + 1 => do
      skipBlanks
      match ← rest' with
      | [] | '|' :: _ | ')' :: _ => return .empty
      | _ =>
          match ← readPart whole resets with
          | (none, _) => readBranch whole resets steps
          | (some part, repeatable) =>
              let part ← if repeatable then readRepeat part else pure part
              match ← readBranch whole resets steps with
              | .empty => return part
              | rest => return .seq part rest

/-- Read branches with marks between them.  Where groups have the same numbers in all of them, the
number of groups before them is given. -/
def readBranches (whole resets : ReadOrdered OrderedRegex) (start : Option Nat) :
    (steps : Nat) → ReadOrdered OrderedRegex
  | 0 => return .empty
  | steps + 1 => do
      if let some n := start then modify fun r => { r with groups := n }
      let first ← readBranch whole resets ((← rest').length + 1)
      let groups := (← get).groups
      match ← rest' with
      | '|' :: rest =>
          goOn rest
          let others ← readBranches whole resets start steps
          modify fun r => { r with groups := max r.groups groups }
          return .alt first others
      | _ => return first

/-- Read an expression; `depth` bounds how deep groups nest. -/
def readWhole : (depth : Nat) → (same : Bool) → ReadOrdered OrderedRegex
  | 0, _ => throw "parentheses are too deeply nested"
  | depth + 1, same => do
      let r ← get
      readBranches (readWhole depth false) (readWhole depth true)
        (if same then some r.groups else none) (r.rest.length + 1)

/-- Characters between marks for literal text, each behind a backslash if it may mean anything. -/
def quotedLiterally : (inside : Bool) → List Char → List Char
  | _, [] => []
  | false, '\\' :: 'Q' :: cs => quotedLiterally true cs
  | false, '\\' :: 'E' :: cs => quotedLiterally false cs
  | false, '\\' :: c :: cs => '\\' :: c :: quotedLiterally false cs
  | true, '\\' :: 'E' :: cs => quotedLiterally false cs
  | true, c :: cs =>
      if c.isAlphanum || 0x80 ≤ c.toNat then c :: quotedLiterally true cs
      else '\\' :: c :: quotedLiterally true cs
  | false, c :: cs => c :: quotedLiterally false cs

end OrderedReader

/-- Put numbers in the places of those that stand for names. -/
def OrderedRegex.named (number : Nat → Nat) : OrderedRegex → OrderedRegex
  | seq a b => .seq (a.named number) (b.named number)
  | alt a b => .alt (a.named number) (b.named number)
  | choose n a b => .choose (number n) (a.named number) (b.named number)
  | rep r least most greed => .rep (r.named number) least most greed
  | once r => .once (r.named number)
  | ahead negated r => .ahead negated (r.named number)
  | behind negated r => .behind negated (r.named number)
  | group n r => .group n (r.named number)
  | back fold n => .back fold (number n)
  | call n => .call (number n)
  | r => r

/-- The expression that a text spells. -/
def OrderedRegex.ofText? (flags : OrderedFlags) (text : String) : Except String OrderedRegex :=
  let cs := OrderedReader.quotedLiterally false text.toList
  match (OrderedReader.readWhole regexDepth false).run { rest := cs, flags := flags } with
  | .error fault _ => .error fault
  | .ok r state =>
      match state.rest with
      | _ :: _ => .error "unmatched closing parenthesis"
      | [] =>
          let number (n : Nat) : Nat :=
            match state.wanted.find? fun w => w.2 = n with
            | some (name, _) => (state.names.lookup name).getD firstNameNumber
            | none => n
          let r := r.named number
          if r.references.any (state.groups < ·) then
            .error "reference to non-existent subpattern"
          else .ok r

end ToyLang.Text
