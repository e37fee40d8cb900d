import ToyLang.Text.RegexSyntax

/-!
# Patterns in scripts on records

The regular expressions of scripts on records have alternatives, groups and repetitions, but no
counts and no references.  A backslash makes a letter a control character, or a number a code, and
takes the meaning from all else, in sets as well.

## Main definitions

* `recordEscape?` — what a backslash makes of the characters behind it.
* `recordRegex?` — the expression that a text spells.
-/

namespace ToyLang.Tools

open Text (Regex CharItem classNames)

/-- The characters that letters stand for behind a backslash. -/
def recordLetters : List (Char × Char) :=
  [('"', '"'), ('\\', '\\'), ('a', '\x07'), ('b', '\x08'), ('f', '\x0c'),
    ('n', '\n'), ('r', '\x0d'), ('t', '\t'), ('v', '\x0b')]

/-- The value of a digit. -/
def recordDigit (c : Char) : Nat :=
  if c.isDigit then c.toNat - '0'.toNat else c.toLower.toNat - 'a'.toNat + 10

/-- The character that those behind a backslash stand for, and what is left. -/
def recordEscape? : List Char → Option (Char × List Char)
  | [] => none
  | c :: cs =>
      let coded (base : Nat) (digits rest : List Char) : Option (Char × List Char) :=
        if digits.isEmpty then none
        else
          let code := digits.foldl (fun n d => n * base + recordDigit d) 0
          some (Char.ofNat (code % 256), rest)
      match recordLetters.lookup c with
      | some d => some (d, cs)
      | none =>
          if c = 'x' then
            let digits := (cs.take 2).takeWhile fun d => d.isDigit || ('a' ≤ d.toLower && d.toLower ≤ 'f')
            coded 16 digits (cs.drop digits.length)
          else
            let digits := ((c :: cs).take 3).takeWhile fun d => '0' ≤ d && d ≤ '7'
            coded 8 digits ((c :: cs).drop digits.length)

/-- A text with its escapes replaced; a backslash that makes nothing stays. -/
def recordUnescaped : (steps : Nat) → List Char → List Char
  | 0, cs => cs
  | _, [] => []
  | steps + 1, '\\' :: cs =>
      match recordEscape? cs with
      | some (c, rest) => c :: recordUnescaped steps rest
      | none => '\\' :: recordUnescaped steps cs
  | steps + 1, c :: cs => c :: recordUnescaped steps cs

namespace RecordPattern

/-- What is wrong with an expression. -/
inductive Fault where
  | unclosed
  | badSet
  | noOperand
  | repeatedStart

/-- What is said of a fault. -/
def Fault.message : Fault → String
  | unclosed => "missing ')'"
  | badSet => "bad class -- [], [^] or ["
  | noOperand => "missing operand"
  | repeatedStart => "syntax error ^* or ^+"

/-- The character behind a backslash in an expression, and what is left. -/
def escaped (cs : List Char) : Char × List Char :=
  match recordEscape? cs, cs with
  | some found, _ => found
  | none, c :: cs => (c, cs)
  | none, [] => ('\\', [])

/-- Take the members of a set up to its closing bracket, which may stand first as a member. -/
def takeMembers : (steps : Nat) → (first : Bool) → List Char →
    Except Fault (List CharItem × List Char)
  | 0, _, _ | _, _, [] => .error .badSet
  | steps + 1, first, c :: cs =>
      let more (items : List CharItem) (cs : List Char) : Except Fault (List CharItem × List Char) :=
        (takeMembers steps false cs).map fun (others, rest) => (items ++ others, rest)
      let named : Option (String × List Char) :=
        match c, cs with
        | '[', ':' :: cs =>
            let name := cs.takeWhile Char.isAlpha
            match cs.drop name.length with
            | ':' :: ']' :: rest => some (String.ofList name, rest)
            | _ => none
        | _, _ => none
      if c = ']' ∧ !first then .ok ([], cs)
      else match named with
        | some (name, rest) =>
            if classNames.contains name then more [.cls name] rest else .error .badSet
        | none =>
            let (low, cs) := if c = '\\' then escaped cs else (c, cs)
            match cs with
            | '-' :: high :: rest =>
                if high = ']' then more [.range low low] cs
                else
                  let (high, rest) := if high = '\\' then escaped rest else (high, rest)
                  if high < low then more [.range low low, .range '-' '-', .range high high] rest
                  else more [.range low high] rest
            | cs => more [.range low low] cs

/-- Read a set behind its opening bracket. -/
def takeSet (cs : List Char) : Except Fault (Regex × List Char) :=
  let (negated, cs) := match cs with
    | '^' :: cs => (true, cs)
    | cs => (false, cs)
  (takeMembers (cs.length + 1) true cs).map fun (items, rest) => (.set negated items, rest)

/-- Apply the marks for repetitions that follow a part; the characters bound their number. -/
def takeRepeats : (steps : Nat) → Regex → List Char → Regex × List Char
  | 0, r, cs => (r, cs)
  | steps + 1, r, cs =>
      match cs with
      | '*' :: cs => takeRepeats steps (.rep r 0 none) cs
      | '+' :: cs => takeRepeats steps (.rep r 1 none) cs
      | '?' :: cs => takeRepeats steps (.rep r 0 (some 1)) cs
      | cs => (r, cs)

/-- Read a part without what repeats it.  `whole` reads an expression in a group. -/
def takePart (whole : List Char → Except Fault (Regex × List Char)) :
    List Char → Except Fault (Regex × List Char)
  | [] => .error .noOperand
  | c :: cs =>
      match c with
      | '(' =>
          if cs.isEmpty then .error .unclosed
          else match whole cs with
            | .ok (r, ')' :: rest) => .ok (r, rest)
            | .ok _ => .error .unclosed
            | .error fault => .error fault
      | '[' => takeSet cs
      | '.' => .ok (.any, cs)
      | '^' =>
          if cs.head? = some '*' ∨ cs.head? = some '+' then .error .repeatedStart
          else .ok (.atStart, cs)
      | '$' => .ok (.atEnd, cs)
      | '*' | '+' | '?' => .error .noOperand
      | '\\' =>
          let (c, rest) := escaped cs
          .ok (.char c, rest)
      | c => .ok (.char c, cs)

/-- Read a branch up to a mark that ends it; each step takes a character at least. -/
def takeBranch (whole : List Char → Except Fault (Regex × List Char)) (nested : Bool) :
    (steps : Nat) → List Char → Except Fault (Regex × List Char)
  | 0, _ => .error .noOperand
  | steps + 1, cs =>
      if cs.isEmpty || cs.head? = some '|' || (nested && cs.head? = some ')') then .error .noOperand
      else match takePart whole cs with
        | .error fault => .error fault
        | .ok (part, rest) =>
            let (part, rest) := takeRepeats rest.length part rest
            if rest.isEmpty || rest.head? = some '|' || (nested && rest.head? = some ')') then
              .ok (part, rest)
            else
              (takeBranch whole nested steps rest).map fun (others, rest) =>
                (.seq part others, rest)

/-- Read branches with marks between them. -/
def takeBranches (whole : List Char → Except Fault (Regex × List Char)) (nested : Bool) :
    (steps : Nat) → List Char → Except Fault (Regex × List Char)
  | 0, _ => .error .noOperand
  | steps + 1, cs =>
      match takeBranch whole nested (cs.length + 1) cs with
      | .ok (first, '|' :: rest) =>
          (takeBranches whole nested steps rest).map fun (others, rest) => (.alt first others, rest)
      | found => found

/-- Read an expression; `depth` bounds how deep groups nest. -/
def takeWhole : (depth : Nat) → (nested : Bool) → List Char → Except Fault (Regex × List Char)
  | 0, _, _ => .error .unclosed
  | depth + 1, nested, cs => takeBranches (takeWhole depth true) nested (cs.length + 1) cs

end RecordPattern

/-- The expression that a text spells. -/
def recordRegex? (text : String) : Except String Regex :=
  if text = "" then .ok .empty
  else match RecordPattern.takeWhole Text.regexDepth false text.toList with
    | .ok (r, _) => .ok r
    | .error fault => .error fault.message

end ToyLang.Tools
