import ToyLang.Numeral
import ToyLang.Shell.Words

/-!
# Arithmetic

Expressions on integers of 64 bits, with variables and assignments.

## Main definitions

* `Sum` — expressions.
* `Sum.ofText?` — the expression that a text spells.
* `Sum.value` — the value of an expression, with what it assigns.
-/

namespace ToyLang.Shell

/-- An arithmetic expression. -/
inductive Sum where
  | number (n : Int64)
  | name (x : String)
  | unary (op : String) (e : Sum)
  /-- Two operands with an operator; the text begins with the second one. -/
  | binary (op : String) (lhs rhs : Sum) (text : String)
  | both (lhs rhs : Sum)
  | either (lhs rhs : Sum)
  | choice (test yes no : Sum)
  /-- An assignment, of what an operator makes of the old value if there is one. -/
  | assign (x op : String) (e : Sum)
  /-- A step up or down; the flag says that the value is the one before it. -/
  | step (x : String) (by_ : Int64) (before : Bool)
  deriving Inhabited, Repr

/-- A token of an expression. -/
inductive SumToken where
  | number (n : Int64)
  | name (x : String)
  | op (text : String)
  /-- A character that nothing begins with. -/
  | unknown
  deriving DecidableEq, Repr

/-- A token with the text that begins with it. -/
structure PlacedToken where
  token : SumToken
  text : String
  deriving DecidableEq, Repr

/-- The operators, longer ones first. -/
def sumOps : Dialect → List String
  | .plain => ["<<=", ">>=", "<<", ">>", "<=", ">=", "==", "!=", "&&", "||", "+=", "-=", "*=", "/=",
      "%=", "&=", "|=", "^=", "+", "-", "*", "/", "%", "<", ">", "=", "&", "|", "^", "!", "~", "?",
      ":", "(", ")"]
  | .extended => ["<<=", ">>=", "**", "++", "--", "<<", ">>", "<=", ">=", "==", "!=", "&&", "||",
      "+=", "-=", "*=", "/=", "%=", "&=", "|=", "^=", "+", "-", "*", "/", "%", "<", ">", "=", "&",
      "|", "^", "!", "~", "?", ":", "(", ")", ","]

/-- What is wrong with an expression. -/
inductive SumError where
  /-- Something else is expected where a text begins. -/
  | expected (what : String) (text : String)
  | unknown (text : String)
  | divisionByZero (text : String)
  | negativeExponent (text : String)
  | badDigits (text : String)
  | badBase (text : String)
  | badTarget (text : String)
  | badNumber (text : String)
  /-- Variables name each other too often. -/
  | tooDeep (text : String)
  deriving DecidableEq, Repr

/-- What is wrong with an expression, and the text that it is about. -/
structure SumFault where
  error : SumError
  text : String
  deriving Repr

/-- The largest number of 64 bits. -/
def largest : Nat := twoTo 63 - 1

/-- The number that some digits spell: the standard shell cuts it off at the largest one, and the
extended shell drops what is beyond 64 bits. -/
def limited (dialect : Dialect) (base : Nat) (cs : List Char) : Int64 :=
  let n := numberOf base cs
  if dialect = .plain then Int64.ofNat (min n largest) else Int64.ofInt n

/-- Take a number as it is written: hexadecimal behind 0x, octal behind 0, or decimal. -/
def takeNumber (dialect : Dialect) (cs : List Char) : Int64 × List Char :=
  match cs with
  | '0' :: x :: rest =>
      let hex := rest.takeWhile isHex
      if (x = 'x' ∨ x = 'X') ∧ !hex.isEmpty then (limited dialect 16 hex, rest.drop hex.length)
      else
        let octal := cs.takeWhile fun c => '0' ≤ c && c ≤ '7'
        (limited dialect 8 octal, cs.drop octal.length)
  | _ =>
      let digits := cs.takeWhile Char.isDigit
      (limited dialect 10 digits, cs.drop digits.length)

/-- The value of a digit behind a base: letters follow the digits, and beyond 36 capital ones
count for themselves. -/
def digitIn (base : Nat) (c : Char) : Nat :=
  if c.isDigit then c.toNat - '0'.toNat
  else if c.isLower then c.toNat - 'a'.toNat + 10
  else if c.isUpper then c.toNat - 'A'.toNat + (if base ≤ 36 then 10 else 36)
  else if c = '@' then 62
  else 63

/-- The number that some digits spell behind a base. -/
def numberInBase (base : Nat) (digits : List Char) (text : String) : Except SumError Int64 :=
  if base < 2 ∨ 64 < base then .error (.badBase text)
  else if digits.any fun c => base ≤ digitIn base c then .error (.badDigits text)
  else .ok (Int64.ofInt (digits.foldl (fun n c => base * n + digitIn base c) 0))

/-- Whether a character is a blank in an expression. -/
def isSumBlank (c : Char) : Bool := c = ' ' || c = '\t' || c = '\n'

/-- Whether a token is the name of a variable. -/
def SumToken.isName : SumToken → Bool
  | name _ => true
  | _ => false

/-- Take the index behind an opening bracket, up to the bracket that closes it. -/
def takeSumIndex : (depth : Nat) → List Char → List Char × List Char
  | _, [] => ([], [])
  | depth, c :: cs =>
      if c = ']' ∧ depth = 0 then ([], cs)
      else
        let deeper := if c = '[' then depth + 1 else if c = ']' then depth - 1 else depth
        let (index, rest) := takeSumIndex deeper cs
        (c :: index, rest)

/-- The tokens of an expression, given the one before them; each step takes at least one
character. -/
def sumTokens (dialect : Dialect) : (steps : Nat) → Option SumToken → List Char →
    Except SumError (List PlacedToken)
  | _, _, [] => .ok []
  | 0, _, _ :: _ => .ok []
  | steps + 1, before, c :: cs =>
      let text := String.ofList (c :: cs)
      let go (token : SumToken) (rest : List Char) : Except SumError (List PlacedToken) :=
        (sumTokens dialect steps (some token) rest).map (⟨token, text⟩ :: ·)
      if isSumBlank c then sumTokens dialect steps before cs
      else if c.isDigit then
        let (n, rest) := takeNumber dialect (c :: cs)
        let written (rest : List Char) : String :=
          String.ofList ((c :: cs).take (cs.length + 1 - rest.length))
        match dialect, rest with
        | .extended, '#' :: more =>
            let digits := more.takeWhile fun d => d.isAlphanum || d = '@' || d = '_'
            let left := more.drop digits.length
            (numberInBase n.toNatClampNeg digits (written left)).bind fun n => go (.number n) left
        | .extended, d :: _ =>
            if d.isDigit then
              .error (.badDigits (written (rest.dropWhile Char.isDigit)))
            else go (.number n) rest
        | _, _ => go (.number n) rest
      else if isNameStart c then
        let name := c :: cs.takeWhile isNameChar
        let rest := cs.drop (name.length - 1)
        match dialect, rest with
        | .extended, '[' :: more =>
            let (index, left) := takeSumIndex 0 more
            let full := name ++ '[' :: index ++ [']']
            go (.name (String.ofList full)) left
        | _, _ => go (.name (String.ofList name)) rest
      else
        match (sumOps dialect).find? fun op => op.toList.isPrefixOf (c :: cs) with
        | some op =>
            -- Two signs are one operator only next to a name.
            let next := (cs.drop 1).dropWhile isSumBlank
            let step := (before.any SumToken.isName) || (next.head?.any isNameStart)
            if (op = "++" ∨ op = "--") ∧ !step then go (.op (String.singleton c)) cs
            else go (.op op) (cs.drop (op.length - 1))
        | none => .ok [⟨.unknown, text⟩]

/-! ### Grammar -/

/-- A function that reads an expression from tokens, given the text of the one before them. -/
abbrev SumParser := (last : String) → List PlacedToken →
  Except SumError (Sum × String × List PlacedToken)

/-- Refuse what stands where something else is expected. -/
def expecting {α : Type} (what last : String) : List PlacedToken → Except SumError α
  | [] => .error (.expected what last)
  | ⟨.unknown, text⟩ :: _ =>
      .error (if what = "primary" then .expected what text else .unknown text)
  | ⟨_, text⟩ :: _ => .error (.expected what text)

/-- How tightly the operators with two operands bind, the tightest first. -/
def levelOf? (op : String) : Option Nat :=
  if op = "**" then some 0
  else if op = "*" ∨ op = "/" ∨ op = "%" then some 1
  else if op = "+" ∨ op = "-" then some 2
  else if op = "<<" ∨ op = ">>" then some 3
  else if op = "<" ∨ op = "<=" ∨ op = ">" ∨ op = ">=" then some 4
  else if op = "==" ∨ op = "!=" then some 5
  else if op = "&" then some 6
  else if op = "^" then some 7
  else if op = "|" then some 8
  else if op = "&&" then some 9
  else if op = "||" then some 10
  else none

/-- The operator of an assignment, and the one that it holds. -/
def assignmentOp? (op : String) : Option String :=
  if op = "=" then some ""
  else if ["<<=", ">>=", "+=", "-=", "*=", "/=", "%=", "&=", "|=", "^="].contains op then
    some (String.ofList op.toList.dropLast)
  else none

/-- An operator between two expressions. -/
def Sum.joined (op : String) (lhs rhs : Sum) (text : String) : Sum :=
  if op = "&&" then .both lhs rhs else if op = "||" then .either lhs rhs
  else .binary op lhs rhs text

/-- The text of the next token, or that of the last one. -/
def textAhead (last : String) (tokens : List PlacedToken) : String :=
  ((tokens.head?).map PlacedToken.text).getD last

/-- Read what operators join.  `whole` reads an expression in parentheses. -/
def operand (whole : SumParser) : (steps : Nat) → SumParser
  | 0, last, tokens => expecting "primary" last tokens
  | steps + 1, last, tokens =>
      match tokens with
      | ⟨.op "(", text⟩ :: rest => do
          let (e, last, rest) ← whole text rest
          match rest with
          | ⟨.op ")", text⟩ :: rest => pure (e, text, rest)
          | rest => expecting "')'" last rest
      | ⟨.number n, text⟩ :: rest => .ok (.number n, text, rest)
      | ⟨.name x, _⟩ :: ⟨.op "++", text⟩ :: rest => .ok (.step x 1 true, text, rest)
      | ⟨.name x, _⟩ :: ⟨.op "--", text⟩ :: rest => .ok (.step x (-1) true, text, rest)
      | ⟨.name x, text⟩ :: rest => .ok (.name x, text, rest)
      | ⟨.op "++", _⟩ :: ⟨.name x, text⟩ :: rest => .ok (.step x 1 false, text, rest)
      | ⟨.op "--", _⟩ :: ⟨.name x, text⟩ :: rest => .ok (.step x (-1) false, text, rest)
      | ⟨.op op, text⟩ :: rest =>
          if op = "+" ∨ op = "-" ∨ op = "!" ∨ op = "~" then do
            let (e, last, rest) ← operand whole steps text rest
            pure (.unary op e, last, rest)
          else expecting "primary" last tokens
      | tokens => expecting "primary" last tokens

/-- Read operands joined by operators that bind at least as tightly as a level, given the
operand on the left. -/
def joinedFrom (whole : SumParser) : (steps : Nat) → (level : Nat) → Sum → SumParser
  | 0, _, lhs, last, tokens => .ok (lhs, last, tokens)
  | steps + 1, level, lhs, last, tokens =>
      match tokens with
      | ⟨.op op, text⟩ :: rest =>
          match levelOf? op with
          | some l =>
              if level < l then .ok (lhs, last, tokens)
              else do
                let start := textAhead text rest
                let (rhs, last, rest) ← operand whole (rest.length + 1) text rest
                let tighter := if op = "**" then some 0 else if l = 0 then none else some (l - 1)
                let (rhs, last, rest) ← match tighter with
                  | some t => joinedFrom whole steps t rhs last rest
                  | none => pure (rhs, last, rest)
                let start := if op = "**" then last else start
                joinedFrom whole steps level (Sum.joined op lhs rhs start) last rest
          | none => .ok (lhs, last, tokens)
      | _ => .ok (lhs, last, tokens)

/-- The level of the loosest operators with two operands. -/
def loosest : Nat := 10

/-- Read an expression, or several joined by commas; `depth` bounds how deep it nests. -/
def sumWithin (dialect : Dialect) : (depth : Nat) → (several : Bool) → SumParser
  | 0, _, last, tokens => expecting "primary" last tokens
  | depth + 1, several, last, tokens => do
      let whole : SumParser := sumWithin dialect depth true
      let one : SumParser := sumWithin dialect depth false
      let single : SumParser := fun last tokens => do
        match tokens with
        | ⟨.name x, _⟩ :: ⟨.op op, text⟩ :: rest =>
            match assignmentOp? op with
            | some inner => do
                let (e, last, rest) ← one text rest
                pure (.assign x inner e, last, rest)
            | none => choice whole one last tokens
        | tokens => choice whole one last tokens
      let (e, last, rest) ← single last tokens
      match dialect, several, rest with
      | .extended, true, ⟨.op ",", text⟩ :: rest => do
          let (e', last, rest) ← whole text rest
          pure (.binary "," e e' "", last, rest)
      | _, _, rest => pure (e, last, rest)
where
  /-- Read operands with operators, and what a question mark begins. -/
  choice (whole one : SumParser) : SumParser := fun last tokens => do
    let (first, last, rest) ← operand whole (tokens.length + 1) last tokens
    let (test, last, rest) ← joinedFrom whole (2 * rest.length + 2) loosest first last rest
    match rest with
    | ⟨.op "?", text⟩ :: rest => do
        let (yes, last, rest) ← whole text rest
        match rest with
        | ⟨.op ":", text⟩ :: rest => do
            let (no, last, rest) ← one text rest
            pure (.choice test yes no, last, rest)
        | rest => expecting "':'" last rest
    | rest => pure (test, last, rest)

/-- The expression that a text spells; an empty text is zero in the extended dialect. -/
def Sum.ofText? (dialect : Dialect) (text : String) : Except SumError Sum := do
  match ← sumTokens dialect (text.length + 1) none text.toList with
  | [] => if dialect = .extended then pure (.number 0) else throw (.expected "primary" "")
  | tokens => do
      let (e, last, rest) ← sumWithin dialect (tokens.length + 1) true "" tokens
      match rest with
      | [] => pure e
      | ⟨.op op, text⟩ :: _ =>
          if (assignmentOp? op).isSome then throw (.badTarget text) else expecting "EOF" last rest
      | rest => expecting "EOF" last rest

/-! ### Values -/

/-- The number that a text is as a whole, blanks aside. -/
def int64OfText? (dialect : Dialect) (text : String) : Option Int64 :=
  let cs := text.toList.dropWhile isSumBlank
  let (negative, cs) := match cs with
    | '-' :: cs => (true, cs)
    | '+' :: cs => (false, cs)
    | cs => (false, cs)
  match cs with
  | c :: _ =>
      if c.isDigit then
        let (n, rest) := takeNumber dialect cs
        if rest.all isSumBlank then some (if negative then -n else n) else none
      else none
  | [] => none

/-- The power of a number, by squaring; `bits` bounds how large the exponent is. -/
def powerWithin : (bits : Nat) → (base : Int64) → (exponent : Nat) → Int64
  | 0, _, _ => 1
  | bits + 1, base, exponent =>
      if exponent = 0 then 1
      else
        let half := powerWithin bits (base * base) (exponent / 2)
        if exponent % 2 = 1 then base * half else half

/-- The power of a number. -/
def power (base : Int64) (exponent : Nat) : Int64 := powerWithin 64 base exponent

/-- A truth value as a number. -/
def ofBool (b : Bool) : Int64 := if b then 1 else 0

/-- The value of an operator with two operands, the second of which begins a text. -/
def binaryValue (op : String) (a b : Int64) (text : String) : Except SumError Int64 :=
  match op with
  | "+" => .ok (a + b)
  | "-" => .ok (a - b)
  | "*" => .ok (a * b)
  | "/" => if b = 0 then .error (.divisionByZero text) else .ok (a / b)
  | "%" => if b = 0 then .error (.divisionByZero text) else .ok (a % b)
  | "**" =>
      if b < 0 then .error (.negativeExponent text) else .ok (power a b.toNatClampNeg)
  | "<<" => .ok (a <<< b)
  | ">>" => .ok (a >>> b)
  | "<" => .ok (ofBool (decide (a < b)))
  | "<=" => .ok (ofBool (decide (a ≤ b)))
  | ">" => .ok (ofBool (decide (b < a)))
  | ">=" => .ok (ofBool (decide (b ≤ a)))
  | "==" => .ok (ofBool (a == b))
  | "!=" => .ok (ofBool (a != b))
  | "&" => .ok (a &&& b)
  | "|" => .ok (a ||| b)
  | "^" => .ok (a ^^^ b)
  | "," => .ok b
  | _ => .ok b

/-- The value of an operator with one operand. -/
def unaryValue (op : String) (a : Int64) : Int64 :=
  if op = "-" then -a else if op = "!" then ofBool (a == 0) else if op = "~" then ~~~a else a

/-- What evaluation needs: the texts of variables and of places in lists, assignments to them, and
how the text of a variable is read as a number. -/
structure SumScope (m : Type → Type) where
  lookup : String → m (Option String)
  assign : String → Int64 → m Unit
  read : String → ExceptT SumFault m Int64

section Evaluation

variable {m : Type → Type} [Monad m]

/-- The number that a variable holds; one that is missing or empty holds zero. -/
def SumScope.number (scope : SumScope m) (x : String) : ExceptT SumFault m Int64 := do
  match ← scope.lookup x with
  | none | some "" => return 0
  | some text => scope.read text

/-- The value of an expression that a text spells.  What is not chosen is not evaluated. -/
def Sum.value (scope : SumScope m) (whole : String) : Sum → ExceptT SumFault m Int64
  | number n => return n
  | name x => scope.number x
  | unary op e => return unaryValue op (← e.value scope whole)
  | binary op lhs rhs text => do
      let a ← lhs.value scope whole
      let b ← rhs.value scope whole
      joined op a b text
  | both lhs rhs => do
      if (← lhs.value scope whole) = 0 then return 0
      return ofBool ((← rhs.value scope whole) != 0)
  | either lhs rhs => do
      if (← lhs.value scope whole) ≠ 0 then return 1
      return ofBool ((← rhs.value scope whole) != 0)
  | choice test yes no => do
      if (← test.value scope whole) ≠ 0 then yes.value scope whole else no.value scope whole
  | assign x op e => do
      let b ← e.value scope whole
      let n ← if op = "" then pure b
        else joined op (← scope.number x) b (toString b.toInt)
      scope.assign x n
      return n
  | step x by_ before => do
      let n ← scope.number x
      scope.assign x (n + by_)
      return if before then n else n + by_
where
  /-- The value of an operator with two operands. -/
  joined (op : String) (a b : Int64) (text : String) : ExceptT SumFault m Int64 :=
    match binaryValue op a b text with
    | .ok n => pure n
    | .error e => throw ⟨e, whole⟩

/-- The value of a text as an expression.  In the extended dialect the text of a variable is an
expression itself; `depth` bounds how often. -/
def sumValue (dialect : Dialect) (lookup : String → m (Option String))
    (assign : String → Int64 → m Unit) : (depth : Nat) → (text : String) →
    ExceptT SumFault m Int64
  | depth, text =>
      match Sum.ofText? dialect text with
      | .error e => throw ⟨e, text⟩
      | .ok e =>
          let read (text : String) : ExceptT SumFault m Int64 :=
            match int64OfText? dialect text with
            | some n => pure n
            | none =>
                if dialect = .plain then throw ⟨.badNumber text, text⟩
                else match depth with
                  | 0 => throw ⟨.tooDeep text, text⟩
                  | depth + 1 => sumValue dialect lookup assign depth text
          e.value ⟨lookup, assign, read⟩ text

end Evaluation

/-- What is wrong with an expression, in the words of the standard shell. -/
def SumError.plainMessage (text : String) : SumError → String
  | expected what _ => "arithmetic expression: expecting " ++ what ++ ": \"" ++ text ++ "\""
  | unknown _ | badDigits _ | badBase _ | badTarget _ =>
      "arithmetic expression: expecting EOF: \"" ++ text ++ "\""
  | divisionByZero _ | negativeExponent _ =>
      "arithmetic expression: division by zero: \"" ++ text ++ "\""
  | badNumber text | tooDeep text => "Illegal number: " ++ text

/-- What is wrong with an expression, in the words of the extended shell. -/
def SumError.extendedMessage (text : String) (e : SumError) : String :=
  let (what, token) := match e with
    | expected "primary" token => ("syntax error: operand expected", token)
    | expected "EOF" token => ("syntax error in expression", token)
    | expected "')'" token => ("missing \x60)'", token)
    | expected _ token => ("\x60:' expected for conditional expression", token)
    | unknown token => ("syntax error: invalid arithmetic operator", token)
    | divisionByZero token => ("division by 0", token)
    | negativeExponent token => ("exponent less than 0", token)
    | badDigits token => ("value too great for base", token)
    | badBase token => ("invalid arithmetic base", token)
    | badTarget token => ("attempted assignment to non-variable", token)
    | badNumber token => ("syntax error in expression", token)
    | tooDeep token => ("expression recursion level exceeded", token)
  let whole := match e with
    | badDigits token | badBase token => token
    | _ => String.ofList (text.toList.dropWhile isSumBlank)
  whole ++ ": " ++ what ++ " (error token is \"" ++ token ++ "\")"

/-- The wording of what is wrong with an expression. -/
def SumFault.message (dialect : Dialect) (f : SumFault) : String :=
  if dialect = .extended then f.error.extendedMessage f.text else f.error.plainMessage f.text

end ToyLang.Shell
