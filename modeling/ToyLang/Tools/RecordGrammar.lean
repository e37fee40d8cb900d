import ToyLang.Tools.RecordToken

/-!
# The grammar of scripts on records

Texts that stand one behind the other are joined more loosely than sums and more tightly than
comparisons.  A line from a command belongs to the nearest operand.  What cannot be read ends the
statement it stands in, and reading goes on behind that.

## Main definitions

* `RecordReader.takeExpr`, `RecordReader.takeStmt` — expressions and statements.
* `RecordScript.ofText?` — the script that a text spells.
-/

namespace ToyLang.Tools

namespace RecordReader

/-! ### Operands -/

/-- An expression, and whether it is nothing but a place for a value. -/
structure Operand where
  expr : RecordExpr
  isPlace : Bool := false

/-- How tightly the marks of expressions bind, loosest first. -/
inductive Rank where
  | assignment
  | choice
  | either
  | both
  | member
  | matching
  | comparison
  | joined
  deriving DecidableEq

/-- The rank as a number. -/
def Rank.level : Rank → Nat
  | assignment => 0
  | choice => 1
  | either => 2
  | both => 3
  | member => 4
  | matching => 5
  | comparison => 6
  | joined => 7

/-- How tightly the marks of calculations bind: sums, products, signs, lines from commands, and
powers. -/
inductive ArithRank where
  | sum
  | product
  | sign
  | line
  | power

/-- The rank as a number. -/
def ArithRank.level : ArithRank → Nat
  | sum => 1
  | product => 2
  | sign => 3
  | line => 4
  | power => 5

/-- Reading of the parts of expressions and statements; levels say how tightly a mark must bind
to be taken along. -/
structure Inner where
  expr : (level : Nat) → ReadRecord Operand
  arith : (level : Nat) → ReadRecord RecordExpr
  operand : ReadRecord RecordExpr
  stmt : ReadRecord RecordStmt

/-- Read any expression. -/
def Inner.any (inner : Inner) : ReadRecord RecordExpr := return (← inner.expr 0).expr

/-- What is said of a name that stands for something else. -/
def sayIllegal (what name : String) : ReadRecord Unit :=
  sayHere ("illegal reference to " ++ what ++ " " ++ name)

/-- Use a name for a value, or for an array. -/
def useAs (kind : RecordNameKind) (name : String) : ReadRecord Unit := do
  let r ← get
  let word : RecordNameKind → String
    | .variable => "variable"
    | .array => "array"
    | .function => "function"
  match r.params.lookup name with
  | some (some old) => if old ≠ kind then sayIllegal ("local " ++ word old) name
  | some none =>
      let params := r.params.map fun p => if p.1 = name then (name, some kind) else p
      set { r with params := params }
  | none =>
      match r.names.lookup name with
      | some old => if old ≠ kind then sayIllegal (word old) name
      | none => set { r with names := (name, kind) :: r.names }

/-- Read expressions with commas between them. -/
def takeArguments (inner : Inner) : ReadRecord (List RecordExpr) := do
  let mut found := [← inner.any]
  for _ in [0:longest] do
    if ← accept "," then found := (← inner.any) :: found
    else break
  return found.reverse

/-- Read expressions with commas between them up to a closing bracket, if there are any. -/
def takeCallList (inner : Inner) : ReadRecord (List RecordExpr) := do
  if ← accept ")" then return []
  let found ← takeArguments inner
  expect ")"
  return found

/-- Read the place that a name stands for, which has been taken. -/
def takeNamed (inner : Inner) (name : String) : ReadRecord RecordExpr := do
  if ← accept "[" then
    useAs .array name
    let index ← takeArguments inner
    expect "]"
    return .element name index
  useAs .variable name
  return .var name

/-- Read a field behind its dollar sign. -/
def takeField (inner : Inner) : ReadRecord RecordExpr := do
  match ← peek with
  | .fieldWord name =>
      discard take
      return .field (← takeNamed inner name)
  | _ => return .field (← inner.operand)

/-- Read a place for a value: a variable, an entry of an array, or a field. -/
def takePlace (inner : Inner) : ReadRecord RecordExpr := do
  match ← take with
  | .word name => takeNamed inner name
  | .fieldVar name => return .var name
  | .field x => return .field (.number x)
  | .mark "$" => takeField inner
  | .mark "(" =>
      let t ← peek
      let e ← inner.any
      match e with
      | .field _ =>
          expect ")"
          return e
      | _ => refuse t
  | t => refuse t

/-- Read the place that a line is read into, if one is named. -/
def takeLineTarget (inner : Inner) : ReadRecord (Option RecordExpr) := do
  match ← peek with
  | .word _ | .fieldVar _ | .field _ | .mark "$" => return some (← takePlace inner)
  | _ => return none

/-- Read a line from the input or a file, behind its keyword. -/
def takeLine (inner : Inner) : ReadRecord RecordExpr := do
  let target ← takeLineTarget inner
  let t ← peek
  modify fun r => { r with isReading := false }
  match t with
  | .input =>
      discard take
      return .readLine .file (some (← inner.arith ArithRank.power.level)) target
  | _ => return .readLine .input none target

/-- Count a place up or down if a mark for that comes next. -/
def takeStep (e : RecordExpr) : ReadRecord Operand := do
  if ← accept "++" then return ⟨.step e true true, false⟩
  if ← accept "--" then return ⟨.step e false true, false⟩
  return ⟨e, true⟩

/-- Read a test of membership behind its keyword. -/
def takeMember (index : List RecordExpr) : ReadRecord RecordExpr := do
  match ← take with
  | .word name =>
      useAs .array name
      return .member name index
  | t => refuse t

/-- Read an argument of a function of the script.  A name alone may turn out to be an array. -/
def takeCallArgument (inner : Inner) : ReadRecord (RecordExpr × Option RecordNameKind) := do
  match ← peek with
  | .word name =>
      let r ← get
      discard take
      let isAlone := (← looksAt ",") || (← looksAt ")")
      if isAlone then
        let kind := match r.params.lookup name with
          | some kind => kind
          | none => r.names.lookup name
        return (.var name, kind)
      -- The name is read again as the start of an expression.
      set { r with held := some (.word name) }
      return (← inner.any, some .variable)
  | _ => return (← inner.any, some .variable)

/-- Read a call of a function of the script. -/
def takeCall (inner : Inner) (name : String) : ReadRecord RecordExpr := do
  let line := (← get).tokenLine
  expect "("
  let mut found : List (RecordExpr × Option RecordNameKind) := []
  if !(← accept ")") then
    for _ in [0:longest] do
      found := (← takeCallArgument inner) :: found
      if !(← accept ",") then break
    expect ")"
  let arguments := found.reverse
  modify fun r => { r with calls := r.calls ++ [⟨line, name, arguments.map Prod.snd⟩] }
  return .call name (arguments.map Prod.fst)

/-- Read a call of one of the functions that every script has. -/
def takeBuiltin (inner : Inner) (name : String) : ReadRecord RecordExpr := do
  let comma : ReadRecord Unit := expect ","
  match name with
  | "length" =>
      if !(← accept "(") then return .builtin name []
      if ← accept ")" then return .builtin name []
      let (e, _) ← takeCallArgument inner
      expect ")"
      return .builtin name [e]
  | "split" =>
      expect "("
      let text ← inner.any
      comma
      match ← take with
      | .word array =>
          useAs .array array
          if ← accept ")" then return .builtin name [text, .var array]
          comma
          let separator ← inner.any
          expect ")"
          return .builtin name [text, .var array, separator]
      | t => refuse t
  | "match" =>
      expect "("
      let text ← inner.any
      comma
      let pattern ← inner.any
      expect ")"
      return .builtin name [text, pattern]
  | "sub" | "gsub" =>
      expect "("
      let pattern ← inner.any
      comma
      let new ← inner.any
      if ← accept ")" then return .builtin name [pattern, new]
      comma
      let target ← takePlace inner
      expect ")"
      return .builtin name [pattern, new, target]
  | _ =>
      expect "("
      let arguments ← takeCallList inner
      let (least, most) := (recordBuiltins.lookup name).getD (0, 0)
      if arguments.length < least ∨ most < arguments.length then
        sayHere ("wrong number of arguments in call to " ++ name)
      return .builtin name arguments

/-- Read what stands between brackets, behind the first.  Where a whole expression begins, several
expressions may be tested for membership together. -/
def takeGroup (inner : Inner) (begins : Bool) : ReadRecord Operand := do
  let e ← inner.expr 0
  if begins && (← looksAt ",") then
    discard take
    let others ← takeArguments inner
    expect ")"
    if !(← acceptWord "in") then refuse (← take)
    return ⟨← takeMember (e.expr :: others), false⟩
  expect ")"
  match e with
  | ⟨.field f, true⟩ => takeStep (.field f)
  | e => return ⟨e.expr, false⟩

/-- Read an operand without a sign. -/
def takePrimary (inner : Inner) (begins : Bool) : ReadRecord Operand := do
  let counted (up : Bool) : ReadRecord Operand := do
    return ⟨.step (← takePlace inner) up false, false⟩
  match ← take with
  | .number x _ => return ⟨.number x, false⟩
  | .text s => return ⟨.text s, false⟩
  | .regex _ r => return ⟨.regex r, false⟩
  | .word name => takeStep (← takeNamed inner name)
  | .fieldVar name => takeStep (.var name)
  | .field x => takeStep (.field (.number x))
  | .mark "$" => takeStep (← takeField inner)
  | .mark "(" => takeGroup inner begins
  | .mark "++" => counted true
  | .mark "--" => counted false
  | .builtin name => return ⟨← takeBuiltin inner name, false⟩
  | .callee name => return ⟨← takeCall inner name, false⟩
  | .keyword "getline" => return ⟨← takeLine inner, false⟩
  | t => refuse t

/-- Read an operand with its signs. -/
def takeSigned (inner : Inner) (begins : Bool) : ReadRecord Operand := do
  let signed (make : RecordExpr → RecordExpr) : ReadRecord Operand := do
    return ⟨make (← inner.arith ArithRank.line.level), false⟩
  if ← accept "!" then signed .not
  else if ← accept "-" then signed .negative
  else if ← accept "+" then signed .positive
  else takePrimary inner begins

/-- The calculation that a mark stands for, with its level. -/
def arithMark? : String → Option (RecordArith × Nat)
  | "+" => some (.add, ArithRank.sum.level)
  | "-" => some (.sub, ArithRank.sum.level)
  | "*" => some (.mul, ArithRank.product.level)
  | "/" => some (.div, ArithRank.product.level)
  | "%" => some (.rem, ArithRank.product.level)
  | "^" => some (.pow, ArithRank.power.level)
  | _ => none

/-- Go on with a calculation behind its first operand. -/
def takeArithFrom (inner : Inner) (e : RecordExpr) (level : Nat) : ReadRecord RecordExpr := do
  let mut e := e
  for _ in [0:longest] do
    match ← peek with
    | .mark "|" =>
        if ArithRank.line.level < level then break
        discard take
        if !(← acceptWord "getline") then refuse (← take)
        let target ← takeLineTarget inner
        discard peek
        modify fun r => { r with isReading := false }
        e := .readLine .command (some e) target
    | .mark m =>
        match arithMark? m with
        | some (op, own) =>
            if own < level then break
            discard take
            let isRight := own = ArithRank.power.level
            e := .arith op e (← inner.arith (if isRight then own else own + 1))
        | none => break
    | _ => break
  return e

/-- Read a calculation. -/
def takeArith (inner : Inner) (level : Nat) : ReadRecord RecordExpr := do
  takeArithFrom inner (← takeSigned inner false).expr level

/-! ### Expressions -/

/-- Whether a token can begin an operand behind another one. -/
def beginsOperand : RecordToken → Bool
  | .number _ _ | .text _ | .regex _ _ | .word _ | .fieldVar _ | .field _ | .callee _
  | .builtin _ => true
  | .keyword name => name = "getline"
  | .mark m => ["$", "(", "++", "--", "!"].contains m
  | _ => false

/-- Go on with texts that stand one behind the other. -/
def takeJoinedFrom (inner : Inner) (e : RecordExpr) : ReadRecord RecordExpr := do
  let mut e ← takeArithFrom inner e ArithRank.sum.level
  for _ in [0:longest] do
    if beginsOperand (← peek) then e := .joined e (← inner.arith ArithRank.sum.level)
    else break
  return e

/-- The comparison that a mark stands for. -/
def orderMark? : String → Option RecordOrder
  | "<" => some .less
  | "<=" => some .lessEqual
  | "==" => some .equal
  | "!=" => some .unequal
  | ">" => some .greater
  | ">=" => some .greaterEqual
  | _ => none

/-- The marks that assign. -/
def assigning : List (String × Option RecordArith) :=
  [("=", none), ("+=", some .add), ("-=", some .sub), ("*=", some .mul), ("/=", some .div),
    ("%=", some .rem), ("^=", some .pow)]

/-- The step that a token makes behind an expression: its level, and how the part behind it is
joined to the expression. -/
def joining? : RecordToken → Option (Nat × (RecordExpr → RecordExpr → RecordExpr))
  | .mark "||" => some (Rank.either.level, .either)
  | .mark "&&" => some (Rank.both.level, .both)
  | .mark "~" => some (Rank.matching.level, .matching false)
  | .mark "!~" => some (Rank.matching.level, .matching true)
  | .mark m => (orderMark? m).map fun op => (Rank.comparison.level, .compare op)
  | _ => none

/-- Go on with an expression behind its first operand. -/
def takeExprFrom (inner : Inner) (first : Operand) (level : Nat) : ReadRecord Operand := do
  if first.isPlace then
    if let .mark m ← peek then
      if let some op := assigning.lookup m then
        discard take
        return ⟨.assign first.expr op (← inner.any), false⟩
  let mut e ← takeJoinedFrom inner first.expr
  let mut isPlace := first.isPlace
  for _ in [0:longest] do
    let t ← peek
    match joining? t with
    | some (own, join) =>
        if own < level then break
        discard take
        e := join e (← inner.expr (own + 1)).expr
        isPlace := false
    | none =>
        match t with
        | .keyword "in" =>
            if Rank.member.level < level then break
            discard take
            e ← takeMember [e]
            isPlace := false
        | .mark "?" =>
            if Rank.choice.level < level then break
            discard take
            let a ← inner.any
            expect ":"
            e := .choice e a (← inner.expr Rank.choice.level).expr
            isPlace := false
        | _ => break
  let same := match e with
    | .var _ | .field _ | .element _ _ => true
    | _ => false
  return ⟨e, isPlace && same⟩

/-- Read an expression. -/
def takeExpr (inner : Inner) (level : Nat) : ReadRecord Operand := do
  takeExprFrom inner (← takeSigned inner true) level

/-! ### Statements -/

/-- Go on with expressions behind the first of them. -/
def takeMoreArguments (inner : Inner) (first : RecordExpr) : ReadRecord (List RecordExpr) := do
  if ← accept "," then return first :: (← takeArguments inner)
  return [first]

/-- Read what a printing statement prints. -/
def takePrinted (inner : Inner) : ReadRecord (List RecordExpr) := do
  let t ← peek
  let isEnd := match t with
    | .sink _ => true
    | t => t.isSeparator
  if isEnd then return []
  if !(← accept "(") then return ← takeArguments inner
  if ← accept ")" then return []
  let e ← inner.expr 0
  if ← accept "," then
    let members := e.expr :: (← takeArguments inner)
    expect ")"
    if ← acceptWord "in" then
      let test ← takeMember members
      return ← takeMoreArguments inner (← takeExprFrom inner ⟨test, false⟩ 0).expr
    return members
  expect ")"
  let first ← match e with
    | ⟨.field f, true⟩ => takeStep (.field f)
    | e => pure ⟨e.expr, false⟩
  takeMoreArguments inner (← takeExprFrom inner first 0).expr

/-- Read a printing statement behind its keyword. -/
def takePrint (inner : Inner) (formatted : Bool) : ReadRecord RecordStmt := do
  modify fun r => { r with isPrinting := true }
  let arguments ← takePrinted inner
  let sink ← match ← peek with
    | .sink m =>
        discard take
        let place ← inner.any
        let kind : RecordSink :=
          if m = ">" then .file else if m = ">>" then .appended else .command
        pure (some (kind, place))
    | _ => pure none
  expectSeparator
  if formatted ∧ arguments.isEmpty then sayHere "no arguments in call to printf"
  return .print formatted arguments sink

/-- Read a value that may be missing, up to the end of the statement. -/
def takeValue (inner : Inner) : ReadRecord (Option RecordExpr) := do
  if (← peek).isSeparator then
    expectSeparator
    return none
  let e ← inner.any
  expectSeparator
  return some e

/-- Read statements up to the closing brace. -/
def takeBlock (inner : Inner) : ReadRecord RecordStmt := do
  expect "\x7b"
  let mut found : List RecordStmt := []
  for _ in [0:longest] do
    found := (← inner.stmt) :: found
    if ← accept "\x7d" then break
  return .block found.reverse

/-- Read the test of a statement, and pass over line breaks behind it. -/
def takeTest (inner : Inner) : ReadRecord RecordExpr := do
  expect "("
  let e ← inner.any
  expect ")"
  skipLines
  return e

/-- Read the body of a loop. -/
def takeLoopBody (inner : Inner) : ReadRecord RecordStmt := do
  modify fun r => { r with loops := r.loops + 1 }
  let body ← inner.stmt
  modify fun r => { r with loops := r.loops - 1 }
  return body

/-- Drop tokens up to the next end of a statement, and that. -/
def dropStatement : ReadRecord Unit := do
  for _ in [0:longest] do
    let t ← take
    if t.isSeparator then break
    match t with
    | .ending => throw .over
    | _ => pure ()
  modify fun r => { r with isPrinting := false, isReading := false }

/-- Read the test behind a loop.  What cannot be read counts as a part of the loop's body. -/
def takeLateTest (inner : Inner) : ReadRecord RecordExpr := do
  let whole : ReadRecord RecordExpr := do
    if !(← acceptWord "while") then refuse (← take)
    expect "("
    let test ← inner.any
    expect ")"
    expectSeparator
    return test
  for _ in [0:longest] do
    let found ← try pure (some (← whole))
      catch stop => do
        match stop with
        | .over => throw .over
        | .unexpected => do
            dropStatement
            pure none
    if let some test := found then return test
  throw .over

/-- Read a loop behind its first word. -/
def takeFor (inner : Inner) : ReadRecord RecordStmt := do
  expect "("
  let t ← take
  let first : Operand ← match t with
    | .word name =>
        if ← acceptWord "in" then
          match ← take with
          | .word array =>
              expect ")"
              skipLines
              useAs .variable name
              useAs .array array
              return .each name array (← takeLoopBody inner)
          | t => refuse t
        takeStep (← takeNamed inner name)
    | .mark ";" => pure ⟨.number 0, false⟩
    | t => do
        giveBack t
        takeSigned inner true
  let start ← match t with
    | .mark ";" => pure none
    | _ => do
        let e ← takeExprFrom inner first 0
        expect ";"
        pure (some (RecordStmt.expr e.expr))
  let test ← if ← accept ";" then pure none
    else do
      let e ← inner.any
      expect ";"
      pure (some e)
  let step ← if ← accept ")" then pure none
    else do
      let e ← inner.any
      expect ")"
      pure (some (RecordStmt.expr e))
  skipLines
  return .count start test step (← takeLoopBody inner)

/-- Read a statement that begins with a keyword. -/
def takeKeyword (inner : Inner) (word : String) : ReadRecord RecordStmt := do
  let inLoop (s : RecordStmt) : ReadRecord RecordStmt := do
    expectSeparator
    if (← get).loops = 0 then sayHere (word ++ " statement outside of loop")
    return s
  let inMain (s : RecordStmt) : ReadRecord RecordStmt := do
    expectSeparator
    if (← get).scope ≠ .main then sayHere ("improper use of " ++ word)
    return s
  match word with
  | "if" =>
      let test ← takeTest inner
      let body ← inner.stmt
      if ← acceptWord "else" then
        skipLines
        return .branch test body (some (← inner.stmt))
      return .branch test body none
  | "while" =>
      let test ← takeTest inner
      return .loop test (← takeLoopBody inner)
  | "do" =>
      skipLines
      let body ← takeLoopBody inner
      return .loopAfter body (← takeLateTest inner)
  | "for" => takeFor inner
  | "break" => inLoop .stop
  | "continue" => inLoop .again
  | "next" => inMain .next
  | "nextfile" => inMain .nextFile
  | "exit" => return .exit (← takeValue inner)
  | "return" =>
      let value ← takeValue inner
      if (← get).scope ≠ .function then sayHere "return outside function body"
      return .ret value
  | "delete" => match ← take with
      | .word name =>
          useAs .array name
          let index ← if ← accept "[" then do
              let index ← takeArguments inner
              expect "]"
              pure (some index)
            else pure none
          expectSeparator
          return .delete name index
      | t => refuse t
  | "print" => takePrint inner false
  | "printf" => takePrint inner true
  | word => refuse (.keyword word)

/-- Read a statement. -/
def takeWholeStmt (inner : Inner) : ReadRecord RecordStmt := do
  match ← peek with
  | .mark "\x7b" => takeBlock inner
  | .keyword word =>
      if word = "getline" then
        let e ← inner.any
        expectSeparator
        return .expr e
      discard take
      takeKeyword inner word
  | t =>
      if t.isSeparator then
        expectSeparator
        return .block []
      let e ← inner.any
      expectSeparator
      return .expr e

/-- Read a statement; if there is none, go on behind the next end of a statement. -/
def takeStmt (inner : Inner) : ReadRecord RecordStmt := do
  let loops := (← get).loops
  try takeWholeStmt inner
  catch stop =>
    match stop with
    | .over => throw .over
    | .unexpected =>
        dropStatement
        modify fun r => { r with loops := loops }
        return .block []

/-- Reading with a bound on how deep expressions and statements nest. -/
def innerWithin : (depth : Nat) → Inner
  | 0 =>
      let tooDeep {α : Type} : ReadRecord α := do
        sayHere "nested too deep"
        throw .over
      ⟨fun _ => tooDeep, fun _ => tooDeep, tooDeep, tooDeep⟩
  | depth + 1 =>
      { expr := fun level => takeExpr (innerWithin depth) level
        arith := fun level => takeArith (innerWithin depth) level
        operand := do return (← takeSigned (innerWithin depth) false).expr
        stmt := takeStmt (innerWithin depth) }

/-- How deep expressions and statements may nest. -/
def deepest : Nat := 400

/-! ### Scripts -/

/-- Read the parameters of a function, behind the opening bracket. -/
def takeParams : ReadRecord (List String) := do
  let mut found : List String := []
  if ← accept ")" then return []
  for _ in [0:longest] do
    match ← take with
    | .word name =>
        if found.contains name then sayHere (name ++ " is duplicated in argument list")
        found := name :: found
    | .callee name => do
        sayHere "function parameter cannot be the function"
        refuse (.callee name)
    | t => refuse t
    if !(← accept ",") then break
  expect ")"
  return found.reverse

/-- Read a function behind its keyword. -/
def takeFunction (inner : Inner) (s : RecordScript) : ReadRecord RecordScript := do
  let name ← match ← take with
    | .callee name => do
        if s.functions.any fun f => f.name = name then sayHere ("redefinition of " ++ name)
        pure name
    | .word name => do
        match (← get).names.lookup name with
        | some .variable => sayIllegal "variable" name
        | some .array => sayIllegal "array" name
        | _ => modify fun r => { r with names := (name, .function) :: r.names }
        pure name
    | t => refuse t
  expect "("
  let params ← takeParams
  skipLines
  modify fun r => { r with params := params.map fun p => (p, none), scope := .function }
  let body ← takeBlock inner
  let kinds := (← get).params
  modify fun r => { r with params := [], scope := .main }
  let f : RecordFunction := ⟨name, params, body, params.map fun p => (kinds.lookup p).getD none⟩
  return { s with functions := s.functions ++ [f] }

/-- Read a block of a part of the script. -/
def takeScoped (inner : Inner) (scope : RecordScope) : ReadRecord RecordStmt := do
  modify fun r => { r with scope := scope }
  let block ← takeBlock inner
  modify fun r => { r with scope := .main }
  return block

/-- Read a rule. -/
def takeRule (inner : Inner) : ReadRecord RecordRule := do
  let pattern ←
    if ← looksAt "\x7b" then pure RecordPattern.always
    else do
      let first ← inner.any
      if ← accept "," then pure (.range first (← inner.any))
      else pure (.test first)
  if ← looksAt "\x7b" then return ⟨pattern, some (← takeBlock inner)⟩
  expectSeparator
  return ⟨pattern, none⟩

/-- Read a part of a script. -/
def takePart (inner : Inner) (s : RecordScript) : ReadRecord RecordScript := do
  if ← acceptWord "BEGIN" then
    return { s with begins := s.begins ++ [← takeScoped inner .beginning] }
  if ← acceptWord "END" then return { s with ends := s.ends ++ [← takeScoped inner .ending] }
  if ← acceptWord "function" then return ← takeFunction inner s
  return { s with rules := s.rules ++ [← takeRule inner] }

/-- What is wrong with a call, given the functions of the script. -/
def callFault? (functions : List RecordFunction) (c : RecordCall) : Option String :=
  match functions.find? fun f => f.name = c.name with
  | none => none
  | some f =>
      if f.params.length < c.arguments.length then
        some ("line " ++ toString c.line ++ ": too many arguments in call to " ++ c.name)
      else
        let clashes := (f.kinds.zip c.arguments).zipIdx 1 |>.filter fun ((want, given), _) =>
          want.isSome && given.isSome && want ≠ given
        clashes.head?.map fun (_, i) => "line " ++ toString c.line ++ ": type error in arg("
          ++ toString i ++ ") in call to " ++ c.name

/-- Say what is wrong with the calls of a script. -/
def checkCalls (s : RecordScript) : ReadRecord Unit := do
  let calls := (← get).calls
  for c in calls do
    if let some fault := callFault? s.functions c then say fault
  let missing := (calls.map RecordCall.name).eraseDups.filter fun name =>
    !s.functions.any fun f => f.name = name
  for name in missing.reverse do sayHere ("function " ++ name ++ " never defined")

/-- Read a script. -/
def takeScript : ReadRecord RecordScript := do
  let inner := innerWithin deepest
  let mut s : RecordScript := {}
  skipLines
  for _ in [0:longest] do
    match ← peek with
    | .ending => break
    | _ => pure ()
    let before := s
    s ← try takePart inner before
      catch stop => do
        match stop with
        | .over => throw .over
        | .unexpected => do
            for _ in [0:longest] do
              match ← take with
              | .mark "\x7b" => break
              | .ending => throw .over
              | _ => pure ()
            giveBack (.mark "\x7b")
            modify fun r => { r with params := [], scope := .main, isPrinting := false }
            discard (takeBlock inner)
            pure before
  if (← get).complaints.isEmpty then checkCalls s
  return s

/-- The names that stand for something in every script. -/
def givenNames : List (String × RecordNameKind) :=
  [("NR", .variable), ("FNR", .variable), ("ARGC", .variable), ("FILENAME", .variable),
    ("OFS", .variable), ("ORS", .variable), ("RLENGTH", .variable), ("RSTART", .variable),
    ("SUBSEP", .variable), ("ARGV", .array), ("ENVIRON", .array)]

end RecordReader

/-- The script that a text spells, or what is wrong with the text. -/
def RecordScript.ofText? (text : String) : Except (List String) RecordScript :=
  match RecordReader.takeScript.run { rest := text.toList ++ ['\n'], names := RecordReader.givenNames } with
  | .ok s r => if r.complaints.isEmpty then .ok s else .error r.complaints.reverse
  | .error _ r => .error r.complaints.reverse

end ToyLang.Tools
