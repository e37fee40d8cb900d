import ToyLang.Binary64.Basic
import ToyLang.Source.Basic
import ToyLang.Source.Reader

/-!
# The grammar

One reader for each notion of the language.  Alternatives are tried in order and nothing
is committed to: an assignment before a comparison, a numeral with a fraction before one
without, a call before a plain name.

An expression holds expressions and a statement holds statements, so these readers take
themselves as an argument (`self`), and a *budget* ties the knot: each level of nesting
costs one.  A level takes at least one character, so the length of the text is budget
enough.

The whole text has to be declarations.  The faults of a text are its whole numerals out
of range, in the order of the text, and then the one syntax error if declarations do not
reach to the end.

## Main definitions

* `expr`, `stmt`, `item` — the readers of the three levels.
* `file` — a whole text.
* `Fault` — what is wrong with a text.
* `parse` — the declarations of a text, or its faults.
-/

namespace ToyLang.Source

open Reader Text

/-- A numeral with a fraction, read as the nearest number. -/
def fractional : Reader Binary64 := do
  let n ← token takeFractional?
  pure (Binary64.ofDecimal n.negative n.digits n.fraction)

/-- One of some arithmetic operators. -/
def arithmeticOp (choices : List ArithmeticOp) : Reader ArithmeticOp :=
  token (takeOneOf? ArithmeticOp.token choices)

/-- A comparison operator; of two that begin alike the longer one is tried first. -/
def comparisonOp : Reader ComparisonOp := token (takeOneOf? ComparisonOp.token ComparisonOp.all)

/-! ### Expressions -/

/-- A call: a name and its arguments. -/
def call (budget : Nat) (self : Reader Expr) : Reader Expr := do
  let callee ← name
  symbol "("
  let args ← commaList self budget
  symbol ")"
  pure (.call callee args)

/-- An expression in parentheses. -/
def paren (self : Reader Expr) : Reader Expr := do
  symbol "("
  let inner ← self
  symbol ")"
  pure (.paren inner)

/-- An expression without an operator at its top. -/
def atom (budget : Nat) (self : Reader Expr) : Reader Expr :=
  (.float <$> fractional)
  <|> (.int <$> whole)
  <|> (do keyword .trueWord; pure (.bool true))
  <|> (do keyword .falseWord; pure (.bool false))
  <|> call budget self
  <|> (.ident <$> name)
  <|> paren self

/-- Operands with operators of one rank between them, grouped from the left. -/
def chain (choices : List ArithmeticOp) (operand : Reader Expr) (budget : Nat) : Reader Expr := do
  let first ← operand
  let others ← many
    (do
      let op ← arithmeticOp choices
      let rhs ← operand
      pure (op, rhs))
    budget
  pure (others.foldl (fun lhs r => .arith r.1 lhs r.2) first)

/-- A product of atoms. -/
def product (budget : Nat) (self : Reader Expr) : Reader Expr :=
  chain [.mul, .div] (atom budget self) budget

/-- A sum of products. -/
def sum (budget : Nat) (self : Reader Expr) : Reader Expr :=
  chain [.add, .sub] (product budget self) budget

/-- A sum, or a comparison of two. -/
def comparison (budget : Nat) (self : Reader Expr) : Reader Expr := do
  let lhs ← sum budget self
  (do
    let op ← comparisonOp
    let rhs ← sum budget self
    pure (.compare op lhs rhs))
  <|> pure lhs

/-- An assignment to a variable. -/
def assign (self : Reader Expr) : Reader Expr := do
  let target ← name
  symbol "="
  let value ← self
  pure (.assign target value)

/-- An expression, given a reader for the expressions inside it. -/
def exprOf (budget : Nat) (self : Reader Expr) : Reader Expr :=
  assign self <|> comparison budget self

/-- An expression that nests less deeply than the budget. -/
def expr : (budget : Nat) → Reader Expr
  | 0 => failure
  | budget + 1 => exprOf budget (expr budget)

/-! ### Statements -/

/-- The declaration of a variable. -/
def binding (budget : Nat) : Reader Binding := do
  keyword .letWord
  let ident ← name
  symbol ":"
  let type ← name
  symbol "="
  let init ← expr budget
  symbol ";"
  pure ⟨ident, type, init⟩

/-- Statements in braces. -/
def braced (budget : Nat) (self : Reader Stmt) : Reader (List Stmt) := do
  symbol "\x7b"
  let body ← many self budget
  symbol "\x7d"
  pure body

/-- The parts of a condition: the test, the body and what follows `else`. -/
structure Branch where
  test : Expr
  body : List Stmt
  otherwise : Else

/-- A condition with a chain of further ones that is shorter than `depth`. -/
def branch (budget : Nat) (body : Reader (List Stmt)) : (depth : Nat) → Reader Branch
  | 0 => failure
  | depth + 1 => do
      keyword .ifWord
      let test ← expr budget
      let block ← body
      let otherwise ←
        (do
          keyword .elseWord
          (do
            let next ← branch budget body depth
            pure (Else.cond next.test next.body next.otherwise))
          <|> (Else.block <$> body))
        <|> pure Else.none
      pure ⟨test, block, otherwise⟩

/-- The statement that leaves a function. -/
def giveBack (budget : Nat) : Reader Stmt := do
  keyword .returnWord
  let value ← expr budget
  symbol ";"
  pure (.ret value)

/-- A loop with a test. -/
def loop (budget : Nat) (body : Reader (List Stmt)) : Reader Stmt := do
  keyword .whileWord
  let test ← expr budget
  let block ← body
  pure (.loop test block)

/-- A loop that counts. -/
def count (budget : Nat) (body : Reader (List Stmt)) : Reader Stmt := do
  keyword .forWord
  let var ← name
  keyword .inWord
  let first ← expr budget
  symbol ".."
  let bound ← expr budget
  let block ← body
  pure (.count var first bound block)

/-- An expression for its effect. -/
def evaluation (budget : Nat) : Reader Stmt := do
  let value ← expr budget
  symbol ";"
  pure (.eval value)

/-- A statement, given a reader for the statements inside it. -/
def stmtOf (budget : Nat) (self : Reader Stmt) : Reader Stmt :=
  (.bind <$> binding budget)
  <|> giveBack budget
  <|> (do
        let b ← branch budget (braced budget self) budget
        pure (.cond b.test b.body b.otherwise))
  <|> loop budget (braced budget self)
  <|> count budget (braced budget self)
  <|> (.block <$> braced budget self)
  <|> evaluation budget

/-- A statement that nests less deeply than the budget. -/
def stmt : (budget : Nat) → Reader Stmt
  | 0 => failure
  | budget + 1 => stmtOf (budget + 1) (stmt budget)

/-! ### The top level -/

/-- A parameter of a function. -/
def param : Reader Param := do
  let ident ← name
  symbol ":"
  let type ← name
  pure ⟨ident, type⟩

/-- A function. -/
def function (budget : Nat) : Reader Function := do
  keyword .fnWord
  let callee ← name
  symbol "("
  let params ← commaList param budget
  symbol ")"
  symbol "->"
  let result ← name
  let body ← braced budget (stmt budget)
  pure ⟨callee, params, result, body⟩

/-- A declaration at the top level. -/
def item (budget : Nat) : Reader Item :=
  (.function <$> function budget) <|> (.bind <$> binding budget)

/-- As many declarations as the text begins with. -/
def file (budget : Nat) : Reader (List Item) := do
  trivia
  many (item budget) budget

/-! ### A whole text -/

/-- What is wrong with a source text. -/
inductive Fault where
  /-- A whole numeral of `width` characters, `offset` bytes from the start of the text,
  does not fit a 64-bit word. -/
  | intOutOfRange (offset width : Nat)
  /-- The text does not match the grammar. -/
  | syntaxError
  deriving DecidableEq, Repr

/-- The fault that an overflow is in a text of `length` bytes. -/
def Overflow.fault (length : Nat) (o : Overflow) : Fault :=
  .intOutOfRange (length - o.tail) o.width

/-- What a reading of declarations from a text of `length` bytes finds wrong. -/
def Reading.faults {α : Type} (length : Nat) (r : Reading α) : List Fault :=
  r.overflows.map (Overflow.fault length) ++ if r.rest = [] then [] else [.syntaxError]

/-- The declarations that a text consists of, or everything that is wrong with it. -/
def parse (text : String) : Except (List Fault) (List Item) :=
  let cs := text.toList
  match file cs.length cs with
  | none => .error [.syntaxError]
  | some r =>
      match r.faults (byteLength cs) with
      | [] => .ok r.value
      | faults => .error faults

end ToyLang.Source
