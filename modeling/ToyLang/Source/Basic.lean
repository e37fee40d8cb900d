import ToyLang.Ast

/-!
# Source programs

The tree of a source file: functions and variables at the top level, statements inside
functions, and expressions.  Names stand as they were written.

The shape holds what the grammar promises about it: an operator is one of the ten tokens,
and what follows an `else` is a block or a further condition.  The compiler does not rely on that:
it takes any tree, and a source file is handed over as one.

## Main definitions

* `Expr`, `Stmt`, `Item` — the parts of a source file.
* `Expr.ast`, `Stmt.ast`, `Item.ast` — as they are handed over.
-/

namespace ToyLang.Source

/-- An expression. -/
inductive Expr where
  | int (value : Int64)
  | float (value : Binary64)
  | bool (value : Bool)
  | ident (name : String)
  | call (callee : String) (args : List Expr)
  | arith (op : ArithmeticOp) (lhs rhs : Expr)
  | compare (op : ComparisonOp) (lhs rhs : Expr)
  | assign (target : String) (value : Expr)
  | paren (inner : Expr)
  deriving Repr, Inhabited

/-- The declaration of a variable with its initial value. -/
structure Binding where
  name : String
  type : String
  init : Expr
  deriving Repr

mutual

/-- A statement. -/
inductive Stmt where
  /-- Declare a variable. -/
  | bind (b : Binding)
  /-- Leave the function with a value. -/
  | ret (value : Expr)
  /-- Run the body if the condition holds, and what follows `else` otherwise. -/
  | cond (test : Expr) (body : List Stmt) (otherwise : Else)
  /-- Run the body while the condition holds. -/
  | loop (test : Expr) (body : List Stmt)
  /-- Count a variable from a first value up to, and without, a bound. -/
  | count (var : String) (first bound : Expr) (body : List Stmt)
  /-- A scope of its own. -/
  | block (body : List Stmt)
  /-- Evaluate an expression for its effect. -/
  | eval (value : Expr)

/-- What follows the body of a condition. -/
inductive Else where
  | none
  | block (body : List Stmt)
  | cond (test : Expr) (body : List Stmt) (otherwise : Else)

end

/-- A function with its parameters, the type of its result and its body. -/
structure Function where
  name : String
  params : List Param
  result : String
  body : List Stmt

/-- A declaration at the top level. -/
inductive Item where
  | function (f : Function)
  | bind (b : Binding)

/-! ### As they are handed over -/

mutual

/-- An expression with the tokens of its operators. -/
def Expr.ast : Expr → Ast.Expr
  | .int value => .int value
  | .float value => .float value
  | .bool value => .bool value
  | .ident name => .ident name
  | .call callee args => .call callee (astsOf args)
  | .arith op lhs rhs => .arith op.token lhs.ast rhs.ast
  | .compare op lhs rhs => .compare op.token lhs.ast rhs.ast
  | .assign target value => .assign target value.ast
  | .paren inner => .paren inner.ast

/-- Some expressions with the tokens of their operators. -/
def astsOf : List Expr → List Ast.Expr
  | [] => []
  | e :: es => e.ast :: astsOf es

end

/-- A variable as it is handed over. -/
def Binding.ast (b : Binding) : Ast.Binding := ⟨b.name, b.type, b.init.ast⟩

mutual

/-- A statement as it is handed over. -/
def Stmt.ast : Stmt → Ast.Stmt
  | .bind b => .bind b.ast
  | .ret value => .ret value.ast
  | .cond test body otherwise => .cond test.ast (astsOfAll body) otherwise.ast
  | .loop test body => .loop test.ast (astsOfAll body)
  | .count var first bound body => .count var first.ast bound.ast (astsOfAll body)
  | .block body => .block (astsOfAll body)
  | .eval value => .eval value.ast

/-- The statement that follows an `else`, if there is one. -/
def Else.ast : Else → Option Ast.Stmt
  | .none => none
  | .block body => some (.block (astsOfAll body))
  | .cond test body otherwise => some (.cond test.ast (astsOfAll body) otherwise.ast)

/-- Some statements as they are handed over. -/
def astsOfAll : List Stmt → List Ast.Stmt
  | [] => []
  | s :: ss => s.ast :: astsOfAll ss

end

/-- A function as it is handed over. -/
def Function.ast (f : Function) : Ast.Function := ⟨f.name, f.params, f.result, astsOfAll f.body⟩

/-- A declaration as it is handed over. -/
def Item.ast : Item → Ast.Item
  | .function f => .function f.ast
  | .bind b => .bind b.ast

end ToyLang.Source
