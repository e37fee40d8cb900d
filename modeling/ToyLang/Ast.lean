import ToyLang.Binary64.Basic
import ToyLang.Operator

/-!
# Trees as they are handed over

The tree of a program as whoever makes one may hand it over: functions and variables at the top
level, statements inside functions, and expressions.  Names stand as they were written.

Nothing is promised about the shape: an operator is given by a tag, which need not be the token of
any operator, and any statement may follow an `else`.
-/

namespace ToyLang.Ast

/-- An expression. -/
inductive Expr where
  | int (value : Int64)
  | float (value : Binary64)
  | bool (value : Bool)
  | ident (name : String)
  | call (callee : String) (args : List Expr)
  | arith (tag : String) (lhs rhs : Expr)
  | compare (tag : String) (lhs rhs : Expr)
  | assign (target : String) (value : Expr)
  | paren (inner : Expr)
  deriving Repr, Inhabited

/-- The declaration of a variable with its initial value. -/
structure Binding where
  name : String
  type : String
  init : Expr
  deriving Repr

/-- A statement. -/
inductive Stmt where
  /-- Declare a variable. -/
  | bind (b : Binding)
  /-- Leave the function with a value. -/
  | ret (value : Expr)
  /-- Run the body if the condition holds, and the statement that follows `else` otherwise. -/
  | cond (test : Expr) (body : List Stmt) (otherwise : Option Stmt)
  /-- Run the body while the condition holds. -/
  | loop (test : Expr) (body : List Stmt)
  /-- Count a variable from a first value up to, and without, a bound. -/
  | count (var : String) (first bound : Expr) (body : List Stmt)
  /-- A scope of its own. -/
  | block (body : List Stmt)
  /-- Evaluate an expression for its effect. -/
  | eval (value : Expr)

/-- A function with its parameters, the type of its result and its body. -/
structure Function where
  name : String
  params : List Param
  result : String
  body : List Stmt

/-- A declaration at the top level. -/
inductive Item where
  | function (f : Function)
  | bind (b : Binding)

end ToyLang.Ast
