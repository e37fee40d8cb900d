import ToyLang.Ast
import ToyLang.Graph.Check

/-!
# From trees to graphs

Every part of a tree becomes nodes of a graph.  Parts come before the whole, with
two exceptions: a variable is created before its initial value, which is supplied
afterwards, and a block before the statements that are pushed onto it.

The tag of an operator is looked up on the way.

## Main definitions

* `Expr.lower`, `Stmt.lower`, `Item.lower` — adding a part of a tree to a graph.
* `toProgram` — the program of a tree.
-/

namespace ToyLang.Ast

mutual

/-- Add an expression. -/
def Expr.lower : Expr → Build ExprRef
  | .int value => Build.addExpr (.int value)
  | .float value => Build.addExpr (.float value)
  | .bool value => Build.addExpr (.bool value)
  | .ident name => Build.addExpr (.ident name)
  | .call callee args => do
      let args ← lowerArgs args
      Build.addCall callee args
  | .arith tag lhs rhs => do
      let lhs ← lhs.lower
      let rhs ← rhs.lower
      Build.addExpr (.arith lhs (Operator.ofTag tag) rhs)
  | .compare tag lhs rhs => do
      let lhs ← lhs.lower
      let rhs ← rhs.lower
      Build.addExpr (.compare lhs (Operator.ofTag tag) rhs)
  | .assign target value => do
      let value ← value.lower
      Build.addExpr (.assign target value)
  | .paren inner => do
      let inner ← inner.lower
      Build.addExpr (.group inner)

/-- Add the arguments of a call from left to right. -/
def lowerArgs : List Expr → Build (List ExprRef)
  | [] => pure []
  | e :: es => do
      let e ← e.lower
      let es ← lowerArgs es
      pure (e :: es)

end

/-- Add a variable with its initial value. -/
def Binding.lower (b : Binding) : Build VarRef := do
  let v ← Build.addVar b.name b.type none
  let init ← b.init.lower
  Build.setInit v init
  pure v

mutual

/-- Add a statement. -/
def Stmt.lower : Stmt → Build StmtRef
  | .bind b => do
      let v ← b.lower
      Build.addStmt (.var v)
  | .ret value => do
      let value ← value.lower
      Build.addStmt (.ret value)
  | .cond test body otherwise => do
      let test ← test.lower
      let block ← Build.addBlock
      lowerOnto block body
      let body ← Build.addStmt (.block block)
      let otherwise ← lowerElse otherwise
      Build.addStmt (.cond test body otherwise)
  | .loop test body => do
      let test ← test.lower
      let block ← Build.addBlock
      lowerOnto block body
      Build.addStmt (.loop test block)
  | .count var first bound body => do
      let first ← first.lower
      let bound ← bound.lower
      let block ← Build.addBlock
      lowerOnto block body
      Build.addStmt (.count var first bound block)
  | .block body => do
      let block ← Build.addBlock
      lowerOnto block body
      Build.addStmt (.block block)
  | .eval value => do
      let value ← value.lower
      Build.addStmt (.eval value)

/-- Add the statement that follows an `else`, if there is one. -/
def lowerElse : Option Stmt → Build (Option StmtRef)
  | none => pure none
  | some s => some <$> s.lower

/-- Add statements and push them onto a block one by one. -/
def lowerOnto (block : BlockRef) : List Stmt → Build Unit
  | [] => pure ()
  | s :: ss => do
      let s ← s.lower
      Build.push block s
      lowerOnto block ss

end

/-- Add a function. -/
def Function.lower (f : Function) : Build FunctionRef := do
  let block ← Build.addBlock
  lowerOnto block f.body
  Build.addFunction f.name f.params f.result block

/-- Add the statement that declares an item. -/
def Item.lower : Item → Build StmtRef
  | .function f => do
      let f ← f.lower
      Build.addStmt (.function f)
  | .bind b => do
      let v ← b.lower
      Build.addStmt (.var v)

/-- Add items and push their declarations onto a block one by one. -/
def lowerItemsOnto (block : BlockRef) : List Item → Build Unit
  | [] => pure ()
  | i :: is => do
      let s ← i.lower
      Build.push block s
      lowerItemsOnto block is

/-- Add a whole program; its root is the first block. -/
def lowerFile (items : List Item) : Build BlockRef := do
  let root ← Build.addBlock
  lowerItemsOnto root items
  pure root

/-- The program of a tree. -/
def toProgram (items : List Item) : Program :=
  let (root, graph) := (lowerFile items).run Graph.empty
  Program.new graph root

end ToyLang.Ast
