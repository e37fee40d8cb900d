import ToyLang.Binary64.Text
import ToyLang.Cpp.Builtin
import ToyLang.Graph.Basic

/-!
# Checking a program

A program is a graph with a root block, the top level of its file.  Checking walks
everything that is reached from the root, in the order in which it will be written, and
either finds the first thing that is wrong or spells the program out as a tree.

Expressions, and statements up to the blocks, variables and functions in them, refer only to
earlier nodes, so one pass in the order of creation spells out all of them.

A block may hold itself, so the walk remembers the blocks it has entered and refuses to
enter one twice.  Each level of nesting enters another block, so the walk never goes
deeper than the graph has blocks.

## Main definitions

* `Error` — a cause for which a program is refused.
* `Outline` — a statement that still refers to blocks, variables and functions by number.
* `Graph.exprTrees`, `Graph.outlines` — the trees of the expressions, the outlines of the
  statements.
* `Program` — a graph with its root.
* `Visit` — actions of the walk.
* `Program.check` — the walk over a whole program.
-/

namespace ToyLang

/-! ### What is wrong with a program -/

/-- A cause for which a program is refused. -/
inductive Error where
  /-- Two functions share a name, or one has the name of a builtin function. -/
  | duplicateFunction (name : String)
  /-- The program has no entry point. -/
  | missingEntryPoint (name : String)
  /-- A variable has no initial value. -/
  | missingInitializer (name : String)
  /-- A function is declared inside a block. -/
  | nestedFunction (name : String)
  /-- A floating-point literal is infinite or undefined. -/
  | nonFiniteFloat (text : String)
  /-- A block occurs at two places, or inside itself. -/
  | sharedBlock (number : Nat)
  deriving DecidableEq, Repr

/-- The wording of each cause. -/
def Error.message : Error → String
  | duplicateFunction name => "redefinition of function `" ++ name ++ "`"
  | missingEntryPoint name => "no `" ++ name ++ "` function definition found"
  | missingInitializer name => "variable `" ++ name ++ "` is declared without an initializer"
  | nestedFunction name => "function `" ++ name ++ "` must be declared at the top level"
  | nonFiniteFloat text => "float literal `" ++ text ++ "` has no C++ spelling"
  | sharedBlock number =>
      "block " ++ toString number ++ " appears more than once in the tree"

/-! ### Outlines -/

/-- The tree of an expression, given the trees of earlier ones. -/
def ExprNode.tree (earlier : ExprRef → Cpp.Expr) : ExprNode → Cpp.Expr
  | int value => .int value
  | float value => .float value
  | bool value => .bool value
  | ident name => .ident name
  | call callee args => .call callee (args.map earlier)
  | arith lhs op rhs => .arith (earlier lhs) op (earlier rhs)
  | compare lhs op rhs => .compare (earlier lhs) op (earlier rhs)
  | assign target value => .assign target (earlier value)
  | group inner => .group (earlier inner)

/-- A statement with the expressions and statements in it spelled out. -/
inductive Outline where
  | eval (value : Cpp.Expr)
  | ret (value : Cpp.Expr)
  | var (v : VarRef)
  | function (f : FunctionRef)
  | block (body : BlockRef)
  | ifThen (test : Cpp.Expr) (body : Outline)
  | ifElse (test : Cpp.Expr) (body otherwise : Outline)
  | loop (test : Cpp.Expr) (body : BlockRef)
  | count (var : String) (first bound : Cpp.Expr) (body : BlockRef)
  deriving Inhabited

/-- The outline of a statement, given the trees of all expressions and the outlines of
earlier statements. -/
def StmtNode.outline (expr : ExprRef → Cpp.Expr) (earlier : StmtRef → Outline) :
    StmtNode → Outline
  | eval value => .eval (expr value)
  | ret value => .ret (expr value)
  | var v => .var v
  | function f => .function f
  | block body => .block body
  | cond test body none => .ifThen (expr test) (earlier body)
  | cond test body (some otherwise) =>
      .ifElse (expr test) (earlier body) (earlier otherwise)
  | loop test body => .loop (expr test) body
  | count counter first bound body => .count counter (expr first) (expr bound) body

namespace Graph

/-- The trees of all expressions, by number. -/
def exprTrees (g : Graph) : Array Cpp.Expr :=
  g.exprs.foldl
    (fun trees node => trees.push (node.tree fun e => trees.getD e.index default)) #[]

/-- The outlines of all statements, by number. -/
def outlines (g : Graph) : Array Outline :=
  let trees := g.exprTrees
  g.stmts.foldl
    (fun outlines node => outlines.push
      (node.outline (fun e => trees.getD e.index default)
        fun s => outlines.getD s.index default))
    #[]

end Graph

/-! ### The walk -/

/-- A graph together with the block that holds its top level. -/
structure Program where
  graph : Graph
  root : BlockRef

/-- The program with a given root, which is marked as its outermost block. -/
def Program.new (graph : Graph) (root : BlockRef) : Program := ⟨graph.markOutermost root, root⟩

/-- What the walk has met so far: the blocks it entered and the names of the functions
declared. -/
structure Visited where
  blocks : List BlockRef := []
  functions : List String := []

/-- Actions of the walk; the first thing that is wrong ends it. -/
abbrev Visit := StateT Visited (Except Error)

namespace Visit

/-- Enter a block for the first time. -/
def enter (b : BlockRef) : Visit Unit := do
  let visited ← get
  if b ∈ visited.blocks then throw (.sharedBlock b.index)
  set { visited with blocks := b :: visited.blocks }

/-- Declare a function under a name that is still free. -/
def declare (name : String) : Visit Unit := do
  let visited ← get
  if Cpp.isBuiltinName name ∨ name ∈ visited.functions then throw (.duplicateFunction name)
  set { visited with functions := name :: visited.functions }

/-- An expression all of whose floating-point literals are finite. -/
def expr (e : Cpp.Expr) : Visit Cpp.Expr :=
  match e.nonFinite? with
  | some x => throw (.nonFiniteFloat x.text)
  | none => pure e

/-- A variable that has an initial value. -/
def var (trees : Array Cpp.Expr) (node : VarNode) : Visit Cpp.Stmt :=
  match node.init with
  | none => throw (.missingInitializer node.name)
  | some init => do
      let init ← expr (trees.getD init.index default)
      pure (.var node.type node.name init)

end Visit

/-- The node of a variable number.  A number that no node has, which no step of building
refers to, counts as a variable without a name. -/
def Graph.var (g : Graph) (v : VarRef) : VarNode := (g.var? v).getD ⟨"", "", none⟩

/-- The node of a function number; a number that no node has counts as a function without
a name. -/
def Graph.function (g : Graph) (f : FunctionRef) : FunctionNode :=
  (g.function? f).getD ⟨"", [], "", ⟨0⟩⟩

/-- The node of a block number; a number that no node has counts as an empty block. -/
def Graph.block (g : Graph) (b : BlockRef) : BlockNode := (g.block? b).getD { id := b }

/-- A graph with its expressions and statements spelled out. -/
structure Spelled where
  graph : Graph
  trees : Array Cpp.Expr
  outlines : Array Outline

/-- Spell out the expressions and statements of a graph. -/
def Graph.spell (g : Graph) : Spelled := ⟨g, g.exprTrees, g.outlines⟩

/-- The outlines of the statements of a block. -/
def Spelled.body (g : Spelled) (b : BlockRef) : List Outline :=
  (g.graph.block b).stmts.map fun s => g.outlines.getD s.index default

/-- Walk a statement that is not at the top level, given the walk of a block. -/
def Spelled.visitStmt (g : Spelled) (visitBlock : BlockRef → Visit Cpp.Block) :
    Outline → Visit Cpp.Stmt
  | .eval value => .eval <$> Visit.expr value
  | .ret value => .ret <$> Visit.expr value
  | .var v => Visit.var g.trees (g.graph.var v)
  | .function f => throw (.nestedFunction (g.graph.function f).name)
  | .block body => .block <$> visitBlock body
  | .ifThen test body => do
      let test ← Visit.expr test
      let body ← g.visitStmt visitBlock body
      pure (.ifThen test body)
  | .ifElse test body otherwise => do
      let test ← Visit.expr test
      let body ← g.visitStmt visitBlock body
      let otherwise ← g.visitStmt visitBlock otherwise
      pure (.ifElse test body otherwise)
  | .loop test body => do
      let test ← Visit.expr test
      let body ← visitBlock body
      pure (.loop test body)
  | .count var first bound body => do
      let first ← Visit.expr first
      let bound ← Visit.expr bound
      let body ← visitBlock body
      pure (.count var first bound body)

/-- Walk a block that is not the root.  The walk of a graph with `depth` blocks that are
not yet entered can nest no deeper than that, so at depth zero the block must have been
entered before. -/
def Spelled.visitBlock (g : Spelled) : (depth : Nat) → BlockRef → Visit Cpp.Block
  | 0, b => throw (.sharedBlock b.index)
  | depth + 1, b => do
      Visit.enter b
      let body ← (g.body b).mapM (g.visitStmt (g.visitBlock depth))
      let node := g.graph.block b
      pure (.mk node.id.index (g.graph.ownerName node) body)

/-- Walk a statement at the top level.  Only here may a function be declared; its name is
looked at before its body. -/
def Spelled.visitItem (g : Spelled) (visitBlock : BlockRef → Visit Cpp.Block) :
    Outline → Visit Cpp.Item
  | .function f => do
      let node := g.graph.function f
      Visit.declare node.name
      let body ← visitBlock node.body
      pure (.function ⟨node.result, node.name, node.params, body⟩)
  | s => .stmt <$> g.visitStmt visitBlock s

/-- Walk a program from its root block. -/
def Spelled.visitRoot (g : Spelled) (root : BlockRef) : Visit Cpp.File := do
  Visit.enter root
  let items ← (g.body root).mapM (g.visitItem (g.visitBlock g.graph.blocks.size))
  pure ⟨items⟩

/-- A program that passed the check: its file, and how many functions and blocks it
has. -/
structure Checked where
  file : Cpp.File
  functions : Nat
  blocks : Nat

namespace Program

/-- Check a program.  A missing entry point is noticed only after everything else. -/
def check (p : Program) : Except Error Checked := do
  let (file, visited) ← (p.graph.spell.visitRoot p.root).run {}
  if Cpp.mangle Cpp.entryPoint ∈ visited.functions then
    pure ⟨file, visited.functions.length, visited.blocks.length⟩
  else
    throw (.missingEntryPoint Cpp.entryPoint)

end Program

end ToyLang
