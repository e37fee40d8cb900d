import ToyLang.Cpp.Basic
import ToyLang.Cpp.Builtin

/-!
# Programs as graphs

A program under construction is a graph of numbered nodes of five kinds: expressions,
statements, blocks, variables and functions.  Nodes of each kind are numbered from zero
in the order of their creation.

An expression or a statement refers only to nodes that exist when it is created, so among
themselves these two kinds form no cycle.  A block is filled after its creation, so it may
come to hold itself.

## Main definitions

* `ExprNode`, `StmtNode`, `BlockNode`, `VarNode`, `FunctionNode` — the kinds of nodes.
* `Graph` — the nodes of one program.
* `Build` — actions that extend a graph, and `addExpr`, `addStmt`, … among them.
-/

namespace ToyLang

/-- The number of an expression. -/
@[ext] structure ExprRef where
  index : Nat
  deriving DecidableEq, Repr

/-- The number of a statement. -/
@[ext] structure StmtRef where
  index : Nat
  deriving DecidableEq, Repr

/-- The number of a block. -/
@[ext] structure BlockRef where
  index : Nat
  deriving DecidableEq, Repr

/-- The number of a variable. -/
@[ext] structure VarRef where
  index : Nat
  deriving DecidableEq, Repr

/-- The number of a function. -/
@[ext] structure FunctionRef where
  index : Nat
  deriving DecidableEq, Repr

/-- An expression. -/
inductive ExprNode where
  | int (value : Int64)
  | float (value : Binary64)
  | bool (value : Bool)
  | ident (name : String)
  | call (callee : String) (args : List ExprRef)
  | arith (lhs : ExprRef) (op : Operator ArithmeticOp) (rhs : ExprRef)
  | compare (lhs : ExprRef) (op : Operator ComparisonOp) (rhs : ExprRef)
  | assign (target : String) (value : ExprRef)
  | group (inner : ExprRef)
  deriving DecidableEq, Repr

/-- A statement.  A function declaration is a statement of the block that holds it. -/
inductive StmtNode where
  | eval (value : ExprRef)
  | ret (value : ExprRef)
  | var (v : VarRef)
  | function (f : FunctionRef)
  | block (body : BlockRef)
  | cond (test : ExprRef) (body : StmtRef) (otherwise : Option StmtRef)
  | loop (test : ExprRef) (body : BlockRef)
  | count (var : String) (first bound : ExprRef) (body : BlockRef)
  deriving DecidableEq, Repr

/-- A block: its own number, which its braces are marked with, its statements so far, the function
it is the body of, and whether it holds the top level of a program. -/
structure BlockNode where
  id : BlockRef
  stmts : List StmtRef := []
  owner : Option FunctionRef := none
  outermost : Bool := false
  deriving DecidableEq, Repr

/-- A variable; its initial value may be supplied later. -/
structure VarNode where
  name : String
  type : String
  init : Option ExprRef
  deriving DecidableEq, Repr

/-- A function.  Its name is a name in C++. -/
structure FunctionNode where
  name : String
  params : List Param
  result : String
  body : BlockRef
  deriving DecidableEq, Repr

/-- The nodes of one program. -/
structure Graph where
  exprs : Array ExprNode := #[]
  stmts : Array StmtNode := #[]
  blocks : Array BlockNode := #[]
  vars : Array VarNode := #[]
  functions : Array FunctionNode := #[]
  deriving DecidableEq, Repr

namespace Graph

/-- The graph without nodes. -/
def empty : Graph := {}

/-! ### Lookup

A number that no node has yields nothing. -/

/-- The expression with a number. -/
def expr? (g : Graph) (e : ExprRef) : Option ExprNode := g.exprs[e.index]?

/-- The statement with a number. -/
def stmt? (g : Graph) (s : StmtRef) : Option StmtNode := g.stmts[s.index]?

/-- The block with a number. -/
def block? (g : Graph) (b : BlockRef) : Option BlockNode := g.blocks[b.index]?

/-- The variable with a number. -/
def var? (g : Graph) (v : VarRef) : Option VarNode := g.vars[v.index]?

/-- The function with a number. -/
def function? (g : Graph) (f : FunctionRef) : Option FunctionNode := g.functions[f.index]?

/-- The name in C++ of the function that owns a block. -/
def ownerName (g : Graph) (b : BlockNode) : Option String :=
  (b.owner.bind g.function?).map FunctionNode.name

/-- Mark a block as the one that holds the top level. -/
def markOutermost (g : Graph) (b : BlockRef) : Graph :=
  { g with blocks := g.blocks.modify b.index fun node => { node with outermost := true } }

end Graph

/-! ### Construction -/

/-- An action that extends a graph. -/
abbrev Build := StateM Graph

namespace Build

/-- Add an expression. -/
def addExpr (node : ExprNode) : Build ExprRef :=
  modifyGet fun g => (⟨g.exprs.size⟩, { g with exprs := g.exprs.push node })

/-- Add a call; the callee is given by its name in the source. -/
def addCall (callee : String) (args : List ExprRef) : Build ExprRef :=
  addExpr (.call (Cpp.mangle callee) args)

/-- Add a statement. -/
def addStmt (node : StmtNode) : Build StmtRef :=
  modifyGet fun g => (⟨g.stmts.size⟩, { g with stmts := g.stmts.push node })

/-- Add a block without statements. -/
def addBlock : Build BlockRef :=
  modifyGet fun g => (⟨g.blocks.size⟩, { g with blocks := g.blocks.push { id := ⟨g.blocks.size⟩ } })

/-- Append a statement to a block. -/
def push (b : BlockRef) (s : StmtRef) : Build Unit :=
  modify fun g => { g with
    blocks := g.blocks.modify b.index fun node => { node with stmts := node.stmts ++ [s] } }

/-- Add a variable. -/
def addVar (name type : String) (init : Option ExprRef) : Build VarRef :=
  modifyGet fun g => (⟨g.vars.size⟩, { g with vars := g.vars.push ⟨name, type, init⟩ })

/-- Give a variable its initial value. -/
def setInit (v : VarRef) (init : ExprRef) : Build Unit :=
  modify fun g => { g with
    vars := g.vars.modify v.index fun node => { node with init := some init } }

/-- Add a function, given by its name in the source, and make it the owner of its
body. -/
def addFunction (name : String) (params : List Param) (result : String) (body : BlockRef) :
    Build FunctionRef :=
  modifyGet fun g =>
    (⟨g.functions.size⟩,
      { g with
        functions := g.functions.push ⟨Cpp.mangle name, params, result, body⟩
        blocks := g.blocks.modify body.index fun node =>
          { node with owner := some ⟨g.functions.size⟩ } })

end Build

end ToyLang
