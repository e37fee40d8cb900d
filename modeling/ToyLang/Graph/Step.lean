import ToyLang.Graph.Basic

/-!
# Building a graph step by step

A client builds a graph by steps that name earlier nodes by their numbers.  A step whose
references all exist yields the node it created or changed; any other step is refused and
leaves the graph as it was.

## Main definitions

* `Step` — one step.
* `Handle` — the node that a step is about.
* `Step.run` — its effect.
-/

namespace ToyLang

/-- The number of a node together with its kind. -/
inductive Handle where
  | expr (e : ExprRef)
  | stmt (s : StmtRef)
  | block (b : BlockRef)
  | var (v : VarRef)
  | function (f : FunctionRef)
  deriving DecidableEq, Repr

/-- One step of building a graph.  Functions are given by their names in the source, and where an
operator is asked for, its tag will do. -/
inductive Step where
  | int (value : Int64)
  | float (value : Binary64)
  | bool (value : Bool)
  | ident (name : String)
  | call (callee : String) (args : List ExprRef)
  | arith (lhs : ExprRef) (op : Operator ArithmeticOp) (rhs : ExprRef)
  | compare (lhs : ExprRef) (op : Operator ComparisonOp) (rhs : ExprRef)
  | assign (target : String) (value : ExprRef)
  | group (inner : ExprRef)
  | stmt (node : StmtNode)
  | block
  | push (block : BlockRef) (stmt : StmtRef)
  | var (name type : String) (init : Option ExprRef)
  | setInit (var : VarRef) (init : ExprRef)
  | function (name : String) (params : List Param) (result : String) (body : BlockRef)
  deriving DecidableEq, Repr

namespace Graph

/-- Whether a number belongs to a node of the graph. -/
def has (g : Graph) : Handle → Bool
  | .expr e => e.index < g.exprs.size
  | .stmt s => s.index < g.stmts.size
  | .block b => b.index < g.blocks.size
  | .var v => v.index < g.vars.size
  | .function f => f.index < g.functions.size

end Graph

/-- The nodes that a statement refers to. -/
def StmtNode.references : StmtNode → List Handle
  | eval value => [.expr value]
  | ret value => [.expr value]
  | var v => [.var v]
  | function f => [.function f]
  | block body => [.block body]
  | cond test body none => [.expr test, .stmt body]
  | cond test body (some otherwise) => [.expr test, .stmt body, .stmt otherwise]
  | loop test body => [.expr test, .block body]
  | count _ first bound body => [.expr first, .expr bound, .block body]

namespace Step

/-- The nodes that a step refers to. -/
def references : Step → List Handle
  | int _ | float _ | bool _ | ident _ | block | var _ _ none => []
  | call _ args => args.map .expr
  | arith lhs _ rhs => [.expr lhs, .expr rhs]
  | compare lhs _ rhs => [.expr lhs, .expr rhs]
  | assign _ value => [.expr value]
  | group inner => [.expr inner]
  | stmt node => node.references
  | push b s => [.block b, .stmt s]
  | var _ _ (some init) => [.expr init]
  | setInit v init => [.var v, .expr init]
  | function _ _ _ body => [.block body]

/-- What a step does to the graph, and the node it creates or changes. -/
def build : Step → Build Handle
  | int value => .expr <$> Build.addExpr (.int value)
  | float value => .expr <$> Build.addExpr (.float value)
  | bool value => .expr <$> Build.addExpr (.bool value)
  | ident name => .expr <$> Build.addExpr (.ident name)
  | call callee args => .expr <$> Build.addCall callee args
  | arith lhs op rhs => .expr <$> Build.addExpr (.arith lhs op rhs)
  | compare lhs op rhs => .expr <$> Build.addExpr (.compare lhs op rhs)
  | assign target value => .expr <$> Build.addExpr (.assign target value)
  | group inner => .expr <$> Build.addExpr (.group inner)
  | stmt node => .stmt <$> Build.addStmt node
  | block => .block <$> Build.addBlock
  | push b s => do
      Build.push b s
      pure (.block b)
  | var name type init => .var <$> Build.addVar name type init
  | setInit v init => do
      Build.setInit v init
      pure (.var v)
  | function name params result body => .function <$> Build.addFunction name params result body

/-- Carry a step out if every node that it refers to exists. -/
def run (s : Step) (g : Graph) : Option (Handle × Graph) :=
  if s.references.all g.has then some (s.build g) else none

/-- The graph after a list of steps, those that are refused being passed over. -/
def runAll (steps : List Step) (g : Graph) : Graph :=
  steps.foldl (fun g s => ((s.run g).map Prod.snd).getD g) g

end Step

end ToyLang
