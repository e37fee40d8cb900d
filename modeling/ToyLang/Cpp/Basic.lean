import ToyLang.Binary64.Basic
import ToyLang.Operator

/-!
# C++ programs

The tree of a generated file.  Its names are names in C++, and its blocks carry the
labels that their braces are marked with.
-/

namespace ToyLang.Cpp

/-- An expression. -/
inductive Expr where
  | int (value : Int64)
  | float (value : Binary64)
  | bool (value : Bool)
  | ident (name : String)
  | call (callee : String) (args : List Expr)
  | arith (lhs : Expr) (op : Operator ArithmeticOp) (rhs : Expr)
  | compare (lhs : Expr) (op : Operator ComparisonOp) (rhs : Expr)
  | assign (target : String) (value : Expr)
  | group (inner : Expr)
  deriving Repr, Inhabited

mutual

/-- The floating-point literals of an expression, from left to right. -/
def Expr.floats : Expr → List Binary64
  | .int _ | .bool _ | .ident _ => []
  | .float value => [value]
  | .call _ args => floatsOfAll args
  | .arith lhs _ rhs => lhs.floats ++ rhs.floats
  | .compare lhs _ rhs => lhs.floats ++ rhs.floats
  | .assign _ value => value.floats
  | .group inner => inner.floats

/-- The floating-point literals of some expressions. -/
def floatsOfAll : List Expr → List Binary64
  | [] => []
  | e :: es => e.floats ++ floatsOfAll es

end

mutual

/-- The first floating-point literal of an expression that is not finite.  The search ends
there: an expression that uses another one many times over is not walked to its end. -/
def Expr.nonFinite? : Expr → Option Binary64
  | .int _ | .bool _ | .ident _ => none
  | .float value => if value.isFinite then none else some value
  | .call _ args => nonFiniteAmong? args
  | .arith lhs _ rhs => lhs.nonFinite? <|> rhs.nonFinite?
  | .compare lhs _ rhs => lhs.nonFinite? <|> rhs.nonFinite?
  | .assign _ value => value.nonFinite?
  | .group inner => inner.nonFinite?

/-- The first floating-point literal of some expressions that is not finite. -/
def nonFiniteAmong? : List Expr → Option Binary64
  | [] => none
  | e :: es => e.nonFinite? <|> nonFiniteAmong? es

end

mutual

/-- The search finds the first literal of the list that is not finite. -/
theorem Expr.nonFinite?_eq : (e : Expr) → e.nonFinite? = e.floats.find? fun x => !x.isFinite
  | .int _ | .bool _ | .ident _ => by simp [Expr.nonFinite?, Expr.floats]
  | .float value => by
    cases h : value.isFinite <;> simp [Expr.nonFinite?, Expr.floats, h]
  | .call _ args => by simp [Expr.nonFinite?, Expr.floats, nonFiniteAmong?_eq args]
  | .arith lhs _ rhs => by
    simp [Expr.nonFinite?, Expr.floats, lhs.nonFinite?_eq, rhs.nonFinite?_eq]
  | .compare lhs _ rhs => by
    simp [Expr.nonFinite?, Expr.floats, lhs.nonFinite?_eq, rhs.nonFinite?_eq]
  | .assign _ value => by simp [Expr.nonFinite?, Expr.floats, value.nonFinite?_eq]
  | .group inner => by simp [Expr.nonFinite?, Expr.floats, inner.nonFinite?_eq]

/-- The same for some expressions. -/
theorem nonFiniteAmong?_eq :
    (es : List Expr) → nonFiniteAmong? es = (floatsOfAll es).find? fun x => !x.isFinite
  | [] => by simp [nonFiniteAmong?, floatsOfAll]
  | e :: es => by simp [nonFiniteAmong?, floatsOfAll, e.nonFinite?_eq, nonFiniteAmong?_eq es]

end

mutual

/-- A statement. -/
inductive Stmt where
  | eval (value : Expr)
  | ret (value : Expr)
  | var (type name : String) (init : Expr)
  | block (body : Block)
  | ifThen (test : Expr) (body : Stmt)
  | ifElse (test : Expr) (body otherwise : Stmt)
  | loop (test : Expr) (body : Block)
  | count (var : String) (first bound : Expr) (body : Block)

/-- Statements in braces: the number of the block and, for the body of a function, the
name of that function. -/
inductive Block where
  | mk (number : Nat) (owner : Option String) (body : List Stmt)

end

/-- The definition of a function. -/
structure Function where
  result : String
  name : String
  params : List Param
  body : Block

/-- A declaration or statement at the top level. -/
inductive Item where
  | function (f : Function)
  | stmt (s : Stmt)

/-- What a program contributes to its file. -/
structure File where
  items : List Item

end ToyLang.Cpp
