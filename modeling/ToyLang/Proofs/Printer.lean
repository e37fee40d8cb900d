import ToyLang.Binary64.Text
import ToyLang.Cpp.Builtin
import ToyLang.Source.Basic

/-!
# Printing a tree directly

The C++ text of a tree, by recursion over the tree alone: no graph and no tree of the target is
built on the way.  Every part is printed where it stands, once.

A block has a number, the number of blocks that open before it; the top level is block
zero.  So the printer of a statement is told how many blocks open before the statement, and
the parts of the statement add what opens in the parts to their left.

A source file is printed as the tree that is handed over for it.

## Main definitions

* `Ast.Stmt.blocks`, `Ast.Item.blocks` — how many blocks open in a part of a tree.
* `Ast.Expr.cpp`, `Ast.Stmt.cpp`, `Ast.Item.cpp` — the text of each part.
* `Ast.cppFile` — the text of the whole file.
* `Source.Expr.cpp`, `Source.Stmt.cpp`, `Source.cppFile` — the same for a source file.
-/

namespace ToyLang

/-! ### Blocks and what stands around the declarations -/

/-- The block with number `n`, which is not the body of a function. -/
def labelled (n : Nat) (body : String) : String :=
  "\n\x7b // start: " ++ toString n ++ "\n" ++ body ++ "\x7d // end: " ++ toString n ++ "\n"

/-- The body of a function. -/
def owned (function body : String) : String :=
  "\n\x7b\n" ++ body ++ "\x7d // end: " ++ function ++ "\n"

/-- What stands before the program. -/
def prelude : String :=
  "#include <iostream>\n\n" ++
  "void printi(long long arg) \x7b\nstd::cout << arg << std::endl;\n\x7d\n\n" ++
  "void printd(double arg) \x7b\nstd::cout << arg << std::endl;\n\x7d\n"

/-- What stands behind the program: the entry point of the file calls that of the
program. -/
def epilogue : String :=
  "int main(int argc, char** argv) \x7b\nmain__func__();\nreturn 0;\n\x7d\n"

namespace Ast

/-! ### Expressions -/

/-- What stands between two operands: a token between blanks, or a placeholder that shows what is
no token. -/
def operatorCpp (tokens : List String) (kind tag : String) : String :=
  if tag ∈ tokens then " " ++ tag ++ " " else " <unknown " ++ kind ++ " op `" ++ tag ++ "`> "

mutual

/-- An expression in C++.  Only the callee of a call is renamed. -/
def Expr.cpp : Expr → String
  | .int value => toString value.toInt
  | .float value => value.text
  | .bool value => if value then " true" else " false"
  | .ident name => name
  | .call callee args => Cpp.mangle callee ++ "(" ++ ", ".intercalate (cppEach args) ++ ")"
  | .arith tag lhs rhs => lhs.cpp ++ operatorCpp ["+", "-", "*", "/"] "binary" tag ++ rhs.cpp
  | .compare tag lhs rhs =>
      lhs.cpp ++ operatorCpp ["==", "!=", "<=", ">=", "<", ">"] "comparison" tag ++ rhs.cpp
  | .assign target value => target ++ " = " ++ value.cpp
  | .paren inner => "(" ++ inner.cpp ++ ")"

/-- Each of some expressions in C++. -/
def cppEach : List Expr → List String
  | [] => []
  | e :: es => e.cpp :: cppEach es

end

/-- The declaration of a variable in C++. -/
def Binding.cpp (b : Binding) : String := b.type ++ " " ++ b.name ++ " = " ++ b.init.cpp ++ ";\n"

/-! ### Counting blocks -/

mutual

/-- The number of blocks that open in a statement. -/
def Stmt.blocks : Stmt → Nat
  | .bind _ | .ret _ | .eval _ => 0
  | .cond _ body otherwise => 1 + blocksOfAll body + blocksOfElse otherwise
  | .loop _ body | .count _ _ _ body | .block body => 1 + blocksOfAll body

/-- The number of blocks that open behind an `else`. -/
def blocksOfElse : Option Stmt → Nat
  | none => 0
  | some s => s.blocks

/-- The number of blocks that open in some statements. -/
def blocksOfAll : List Stmt → Nat
  | [] => 0
  | s :: ss => s.blocks + blocksOfAll ss

end

/-- The number of blocks that open in a declaration at the top level. -/
def Item.blocks : Item → Nat
  | .function f => 1 + blocksOfAll f.body
  | .bind _ => 0

/-- The number of blocks that open in some declarations. -/
def blocksOfItems : List Item → Nat
  | [] => 0
  | i :: is => i.blocks + blocksOfItems is

/-! ### Statements -/

mutual

/-- A statement in C++ before which `n` blocks open. -/
def Stmt.cpp (n : Nat) : Stmt → String
  | .bind b => b.cpp
  | .ret value => "return " ++ value.cpp ++ ";\n"
  | .cond test body otherwise =>
      "\nif (" ++ test.cpp ++ ")" ++ labelled n (cppOfAll (n + 1) body)
        ++ cppOfElse (n + 1 + blocksOfAll body) otherwise
  | .loop test body => "while (" ++ test.cpp ++ ")" ++ labelled n (cppOfAll (n + 1) body)
  | .count var first bound body =>
      "for (long long " ++ var ++ " = " ++ first.cpp ++ "; " ++ var ++ " < " ++ bound.cpp
        ++ "; ++" ++ var ++ ")" ++ labelled n (cppOfAll (n + 1) body)
  | .block body => labelled n (cppOfAll (n + 1) body)
  | .eval value => value.cpp ++ ";\n"

/-- An `else` in C++ with the statement that follows it, or nothing. -/
def cppOfElse (n : Nat) : Option Stmt → String
  | none => ""
  | some s => "else" ++ s.cpp n

/-- Statements in C++, one after the other. -/
def cppOfAll (n : Nat) : List Stmt → String
  | [] => ""
  | s :: ss => s.cpp n ++ cppOfAll (n + s.blocks) ss

end

section

variable (n : Nat) (value test first bound : Expr) (body : List Stmt) (otherwise : Option Stmt)

@[simp] theorem Stmt.cpp_bind (b : Binding) : (Stmt.bind b).cpp n = b.cpp := rfl

@[simp] theorem Stmt.cpp_ret : (Stmt.ret value).cpp n = "return " ++ value.cpp ++ ";\n" := rfl

@[simp] theorem Stmt.cpp_cond : (Stmt.cond test body otherwise).cpp n
    = "\nif (" ++ test.cpp ++ ")" ++ labelled n (cppOfAll (n + 1) body)
      ++ cppOfElse (n + 1 + blocksOfAll body) otherwise := rfl

@[simp] theorem Stmt.cpp_loop : (Stmt.loop test body).cpp n
    = "while (" ++ test.cpp ++ ")" ++ labelled n (cppOfAll (n + 1) body) := rfl

@[simp] theorem Stmt.cpp_count (var : String) : (Stmt.count var first bound body).cpp n
    = "for (long long " ++ var ++ " = " ++ first.cpp ++ "; " ++ var ++ " < " ++ bound.cpp
      ++ "; ++" ++ var ++ ")" ++ labelled n (cppOfAll (n + 1) body) := rfl

@[simp] theorem Stmt.cpp_block : (Stmt.block body).cpp n = labelled n (cppOfAll (n + 1) body) :=
  rfl

@[simp] theorem Stmt.cpp_eval : (Stmt.eval value).cpp n = value.cpp ++ ";\n" := rfl

@[simp] theorem cppOfElse_none : cppOfElse n none = "" := rfl

@[simp] theorem cppOfElse_some (s : Stmt) : cppOfElse n (some s) = "else" ++ s.cpp n := rfl

@[simp] theorem cppOfAll_nil : cppOfAll n [] = "" := rfl

@[simp] theorem cppOfAll_cons (s : Stmt) (ss : List Stmt) :
    cppOfAll n (s :: ss) = s.cpp n ++ cppOfAll (n + s.blocks) ss := rfl

end

/-! ### The file -/

/-- A function in C++.  Its body is a block with a number that is not printed. -/
def Function.cpp (n : Nat) (f : Function) : String :=
  f.result ++ " " ++ Cpp.mangle f.name
    ++ "(" ++ ", ".intercalate (f.params.map fun p => p.type ++ " " ++ p.name) ++ ")"
    ++ owned (Cpp.mangle f.name) (cppOfAll (n + 1) f.body) ++ "\n"

/-- A declaration at the top level in C++. -/
def Item.cpp (n : Nat) : Item → String
  | .function f => f.cpp n
  | .bind b => b.cpp

/-- Declarations in C++, one after the other. -/
def cppOfItems (n : Nat) : List Item → String
  | [] => ""
  | i :: is => i.cpp n ++ cppOfItems (n + i.blocks) is

/-- The file of a program.  The top level, block zero, has line feeds for braces. -/
def cppFile (items : List Item) : String :=
  prelude ++ "\n\n" ++ cppOfItems 1 items ++ "\n" ++ epilogue

end Ast

namespace Source

/-! ### Source files -/

/-- An expression of a source file in C++. -/
def Expr.cpp (e : Expr) : String := e.ast.cpp

/-- Each of some expressions in C++. -/
def cppEach (es : List Expr) : List String := Ast.cppEach (astsOf es)

/-- The declaration of a variable in C++. -/
def Binding.cpp (b : Binding) : String := b.ast.cpp

/-- The number of blocks that open in a statement. -/
def Stmt.blocks (s : Stmt) : Nat := s.ast.blocks

/-- The number of blocks that open behind an `else`. -/
def Else.blocks (o : Else) : Nat := Ast.blocksOfElse o.ast

/-- The number of blocks that open in some statements. -/
def blocksOfAll (ss : List Stmt) : Nat := Ast.blocksOfAll (astsOfAll ss)

/-- The number of blocks that open in a declaration at the top level. -/
def Item.blocks (i : Item) : Nat := i.ast.blocks

/-- The number of blocks that open in some declarations. -/
def blocksOfItems (items : List Item) : Nat := Ast.blocksOfItems (items.map Item.ast)

/-- A statement in C++ before which `n` blocks open. -/
def Stmt.cpp (n : Nat) (s : Stmt) : String := s.ast.cpp n

/-- An `else` in C++ with what follows it, or nothing. -/
def Else.cpp (n : Nat) (o : Else) : String := Ast.cppOfElse n o.ast

/-- Statements in C++, one after the other. -/
def cppOfAll (n : Nat) (ss : List Stmt) : String := Ast.cppOfAll n (astsOfAll ss)

/-- A function in C++. -/
def Function.cpp (n : Nat) (f : Function) : String := f.ast.cpp n

/-- A declaration at the top level in C++. -/
def Item.cpp (n : Nat) (i : Item) : String := i.ast.cpp n

/-- Declarations in C++, one after the other. -/
def cppOfItems (n : Nat) (items : List Item) : String := Ast.cppOfItems n (items.map Item.ast)

/-- The file of a program. -/
def cppFile (items : List Item) : String := Ast.cppFile (items.map Item.ast)

section

variable (value lhs rhs inner : Expr) (es : List Expr)

@[simp] theorem Expr.cpp_int (value : Int64) : (Expr.int value).cpp = toString value.toInt := rfl

@[simp] theorem Expr.cpp_float (value : Binary64) : (Expr.float value).cpp = value.text := rfl

@[simp] theorem Expr.cpp_bool (value : Bool) :
    (Expr.bool value).cpp = if value then " true" else " false" := rfl

@[simp] theorem Expr.cpp_ident (name : String) : (Expr.ident name).cpp = name := rfl

@[simp] theorem Expr.cpp_call (callee : String) : (Expr.call callee es).cpp
    = Cpp.mangle callee ++ "(" ++ ", ".intercalate (cppEach es) ++ ")" := rfl

/-- The operators of a source file are tokens. -/
@[simp] theorem Expr.cpp_arith (op : ArithmeticOp) :
    (Expr.arith op lhs rhs).cpp = lhs.cpp ++ " " ++ op.token ++ " " ++ rhs.cpp := by
  have htoken : op.token ∈ ["+", "-", "*", "/"] := by cases op <;> decide
  rw [cpp, ast, Ast.Expr.cpp, Ast.operatorCpp, if_pos htoken, ← String.append_assoc,
    ← String.append_assoc]
  rfl

@[simp] theorem Expr.cpp_compare (op : ComparisonOp) :
    (Expr.compare op lhs rhs).cpp = lhs.cpp ++ " " ++ op.token ++ " " ++ rhs.cpp := by
  have htoken : op.token ∈ ["==", "!=", "<=", ">=", "<", ">"] := by cases op <;> decide
  rw [cpp, ast, Ast.Expr.cpp, Ast.operatorCpp, if_pos htoken, ← String.append_assoc,
    ← String.append_assoc]
  rfl

@[simp] theorem Expr.cpp_assign (target : String) :
    (Expr.assign target value).cpp = target ++ " = " ++ value.cpp := rfl

@[simp] theorem Expr.cpp_paren : (Expr.paren inner).cpp = "(" ++ inner.cpp ++ ")" := rfl

@[simp] theorem cppEach_nil : cppEach [] = [] := rfl

@[simp] theorem cppEach_cons : cppEach (value :: es) = value.cpp :: cppEach es := rfl

theorem Binding.cpp_eq (b : Binding) :
    b.cpp = b.type ++ " " ++ b.name ++ " = " ++ b.init.cpp ++ ";\n" := rfl

end

section

variable (test first bound value : Expr) (s : Stmt) (ss body : List Stmt) (otherwise : Else)

@[simp] theorem Stmt.blocks_bind (b : Binding) : (Stmt.bind b).blocks = 0 := rfl

@[simp] theorem Stmt.blocks_ret : (Stmt.ret value).blocks = 0 := rfl

@[simp] theorem Stmt.blocks_cond : (Stmt.cond test body otherwise).blocks
    = 1 + blocksOfAll body + otherwise.blocks := rfl

@[simp] theorem Stmt.blocks_loop : (Stmt.loop test body).blocks = 1 + blocksOfAll body := rfl

@[simp] theorem Stmt.blocks_count (var : String) :
    (Stmt.count var first bound body).blocks = 1 + blocksOfAll body := rfl

@[simp] theorem Stmt.blocks_block : (Stmt.block body).blocks = 1 + blocksOfAll body := rfl

@[simp] theorem Stmt.blocks_eval : (Stmt.eval value).blocks = 0 := rfl

@[simp] theorem Else.blocks_none : Else.none.blocks = 0 := rfl

@[simp] theorem Else.blocks_block : (Else.block body).blocks = 1 + blocksOfAll body := rfl

@[simp] theorem Else.blocks_cond : (Else.cond test body otherwise).blocks
    = 1 + blocksOfAll body + otherwise.blocks := rfl

@[simp] theorem blocksOfAll_nil : blocksOfAll [] = 0 := rfl

@[simp] theorem blocksOfAll_cons : blocksOfAll (s :: ss) = s.blocks + blocksOfAll ss := rfl

@[simp] theorem Item.blocks_function (f : Function) :
    (Item.function f).blocks = 1 + blocksOfAll f.body := rfl

@[simp] theorem Item.blocks_bind (b : Binding) : (Item.bind b).blocks = 0 := rfl

@[simp] theorem blocksOfItems_nil : blocksOfItems [] = 0 := rfl

@[simp] theorem blocksOfItems_cons (i : Item) (is : List Item) :
    blocksOfItems (i :: is) = i.blocks + blocksOfItems is := rfl

end

section

variable (n : Nat) (value test first bound : Expr) (body : List Stmt) (otherwise : Else)

@[simp] theorem Stmt.cpp_bind (b : Binding) : (Stmt.bind b).cpp n = b.cpp := rfl

@[simp] theorem Stmt.cpp_ret : (Stmt.ret value).cpp n = "return " ++ value.cpp ++ ";\n" := rfl

@[simp] theorem Stmt.cpp_cond : (Stmt.cond test body otherwise).cpp n
    = "\nif (" ++ test.cpp ++ ")" ++ labelled n (cppOfAll (n + 1) body)
      ++ otherwise.cpp (n + 1 + blocksOfAll body) := rfl

@[simp] theorem Stmt.cpp_loop : (Stmt.loop test body).cpp n
    = "while (" ++ test.cpp ++ ")" ++ labelled n (cppOfAll (n + 1) body) := rfl

@[simp] theorem Stmt.cpp_count (var : String) : (Stmt.count var first bound body).cpp n
    = "for (long long " ++ var ++ " = " ++ first.cpp ++ "; " ++ var ++ " < " ++ bound.cpp
      ++ "; ++" ++ var ++ ")" ++ labelled n (cppOfAll (n + 1) body) := rfl

@[simp] theorem Stmt.cpp_block : (Stmt.block body).cpp n = labelled n (cppOfAll (n + 1) body) :=
  rfl

@[simp] theorem Stmt.cpp_eval : (Stmt.eval value).cpp n = value.cpp ++ ";\n" := rfl

@[simp] theorem Else.cpp_none : Else.none.cpp n = "" := rfl

@[simp] theorem Else.cpp_block :
    (Else.block body).cpp n = "else" ++ labelled n (cppOfAll (n + 1) body) := rfl

@[simp] theorem Else.cpp_cond : (Else.cond test body otherwise).cpp n
    = "else\nif (" ++ test.cpp ++ ")" ++ labelled n (cppOfAll (n + 1) body)
      ++ otherwise.cpp (n + 1 + blocksOfAll body) := by
  have hjoin (t : String) : "else" ++ ("\nif (" ++ t) = "else\nif (" ++ t := by
    rw [← String.append_assoc]
    rfl
  change "else" ++ (Stmt.cond test body otherwise).cpp n = _
  simp only [Stmt.cpp_cond, String.append_assoc, hjoin]

@[simp] theorem cppOfAll_nil : cppOfAll n [] = "" := rfl

@[simp] theorem cppOfAll_cons (s : Stmt) (ss : List Stmt) :
    cppOfAll n (s :: ss) = s.cpp n ++ cppOfAll (n + s.blocks) ss := rfl

theorem Function.cpp_eq (f : Function) : f.cpp n
    = f.result ++ " " ++ Cpp.mangle f.name
      ++ "(" ++ ", ".intercalate (f.params.map fun p => p.type ++ " " ++ p.name) ++ ")"
      ++ owned (Cpp.mangle f.name) (cppOfAll (n + 1) f.body) ++ "\n" := rfl

@[simp] theorem Item.cpp_function (f : Function) : (Item.function f).cpp n = f.cpp n := rfl

@[simp] theorem Item.cpp_bind (b : Binding) : (Item.bind b).cpp n = b.cpp := rfl

@[simp] theorem cppOfItems_nil : cppOfItems n [] = "" := rfl

@[simp] theorem cppOfItems_cons (i : Item) (is : List Item) :
    cppOfItems n (i :: is) = i.cpp n ++ cppOfItems (n + i.blocks) is := rfl

theorem cppFile_eq (items : List Item) :
    cppFile items = prelude ++ "\n\n" ++ cppOfItems 1 items ++ "\n" ++ epilogue := rfl

end

end Source

end ToyLang
