import ToyLang.Cpp.Render
import ToyLang.Proofs.Printer

/-!
# The C++ tree of a program

The tree of C++ that a program stands for, made by recursion over the tree of the program alone, and
its text, which is what the direct printer prints.

## Main definitions

* `Expr.target`, `Stmt.target`, `Item.target` — the tree of each part.

## Main results

* `Expr.text_target`, `Stmt.text_target`, `text_fileTarget` — the text of the tree.
-/

namespace ToyLang.Ast

/-! ### Trees -/

mutual

/-- The tree of an expression. -/
def Expr.target : Expr → Cpp.Expr
  | .int value => .int value
  | .float value => .float value
  | .bool value => .bool value
  | .ident name => .ident name
  | .call callee args => .call (Cpp.mangle callee) (targetsOf args)
  | .arith tag lhs rhs => .arith lhs.target (Operator.ofTag tag) rhs.target
  | .compare tag lhs rhs => .compare lhs.target (Operator.ofTag tag) rhs.target
  | .assign target value => .assign target value.target
  | .paren inner => .group inner.target

/-- The trees of some expressions. -/
def targetsOf : List Expr → List Cpp.Expr
  | [] => []
  | e :: es => e.target :: targetsOf es

end

/-- The tree of a variable. -/
def Binding.target (b : Binding) : Cpp.Stmt := .var b.type b.name b.init.target

mutual

/-- The tree of a statement before which `n` blocks open. -/
def Stmt.target (n : Nat) : Stmt → Cpp.Stmt
  | .bind b => b.target
  | .ret value => .ret value.target
  | .cond test body otherwise =>
      let block := Cpp.Stmt.block (.mk n none (targetsOfAll (n + 1) body))
      match targetOfElse (n + 1 + blocksOfAll body) otherwise with
      | none => .ifThen test.target block
      | some other => .ifElse test.target block other
  | .loop test body => .loop test.target (.mk n none (targetsOfAll (n + 1) body))
  | .count var first bound body =>
      .count var first.target bound.target (.mk n none (targetsOfAll (n + 1) body))
  | .block body => .block (.mk n none (targetsOfAll (n + 1) body))
  | .eval value => .eval value.target

/-- The tree of the statement that follows an `else`. -/
def targetOfElse (n : Nat) : Option Stmt → Option Cpp.Stmt
  | none => none
  | some s => some (s.target n)

/-- The trees of some statements. -/
def targetsOfAll (n : Nat) : List Stmt → List Cpp.Stmt
  | [] => []
  | s :: ss => s.target n :: targetsOfAll (n + s.blocks) ss

end

/-- The tree of a declaration at the top level. -/
def Item.target (n : Nat) : Item → Cpp.Item
  | .function f =>
      .function ⟨f.result, Cpp.mangle f.name, f.params,
        .mk n (some (Cpp.mangle f.name)) (targetsOfAll (n + 1) f.body)⟩
  | .bind b => .stmt b.target

/-- The trees of some declarations. -/
def targetsOfItems (n : Nat) : List Item → List Cpp.Item
  | [] => []
  | i :: is => i.target n :: targetsOfItems (n + i.blocks) is

/-! ### Their texts -/

/-- What an arithmetic tag is looked up as is printed as the direct printer prints the tag. -/
theorem text_arithmetic (tag : String) : (Operator.ofTag tag : Operator ArithmeticOp).text
    = operatorCpp ["+", "-", "*", "/"] "binary" tag := Operator.text_ofTag tag

theorem text_comparison (tag : String) : (Operator.ofTag tag : Operator ComparisonOp).text
    = operatorCpp ["==", "!=", "<=", ">=", "<", ">"] "comparison" tag := Operator.text_ofTag tag

mutual

theorem Expr.text_target : (e : Expr) → e.target.text = e.cpp
  | .int _ | .float _ | .ident _ => rfl
  | .bool _ => rfl
  | .call callee args => by
    rw [Expr.target, Cpp.Expr.text, Expr.cpp, argsText_targetsOf args]
  | .arith tag lhs rhs => by
    rw [Expr.target, Cpp.Expr.text, Expr.cpp, lhs.text_target, rhs.text_target, text_arithmetic]
  | .compare tag lhs rhs => by
    rw [Expr.target, Cpp.Expr.text, Expr.cpp, lhs.text_target, rhs.text_target, text_comparison]
  | .assign target value => by simp [Expr.target, Cpp.Expr.text, Expr.cpp, value.text_target]
  | .paren inner => by simp [Expr.target, Cpp.Expr.text, Expr.cpp, inner.text_target]

theorem argsText_targetsOf :
    (es : List Expr) → Cpp.argsText (targetsOf es) = ", ".intercalate (cppEach es)
  | [] => rfl
  | e :: es => by
    simp [targetsOf, Cpp.argsText, cppEach, e.text_target, moreArgsText_targetsOf e.cpp es]

theorem moreArgsText_targetsOf (first : String) :
    (es : List Expr) → first ++ Cpp.moreArgsText (targetsOf es)
      = ", ".intercalate (first :: cppEach es)
  | [] => by simp [targetsOf, Cpp.moreArgsText, cppEach]
  | e :: es => by
    simp [targetsOf, Cpp.moreArgsText, cppEach, e.text_target, ← moreArgsText_targetsOf e.cpp es,
      String.append_assoc]

end

@[simp] theorem Binding.text_target (b : Binding) : b.target.text = b.cpp := by
  simp [Binding.target, Binding.cpp, b.init.text_target]

/-- A block that is no function body is printed between its labels. -/
theorem text_nested (n : Nat) (body : List Cpp.Stmt) :
    (Cpp.Block.mk n none body).text = labelled n (Cpp.stmtsText body) := by
  rw [Cpp.Block.text_mk]
  unfold Cpp.openBrace Cpp.closeBrace labelled
  simp [← String.append_assoc]

mutual

theorem Stmt.text_target (n : Nat) : (s : Stmt) → (s.target n).text = s.cpp n
  | .bind b => b.text_target
  | .ret value => by simp [Stmt.target, value.text_target]
  | .cond test body otherwise => by
    have hotherwise := text_targetOfElse (n + 1 + blocksOfAll body) otherwise
    rw [Stmt.cpp_cond, ← hotherwise, Stmt.target]
    cases targetOfElse (n + 1 + blocksOfAll body) otherwise <;>
      simp [text_nested, test.text_target, text_targetsOfAll, String.append_assoc]
  | .loop test body => by
    simp [Stmt.target, test.text_target, text_nested, text_targetsOfAll]
  | .count var first bound body => by
    simp [Stmt.target, first.text_target, bound.text_target, text_nested, text_targetsOfAll]
  | .block body => by simp [Stmt.target, text_nested, text_targetsOfAll]
  | .eval value => by simp [Stmt.target, value.text_target]

/-- A branch that is there is printed behind an `else`. -/
theorem text_targetOfElse (n : Nat) : (o : Option Stmt) →
    ((targetOfElse n o).elim "" fun s => "else" ++ s.text) = cppOfElse n o
  | none => rfl
  | some s => congrArg ("else" ++ ·) (s.text_target n)

theorem text_targetsOfAll (n : Nat) : (ss : List Stmt) →
    Cpp.stmtsText (targetsOfAll n ss) = cppOfAll n ss
  | [] => rfl
  | s :: ss => by
    simp [targetsOfAll, s.text_target, text_targetsOfAll (n + s.blocks) ss]

end

/-! ### The file -/

theorem text_params (ps : List Param) :
    Cpp.paramsText ps = ", ".intercalate (ps.map fun p => p.type ++ " " ++ p.name) := by
  have hmore (first : String) (ps : List Param) : first ++ Cpp.moreParamsText ps
      = ", ".intercalate (first :: ps.map fun p => p.type ++ " " ++ p.name) := by
    induction ps generalizing first with
    | nil => simp [Cpp.moreParamsText]
    | cons p ps ih =>
      rw [Cpp.moreParamsText, List.map_cons, String.intercalate_cons_cons, ← ih, Param.text]
      simp only [String.append_assoc]
  cases ps with
  | nil => rfl
  | cons p ps => rw [Cpp.paramsText, hmore, List.map_cons, Param.text]

/-- The body of a function is closed with the name of the function. -/
theorem text_owned (n : Nat) (name : String) (body : List Cpp.Stmt) :
    (Cpp.Block.mk n (some name) body).text = owned name (Cpp.stmtsText body) := by
  rw [Cpp.Block.text_mk]
  unfold Cpp.openBrace Cpp.closeBrace owned
  simp [← String.append_assoc]

theorem Item.text_target (n : Nat) (i : Item) : (i.target n).text = i.cpp n := by
  cases i with
  | bind b => exact b.text_target
  | function f =>
    unfold Item.target Cpp.Item.text Cpp.Function.text Item.cpp Function.cpp
    simp [text_owned, text_params, text_targetsOfAll]

theorem text_targetsOfItems (n : Nat) (is : List Item) :
    Cpp.itemsText (targetsOfItems n is) = cppOfItems n is := by
  induction is generalizing n with
  | nil => rfl
  | cons i is ih => simp [targetsOfItems, Cpp.itemsText, cppOfItems, i.text_target, ih]

/-- The tree of a file is printed as the direct printer prints the file. -/
theorem text_fileTarget (items : List Item) :
    (Cpp.File.mk (targetsOfItems 1 items)).text = cppFile items := by
  rw [Cpp.File.text, text_targetsOfItems, cppFile]
  rfl

end ToyLang.Ast
