import ToyLang.Cpp.Builtin
import ToyLang.Proofs.Printer
import ToyLang.Proofs.Spelling

/-!
# Renaming functions

Compilation changes a program in one respect: a function declared under the name of the entry
point gets another name, where it is declared and where it is called.  Here the same change is
made within the source language, so that what comes out of a compilation can be compared with
what went in.

## Main definitions

* `Expr.renamed`, `Stmt.renamed`, `Item.renamed` — a part of a program with the names of
  functions that it has in C++.
* `Expr.parts`, `Stmt.exprs`, `Item.exprs` — the expressions that occur in a part of a program.

## Main results

* `Stmt.blocks_renamed`, `Expr.WellFormed.renamed` — renaming keeps the number of blocks, and what
  the grammar allows.
* `Item.WellFormed.exprs` — every expression in what the grammar allows is one that it allows.
-/

namespace ToyLang.Source

open Text

/-! ### Renaming -/

mutual

/-- An expression with every callee renamed. -/
def Expr.renamed : Expr → Expr
  | .int value => .int value
  | .float value => .float value
  | .bool value => .bool value
  | .ident name => .ident name
  | .call callee args => .call (Cpp.mangle callee) (renamedEach args)
  | .arith op lhs rhs => .arith op lhs.renamed rhs.renamed
  | .compare op lhs rhs => .compare op lhs.renamed rhs.renamed
  | .assign target value => .assign target value.renamed
  | .paren inner => .paren inner.renamed

/-- Some expressions with every callee renamed. -/
def renamedEach : List Expr → List Expr
  | [] => []
  | e :: es => e.renamed :: renamedEach es

end

/-- A variable with the callees in its initial value renamed. -/
def Binding.renamed (b : Binding) : Binding := ⟨b.name, b.type, b.init.renamed⟩

mutual

/-- A statement with every callee renamed. -/
def Stmt.renamed : Stmt → Stmt
  | .bind b => .bind b.renamed
  | .ret value => .ret value.renamed
  | .cond test body otherwise => .cond test.renamed (renamedAll body) otherwise.renamed
  | .loop test body => .loop test.renamed (renamedAll body)
  | .count var first bound body => .count var first.renamed bound.renamed (renamedAll body)
  | .block body => .block (renamedAll body)
  | .eval value => .eval value.renamed

/-- What follows an `else`, with every callee renamed. -/
def Else.renamed : Else → Else
  | .none => .none
  | .block body => .block (renamedAll body)
  | .cond test body otherwise => .cond test.renamed (renamedAll body) otherwise.renamed

/-- Some statements with every callee renamed. -/
def renamedAll : List Stmt → List Stmt
  | [] => []
  | s :: ss => s.renamed :: renamedAll ss

end

/-- A function that is renamed together with every callee in its body. -/
def Function.renamed (f : Function) : Function :=
  ⟨Cpp.mangle f.name, f.params, f.result, renamedAll f.body⟩

/-- A declaration at the top level with the function that it declares and every callee
renamed. -/
def Item.renamed : Item → Item
  | .function f => .function f.renamed
  | .bind b => .bind b.renamed

theorem renamedEach_eq_map (es : List Expr) : renamedEach es = es.map Expr.renamed := by
  induction es with
  | nil => rfl
  | cons e es ih => rw [renamedEach, ih, List.map_cons]

mutual

/-- Renaming opens no blocks. -/
theorem Stmt.blocks_renamed : (s : Stmt) → s.renamed.blocks = s.blocks
  | .bind _ | .ret _ | .eval _ => rfl
  | .cond _ body otherwise => by
    rw [Stmt.renamed, Stmt.blocks_cond, blocksOfAll_renamedAll body, otherwise.blocks_renamed,
      Stmt.blocks_cond]
  | .loop _ body | .count _ _ _ body | .block body =>
    congrArg (1 + ·) (blocksOfAll_renamedAll body)

theorem Else.blocks_renamed : (o : Else) → o.renamed.blocks = o.blocks
  | .none => rfl
  | .block body => congrArg (1 + ·) (blocksOfAll_renamedAll body)
  | .cond _ body otherwise => by
    rw [Else.renamed, Else.blocks_cond, blocksOfAll_renamedAll body, otherwise.blocks_renamed,
      Else.blocks_cond]

theorem blocksOfAll_renamedAll : (ss : List Stmt) → blocksOfAll (renamedAll ss) = blocksOfAll ss
  | [] => rfl
  | s :: ss => by
    rw [renamedAll, blocksOfAll_cons, s.blocks_renamed, blocksOfAll_renamedAll ss, blocksOfAll_cons]

end

theorem Item.blocks_renamed (i : Item) : i.renamed.blocks = i.blocks := by
  cases i with
  | function f => exact congrArg (1 + ·) (blocksOfAll_renamedAll f.body)
  | bind b => rfl

/-- The name of the entry point in C++ is a name of the source language, too. -/
theorem isName_mangle {name : String} (h : isName name = true) :
    isName (Cpp.mangle name) = true := by
  unfold Cpp.mangle
  split
  · subst_vars
    decide
  · exact h

@[simp] theorem Expr.rank_renamed (e : Expr) : e.renamed.rank = e.rank := by
  cases e <;> rfl

/-- Renaming keeps what the grammar allows. -/
theorem Expr.WellFormed.renamed {e : Expr} (h : e.WellFormed) : e.renamed.WellFormed := by
  induction h with
  | int => exact .int
  | float n hdigits hfraction => exact .float n hdigits hfraction
  | bool => exact .bool
  | ident hname => exact .ident hname
  | @call callee args hname _ ih =>
    refine .call (isName_mangle hname) ?_
    rw [renamedEach_eq_map, List.forall_mem_map]
    exact ih
  | arith hlhs hrhs _ _ ihl ihr =>
    exact .arith (by rwa [rank_renamed]) (by rwa [rank_renamed]) ihl ihr
  | compare hlhs hrhs _ _ ihl ihr =>
    exact .compare (by rwa [rank_renamed]) (by rwa [rank_renamed]) ihl ihr
  | assign hname _ ih => exact .assign hname ih
  | paren _ ih => exact .paren ih

/-! ### Expressions that occur -/

mutual

/-- An expression and the expressions inside it. -/
def Expr.parts : Expr → List Expr
  | .int value => [.int value]
  | .float value => [.float value]
  | .bool value => [.bool value]
  | .ident name => [.ident name]
  | .call callee args => .call callee args :: partsOfEach args
  | .arith op lhs rhs => .arith op lhs rhs :: (lhs.parts ++ rhs.parts)
  | .compare op lhs rhs => .compare op lhs rhs :: (lhs.parts ++ rhs.parts)
  | .assign target value => .assign target value :: value.parts
  | .paren inner => .paren inner :: inner.parts

/-- Some expressions and the expressions inside them. -/
def partsOfEach : List Expr → List Expr
  | [] => []
  | e :: es => e.parts ++ partsOfEach es

end

mutual

/-- The expressions that occur in a statement. -/
def Stmt.exprs : Stmt → List Expr
  | .bind b => b.init.parts
  | .ret value | .eval value => value.parts
  | .cond test body otherwise => test.parts ++ (exprsOfAll body ++ otherwise.exprs)
  | .loop test body => test.parts ++ exprsOfAll body
  | .count _ first bound body => first.parts ++ (bound.parts ++ exprsOfAll body)
  | .block body => exprsOfAll body

/-- The expressions that occur behind an `else`. -/
def Else.exprs : Else → List Expr
  | .none => []
  | .block body => exprsOfAll body
  | .cond test body otherwise => test.parts ++ (exprsOfAll body ++ otherwise.exprs)

/-- The expressions that occur in some statements. -/
def exprsOfAll : List Stmt → List Expr
  | [] => []
  | s :: ss => s.exprs ++ exprsOfAll ss

end

/-- The expressions that occur in a declaration at the top level. -/
def Item.exprs : Item → List Expr
  | .function f => exprsOfAll f.body
  | .bind b => b.init.parts

theorem partsOfEach_eq_flatMap (es : List Expr) : partsOfEach es = es.flatMap Expr.parts := by
  induction es with
  | nil => rfl
  | cons e es ih => rw [partsOfEach, ih, List.flatMap_cons]

/-- The expressions inside one that the grammar allows are such. -/
theorem Expr.WellFormed.parts {e : Expr} (h : e.WellFormed) : ∀ p ∈ e.parts, p.WellFormed := by
  induction h with
  | int => exact List.forall_mem_singleton.mpr .int
  | float n hdigits hfraction =>
    exact List.forall_mem_singleton.mpr (.float n hdigits hfraction)
  | bool => exact List.forall_mem_singleton.mpr .bool
  | ident hname => exact List.forall_mem_singleton.mpr (.ident hname)
  | @call callee args hname hargs ih =>
    refine List.forall_mem_cons.mpr ⟨.call hname hargs, fun p hp => ?_⟩
    rw [partsOfEach_eq_flatMap, List.mem_flatMap] at hp
    obtain ⟨a, ha, hp⟩ := hp
    exact ih a ha p hp
  | arith hlhs hrhs hl hr ihl ihr =>
    exact List.forall_mem_cons.mpr ⟨.arith hlhs hrhs hl hr, List.forall_mem_append.mpr ⟨ihl, ihr⟩⟩
  | compare hlhs hrhs hl hr ihl ihr =>
    exact List.forall_mem_cons.mpr
      ⟨.compare hlhs hrhs hl hr, List.forall_mem_append.mpr ⟨ihl, ihr⟩⟩
  | assign hname hvalue ih => exact List.forall_mem_cons.mpr ⟨.assign hname hvalue, ih⟩
  | paren hinner ih => exact List.forall_mem_cons.mpr ⟨.paren hinner, ih⟩

mutual

theorem Stmt.WellFormed.exprs : {s : Stmt} → s.WellFormed → ∀ p ∈ s.exprs, p.WellFormed
  | .bind _, .bind hb => hb.init.parts
  | .ret _, .ret hvalue => hvalue.parts
  | .cond _ _ _, .cond htest hbody hotherwise =>
    List.forall_mem_append.mpr
      ⟨htest.parts, List.forall_mem_append.mpr ⟨wellFormed_exprsOfAll hbody, hotherwise.exprs⟩⟩
  | .loop _ _, .loop htest hbody =>
    List.forall_mem_append.mpr ⟨htest.parts, wellFormed_exprsOfAll hbody⟩
  | .count _ _ _ _, .count _ hfirst hbound hbody =>
    List.forall_mem_append.mpr
      ⟨hfirst.parts, List.forall_mem_append.mpr ⟨hbound.parts, wellFormed_exprsOfAll hbody⟩⟩
  | .block _, .block hbody => wellFormed_exprsOfAll hbody
  | .eval _, .eval hvalue => hvalue.parts

theorem Else.WellFormed.exprs : {o : Else} → o.WellFormed → ∀ p ∈ o.exprs, p.WellFormed
  | .none, .none => List.forall_mem_nil _
  | .block _, .block hbody => wellFormed_exprsOfAll hbody
  | .cond _ _ _, .cond htest hbody hotherwise =>
    List.forall_mem_append.mpr
      ⟨htest.parts, List.forall_mem_append.mpr ⟨wellFormed_exprsOfAll hbody, hotherwise.exprs⟩⟩

theorem wellFormed_exprsOfAll :
    {ss : List Stmt} → (∀ s ∈ ss, s.WellFormed) → ∀ p ∈ exprsOfAll ss, p.WellFormed
  | [], _ => List.forall_mem_nil _
  | _ :: _, h =>
    List.forall_mem_append.mpr
      ⟨(List.forall_mem_cons.mp h).1.exprs, wellFormed_exprsOfAll (List.forall_mem_cons.mp h).2⟩

end

/-- The expressions in a declaration that the grammar allows are such. -/
theorem Item.WellFormed.exprs {i : Item} (h : i.WellFormed) : ∀ p ∈ i.exprs, p.WellFormed := by
  cases i with
  | function f => exact wellFormed_exprsOfAll h.body
  | bind b => exact h.init.parts

end ToyLang.Source
