import ToyLang.Source.Basic

/-!
# Equality of source programs

Whether two source trees are the same can be computed, so that closed facts about programs are
decided by running them.

## Main definitions

* `Expr.same`, `Stmt.same`, `Else.same` — whether two trees are the same.
-/

namespace ToyLang.Source

mutual

/-- Whether two expressions are the same. -/
def Expr.same : Expr → Expr → Bool
  | .int m, .int n => m = n
  | .float x, .float y => x = y
  | .bool a, .bool b => a = b
  | .ident a, .ident b => a = b
  | .call f as, .call g bs => f = g && sameExprs as bs
  | .arith op a b, .arith op' c d => op = op' && a.same c && b.same d
  | .compare op a b, .compare op' c d => op = op' && a.same c && b.same d
  | .assign x a, .assign y b => x = y && a.same b
  | .paren a, .paren b => a.same b
  | _, _ => false

/-- Whether two lists hold the same expressions in the same order. -/
def sameExprs : List Expr → List Expr → Bool
  | [], [] => true
  | a :: as, b :: bs => a.same b && sameExprs as bs
  | _, _ => false

end

mutual

theorem Expr.same_iff : (a b : Expr) → (a.same b = true ↔ a = b)
  | .int _, b | .float _, b | .bool _, b | .ident _, b => by cases b <;> simp [Expr.same]
  | .call f as, b => by cases b <;> simp [Expr.same, sameExprs_iff as]
  | .arith op a c, b => by cases b <;> simp [Expr.same, a.same_iff, c.same_iff, and_assoc]
  | .compare op a c, b => by cases b <;> simp [Expr.same, a.same_iff, c.same_iff, and_assoc]
  | .assign x a, b => by cases b <;> simp [Expr.same, a.same_iff]
  | .paren a, b => by cases b <;> simp [Expr.same, a.same_iff]

theorem sameExprs_iff : (as bs : List Expr) → (sameExprs as bs = true ↔ as = bs)
  | [], bs => by cases bs <;> simp [sameExprs]
  | a :: as, bs => by cases bs <;> simp [sameExprs, a.same_iff, sameExprs_iff as]

end

instance : DecidableEq Expr := fun a b => decidable_of_iff _ (a.same_iff b)

deriving instance DecidableEq for Binding

mutual

/-- Whether two statements are the same. -/
def Stmt.same : Stmt → Stmt → Bool
  | .bind b, .bind c => b = c
  | .ret a, .ret b => a = b
  | .cond a ss e, .cond b ts f => a = b && sameStmts ss ts && e.same f
  | .loop a ss, .loop b ts => a = b && sameStmts ss ts
  | .count x a b ss, .count y c d ts => x = y && a = c && b = d && sameStmts ss ts
  | .block ss, .block ts => sameStmts ss ts
  | .eval a, .eval b => a = b
  | _, _ => false

/-- Whether what stands behind two `else` is the same. -/
def Else.same : Else → Else → Bool
  | .none, .none => true
  | .block ss, .block ts => sameStmts ss ts
  | .cond a ss e, .cond b ts f => a = b && sameStmts ss ts && e.same f
  | _, _ => false

/-- Whether two lists hold the same statements in the same order. -/
def sameStmts : List Stmt → List Stmt → Bool
  | [], [] => true
  | s :: ss, t :: ts => s.same t && sameStmts ss ts
  | _, _ => false

end

mutual

theorem Stmt.same_iff : (s t : Stmt) → (s.same t = true ↔ s = t)
  | .bind _, t | .ret _, t | .eval _, t => by cases t <;> simp [Stmt.same]
  | .cond _ ss e, t => by
    cases t <;> simp [Stmt.same, sameStmts_iff ss, e.same_iff, and_assoc]
  | .loop _ ss, t => by cases t <;> simp [Stmt.same, sameStmts_iff ss]
  | .count _ _ _ ss, t => by cases t <;> simp [Stmt.same, sameStmts_iff ss, and_assoc]
  | .block ss, t => by cases t <;> simp [Stmt.same, sameStmts_iff ss]

theorem Else.same_iff : (e f : Else) → (e.same f = true ↔ e = f)
  | .none, f => by cases f <;> simp [Else.same]
  | .block ss, f => by cases f <;> simp [Else.same, sameStmts_iff ss]
  | .cond _ ss e, f => by
    cases f <;> simp [Else.same, sameStmts_iff ss, e.same_iff, and_assoc]

theorem sameStmts_iff : (ss ts : List Stmt) → (sameStmts ss ts = true ↔ ss = ts)
  | [], ts => by cases ts <;> simp [sameStmts]
  | s :: ss, ts => by cases ts <;> simp [sameStmts, s.same_iff, sameStmts_iff ss]

end

instance : DecidableEq Stmt := fun s t => decidable_of_iff _ (s.same_iff t)

deriving instance DecidableEq for Function, Item

end ToyLang.Source
