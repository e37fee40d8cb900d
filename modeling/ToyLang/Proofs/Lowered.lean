import ToyLang.Lowering
import ToyLang.Proofs.Growth
import ToyLang.Proofs.Target

/-!
# What lowering leaves in the graph

Lowering a part of a tree adds the nodes of that part and returns the number of the last
one.  Here it is said which nodes these are: `IsAt` ties a part of the tree to a number in
a graph.  Blocks are created when they open, so the blocks of a part are numbered in order
from the count of blocks before it.

What is known of a part survives all later building, except for the block that is being
filled (`Graph.Grows`).

## Main definitions

* `Expr.IsAt`, `Stmt.IsAt`, `Item.IsAt` — the node with a number stands for a part.

## Main results

* `Expr.lower_isAt`, `Stmt.lower_isAt`, `Item.lower_isAt` — lowering yields such a number.
* `toProgram_isAt` — the root of the program of a tree holds all its items.
-/

namespace ToyLang.Ast

open ToyLang.Graph

variable {g g' : Graph} {kept : Nat → Prop}

/-! ### Parts in a graph -/

/-- The expression with a number stands for an expression of the tree. -/
def Expr.IsAt (g : Graph) (e : Expr) (r : ExprRef) : Prop :=
  r.index < g.exprs.size ∧ g.tree r = e.target

/-- The variable with a number stands for a declaration of the source. -/
def Binding.IsAt (g : Graph) (b : Binding) (v : VarRef) : Prop :=
  ∃ init, g.vars[v.index]? = some ⟨b.name, b.type, some init⟩ ∧ b.init.IsAt g init

mutual

/-- The statement with a number stands for a statement of the tree whose blocks are
numbered from `n` on. -/
def Stmt.IsAt (g : Graph) (n : Nat) : Stmt → StmtRef → Prop
  | .bind b, s => ∃ v, g.stmts[s.index]? = some (.var v) ∧ b.IsAt g v
  | .ret value, s => ∃ e, g.stmts[s.index]? = some (.ret e) ∧ value.IsAt g e
  | .cond test body otherwise, s => ∃ e b o refs,
      g.stmts[s.index]? = some (.cond e b o) ∧ test.IsAt g e
        ∧ (∀ r ∈ b :: o.toList, r.index < s.index)
        ∧ g.stmts[b.index]? = some (.block ⟨n⟩) ∧ g.blocks[n]? = some ⟨⟨n⟩, refs, none, false⟩
        ∧ AreAt g (n + 1) body refs ∧ ElseIsAt g (n + 1 + blocksOfAll body) otherwise o
  | .loop test body, s => ∃ e refs,
      g.stmts[s.index]? = some (.loop e ⟨n⟩) ∧ test.IsAt g e
        ∧ g.blocks[n]? = some ⟨⟨n⟩, refs, none, false⟩ ∧ AreAt g (n + 1) body refs
  | .count var first bound body, s => ∃ e e' refs,
      g.stmts[s.index]? = some (.count var e e' ⟨n⟩) ∧ first.IsAt g e ∧ bound.IsAt g e'
        ∧ g.blocks[n]? = some ⟨⟨n⟩, refs, none, false⟩ ∧ AreAt g (n + 1) body refs
  | .block body, s => ∃ refs, g.stmts[s.index]? = some (.block ⟨n⟩)
        ∧ g.blocks[n]? = some ⟨⟨n⟩, refs, none, false⟩ ∧ AreAt g (n + 1) body refs
  | .eval value, s => ∃ e, g.stmts[s.index]? = some (.eval e) ∧ value.IsAt g e

/-- The statement with a number, if there is one, stands for the one that follows an `else`. -/
def ElseIsAt (g : Graph) (n : Nat) : Option Stmt → Option StmtRef → Prop
  | none, o => o = none
  | some s, o => ∃ r, o = some r ∧ s.IsAt g n r

/-- The statements with some numbers stand for some statements of the tree. -/
def AreAt (g : Graph) (n : Nat) : List Stmt → List StmtRef → Prop
  | [], refs => refs = []
  | s :: ss, refs => ∃ r rs, refs = r :: rs ∧ s.IsAt g n r ∧ AreAt g (n + s.blocks) ss rs

end

/-- The statement with a number stands for a declaration at the top level. -/
def Item.IsAt (g : Graph) (n : Nat) : Item → StmtRef → Prop
  | .function f, s => ∃ r refs, g.stmts[s.index]? = some (.function r)
        ∧ g.functions[r.index]? = some ⟨Cpp.mangle f.name, f.params, f.result, ⟨n⟩⟩
        ∧ g.blocks[n]? = some ⟨⟨n⟩, refs, some r, false⟩ ∧ AreAt g (n + 1) f.body refs
  | .bind b, s => ∃ v, g.stmts[s.index]? = some (.var v) ∧ b.IsAt g v

/-- The statements with some numbers stand for some declarations. -/
def ItemsAreAt (g : Graph) (n : Nat) : List Item → List StmtRef → Prop
  | [], refs => refs = []
  | i :: is, refs => ∃ r rs, refs = r :: rs ∧ i.IsAt g n r ∧ ItemsAreAt g (n + i.blocks) is rs

/-! ### What is there stays there -/

theorem Expr.IsAt.grow {e : Expr} {r : ExprRef} (h : e.IsAt g r) (hg : g.Grows kept g') :
    e.IsAt g' r :=
  ⟨Nat.lt_of_lt_of_le h.1 hg.exprs_size, (hg.tree_eq h.1).trans h.2⟩

theorem Binding.IsAt.grow {b : Binding} {v : VarRef} (h : b.IsAt g v) (hg : g.Grows kept g') :
    b.IsAt g' v := by
  obtain ⟨init, hv, hinit⟩ := h
  exact ⟨init, hg.vars hv, hinit.grow hg⟩

mutual

/-- A statement needs its own blocks only. -/
theorem Stmt.IsAt.grow {n : Nat} (hg : g.Grows kept g') (hkept : ∀ i, n ≤ i → kept i) :
    (s : Stmt) → {r : StmtRef} → s.IsAt g n r → s.IsAt g' n r
  | .bind _, _, ⟨v, hs, hb⟩ => ⟨v, hg.stmts hs, hb.grow hg⟩
  | .ret _, _, ⟨e, hs, he⟩ => ⟨e, hg.stmts hs, he.grow hg⟩
  | .cond _ body otherwise, _, ⟨e, b, o, refs, hs, he, hlt, hb, hn, hbody, ho⟩ =>
    ⟨e, b, o, refs, hg.stmts hs, he.grow hg, hlt, hg.stmts hb, hg.blocks (hkept n n.le_refl) hn,
      AreAt.grow hg (fun i hi => hkept i (by omega)) body hbody,
      ElseIsAt.grow hg (fun i hi => hkept i (by omega)) otherwise ho⟩
  | .loop _ body, _, ⟨e, refs, hs, he, hn, hbody⟩ =>
    ⟨e, refs, hg.stmts hs, he.grow hg, hg.blocks (hkept n n.le_refl) hn,
      AreAt.grow hg (fun i hi => hkept i (by omega)) body hbody⟩
  | .count _ _ _ body, _, ⟨e, e', refs, hs, he, he', hn, hbody⟩ =>
    ⟨e, e', refs, hg.stmts hs, he.grow hg, he'.grow hg, hg.blocks (hkept n n.le_refl) hn,
      AreAt.grow hg (fun i hi => hkept i (by omega)) body hbody⟩
  | .block body, _, ⟨refs, hs, hn, hbody⟩ =>
    ⟨refs, hg.stmts hs, hg.blocks (hkept n n.le_refl) hn,
      AreAt.grow hg (fun i hi => hkept i (by omega)) body hbody⟩
  | .eval _, _, ⟨e, hs, he⟩ => ⟨e, hg.stmts hs, he.grow hg⟩

theorem ElseIsAt.grow {n : Nat} (hg : g.Grows kept g') (hkept : ∀ i, n ≤ i → kept i) :
    (o : Option Stmt) → {r : Option StmtRef} → ElseIsAt g n o r → ElseIsAt g' n o r
  | none, _, h => h
  | some s, _, ⟨r, ho, hs⟩ => ⟨r, ho, Stmt.IsAt.grow hg hkept s hs⟩

theorem AreAt.grow {n : Nat} (hg : g.Grows kept g') (hkept : ∀ i, n ≤ i → kept i) :
    (ss : List Stmt) → {refs : List StmtRef} → AreAt g n ss refs → AreAt g' n ss refs
  | [], _, h => h
  | s :: ss, _, ⟨r, rs, hrefs, hs, hss⟩ =>
    ⟨r, rs, hrefs, Stmt.IsAt.grow hg hkept s hs,
      AreAt.grow hg (fun i hi => hkept i (by omega)) ss hss⟩

end

/-! ### Actions and what they leave

All steps of lowering are actions that let the graph grow by a known number of blocks, so
they share one form of specification. -/

/-- The action lets the graph grow by `n` blocks and leaves a result and a graph as `P`
says. -/
def Builds {α : Type} (kept : Nat → Prop) (n : Nat) (g : Graph) (m : Build α)
    (P : Graph → α → Prop) : Prop :=
  ∃ a g', m g = (a, g') ∧ g.Grows kept g' ∧ g'.blocks.size = g.blocks.size + n ∧ P g' a

namespace Builds

variable {α β : Type} {n k : Nat} {m : Build α} {f : α → Build β}
  {P : Graph → α → Prop} {Q : Graph → β → Prop}

theorem pure {a : α} (h : P g a) : Builds kept 0 g (Pure.pure a) P :=
  ⟨a, g, rfl, Grows.refl kept g, rfl, h⟩

/-- One action after the other. -/
theorem bind (h : Builds kept n g m P)
    (hf : ∀ a g', g.Grows kept g' → g'.blocks.size = g.blocks.size + n → P g' a →
      Builds kept k g' (f a) Q) :
    Builds kept (n + k) g (m >>= f) Q := by
  obtain ⟨a, g₁, hm, hgrow, hsize, hP⟩ := h
  obtain ⟨b, g₂, hfa, hgrow', hsize', hQ⟩ := hf a g₁ hgrow hsize hP
  exact ⟨b, g₂, (Build.bind_eq hm).trans hfa, hgrow.trans hgrow', by omega, hQ⟩

/-- The same where the first action adds no block. -/
theorem next (h : Builds kept 0 g m P)
    (hf : ∀ a g', g.Grows kept g' → g'.blocks.size = g.blocks.size → P g' a →
      Builds kept k g' (f a) Q) :
    Builds kept k g (m >>= f) Q := by
  simpa using h.bind hf

theorem imp {P' : Graph → α → Prop} (h : Builds kept n g m P)
    (himp : ∀ a g', g.Grows kept g' → P g' a → P' g' a) : Builds kept n g m P' := by
  obtain ⟨a, g', hm, hgrow, hsize, hP⟩ := h
  exact ⟨a, g', hm, hgrow, hsize, himp a g' hgrow hP⟩

theorem weaken {kept' : Nat → Prop} (h : Builds kept n g m P)
    (hkept : ∀ i, i < g.blocks.size → kept' i → kept i) : Builds kept' n g m P := by
  obtain ⟨a, g', hm, hgrow, hsize, hP⟩ := h
  exact ⟨a, g', hm, hgrow.weaken hkept, hsize, hP⟩

/-- A change of the block that is created first changes nothing that was there before. -/
theorem fresh (h : Builds (· ≠ g.blocks.size) n g m P) : Builds (fun _ => True) n g m P :=
  h.weaken fun _ hi _ => Nat.ne_of_lt hi

theorem map {h : α → β} (hm : Builds kept n g m P)
    (hQ : ∀ a g', g.Grows kept g' → P g' a → Q g' (h a)) : Builds kept n g (h <$> m) Q := by
  obtain ⟨a, g', hm, hgrow, hsize, hP⟩ := hm
  refine ⟨h a, g', ?_, hgrow, hsize, hQ a g' hgrow hP⟩
  simp [Functor.map, StateT.map, hm]

end Builds

/-- A new expression comes last. -/
theorem builds_addExpr (kept : Nat → Prop) (g : Graph) (node : ExprNode) :
    Builds kept 0 g (Build.addExpr node) fun g' r =>
      r.index < g'.exprs.size ∧ g'.tree r = node.tree g.tree := by
  refine ⟨_, _, Build.addExpr_eq g node, grows_pushExpr kept g node, rfl, by simp, ?_⟩
  have hat : (g.exprs.push node).toList[g.exprs.size]? = some node := by simp
  rw [tree, exprTrees_eq_table, table_getD_of_getElem? _ _ hat]
  simp only [Array.toList_push, List.take_left' (Array.length_toList)]
  rw [← exprTrees_eq_table]
  rfl

/-- A new statement comes last. -/
theorem builds_addStmt (kept : Nat → Prop) (g : Graph) (node : StmtNode) :
    Builds kept 0 g (Build.addStmt node) fun g' s =>
      s = ⟨g.stmts.size⟩ ∧ g'.stmts[s.index]? = some node :=
  ⟨_, _, Build.addStmt_eq g node, grows_pushStmt kept g node, rfl, rfl, by simp⟩

/-- A new block comes last and is empty. -/
theorem builds_addBlock (kept : Nat → Prop) (g : Graph) :
    Builds kept 1 g Build.addBlock fun g' b =>
      b = ⟨g.blocks.size⟩ ∧ g'.blocks[g.blocks.size]? = some ⟨⟨g.blocks.size⟩, [], none, false⟩ :=
  ⟨_, _, Build.addBlock_eq g, grows_pushBlock kept g _, by simp, rfl, by simp⟩

/-- Pushing a statement appends it to its block. -/
theorem builds_push {b : BlockRef} {node : BlockNode} (hb : g.blocks[b.index]? = some node)
    (s : StmtRef) :
    Builds (· ≠ b.index) 0 g (Build.push b s) fun g' _ =>
      g'.blocks[b.index]? = some { node with stmts := node.stmts ++ [s] } :=
  ⟨_, _, Build.push_eq g b s, grows_modifyBlock g _ _, by simp,
    by simp [Array.getElem?_modify, hb]⟩

/-! ### Expressions and variables -/

mutual

theorem Expr.lower_isAt (kept : Nat → Prop) (g : Graph) : (e : Expr) →
    Builds kept 0 g e.lower fun g' r => e.IsAt g' r
  | .int value => builds_addExpr kept g (.int value)
  | .float value => builds_addExpr kept g (.float value)
  | .bool value => builds_addExpr kept g (.bool value)
  | .ident name => builds_addExpr kept g (.ident name)
  | .call callee args => by
    refine (lowerArgs_areAt kept g args).next fun refs g₁ _ _ hrefs => ?_
    refine (builds_addExpr kept g₁ _).imp fun r g₂ _ hr => ⟨hr.1, ?_⟩
    rw [hr.2, ExprNode.tree, hrefs.2, Expr.target]
  | .arith op lhs rhs => by
    refine (lhs.lower_isAt kept g).next fun l g₁ _ _ hl => ?_
    refine (rhs.lower_isAt kept g₁).next fun r g₂ hgrow _ hr => ?_
    refine (builds_addExpr kept g₂ _).imp fun e g₃ _ he => ⟨he.1, ?_⟩
    rw [he.2, ExprNode.tree, (hl.grow hgrow).2, hr.2, Expr.target]
  | .compare op lhs rhs => by
    refine (lhs.lower_isAt kept g).next fun l g₁ _ _ hl => ?_
    refine (rhs.lower_isAt kept g₁).next fun r g₂ hgrow _ hr => ?_
    refine (builds_addExpr kept g₂ _).imp fun e g₃ _ he => ⟨he.1, ?_⟩
    rw [he.2, ExprNode.tree, (hl.grow hgrow).2, hr.2, Expr.target]
  | .assign target value => by
    refine (value.lower_isAt kept g).next fun v g₁ _ _ hv => ?_
    refine (builds_addExpr kept g₁ _).imp fun e g₂ _ he => ⟨he.1, ?_⟩
    rw [he.2, ExprNode.tree, hv.2, Expr.target]
  | .paren inner => by
    refine (inner.lower_isAt kept g).next fun i g₁ _ _ hi => ?_
    refine (builds_addExpr kept g₁ _).imp fun e g₂ _ he => ⟨he.1, ?_⟩
    rw [he.2, ExprNode.tree, hi.2, Expr.target]

theorem lowerArgs_areAt (kept : Nat → Prop) (g : Graph) : (es : List Expr) →
    Builds kept 0 g (lowerArgs es) fun g' refs =>
      (∀ r ∈ refs, r.index < g'.exprs.size) ∧ refs.map g'.tree = targetsOf es
  | [] => Builds.pure ⟨by simp, rfl⟩
  | e :: es => by
    refine (e.lower_isAt kept g).next fun r g₁ _ _ hr => ?_
    refine (lowerArgs_areAt kept g₁ es).next fun rs g₂ hgrow _ hrs => Builds.pure ?_
    have hr := hr.grow hgrow
    refine ⟨fun r' hr' => ?_, by rw [List.map_cons, hr.2, hrs.2, targetsOf]⟩
    rcases List.mem_cons.mp hr' with rfl | hr'
    · exact hr.1
    · exact hrs.1 r' hr'

end

/-- A variable is there before its initial value, which is then supplied. -/
theorem Binding.lower_isAt (kept : Nat → Prop) (g : Graph) (b : Binding) :
    Builds kept 0 g b.lower fun g' v => b.IsAt g' v := by
  -- the variable as it is created
  let g₁ : Graph := { g with vars := g.vars.push ⟨b.name, b.type, none⟩ }
  have hadd : g.Grows kept g₁ :=
    { exprs := List.prefix_refl _, stmts := id, vars := getElem?_push_of_some _,
      functions := id, blocks := fun _ => id }
  have hnew : g₁.vars[g.vars.size]? = some ⟨b.name, b.type, none⟩ := by simp [g₁]
  obtain ⟨init, g₂, hinit, hgrow, hsize, hat⟩ := b.init.lower_isAt kept g₁
  have hvar := hgrow.vars hnew
  -- the variable is new, so no old node changes when it gets its value
  let g₃ : Graph :=
    { g₂ with vars := g₂.vars.modify g.vars.size fun node => { node with init := some init } }
  have hset : g.Grows kept g₃ :=
    { exprs := (hadd.trans hgrow).exprs
      stmts := (hadd.trans hgrow).stmts
      vars := fun {i node} hi => by
        have hne : i ≠ g.vars.size := Nat.ne_of_lt (Array.getElem?_eq_some_iff.mp hi).1
        rw [getElem?_modify_of_ne _ hne]
        exact (hadd.trans hgrow).vars hi
      functions := (hadd.trans hgrow).functions
      blocks := (hadd.trans hgrow).blocks }
  refine ⟨⟨g.vars.size⟩, g₃, ?_, hset, hsize, init, ?_, hat⟩
  · rw [Binding.lower, Build.bind_eq (Build.addVar_eq g b.name b.type none),
      Build.bind_eq hinit, Build.bind_eq (Build.setInit_eq g₂ ⟨g.vars.size⟩ init)]
    rfl
  · simp [g₃, Array.getElem?_modify, hvar]

/-! ### Statements -/

/-- The specification of lowering some statements onto the block with number `b`: only that
block changes, and it gains these statements. -/
def BuildsOnto (b : BlockRef) (ss : List Stmt) : Prop :=
  ∀ (g : Graph) (node : BlockNode), g.blocks[b.index]? = some node →
    Builds (· ≠ b.index) (blocksOfAll ss) g (lowerOnto b ss) fun g' _ => ∃ refs,
      g'.blocks[b.index]? = some { node with stmts := node.stmts ++ refs }
        ∧ AreAt g' g.blocks.size ss refs

/-- Open a block and fill it. -/
def fillBlock (body : List Stmt) : Build BlockRef := do
  let block ← Build.addBlock
  lowerOnto block body
  pure block

/-- A block that is filled at once is new, so nothing changes that was there before. -/
theorem builds_fillBlock {body : List Stmt} (honto : ∀ b, BuildsOnto b body) (g : Graph) :
    Builds (fun _ => True) (1 + blocksOfAll body) g (fillBlock body) fun g' block =>
      block = ⟨g.blocks.size⟩ ∧ ∃ refs,
        g'.blocks[g.blocks.size]? = some ⟨⟨g.blocks.size⟩, refs, none, false⟩
        ∧ AreAt g' (g.blocks.size + 1) body refs := by
  refine Builds.fresh ?_
  refine (builds_addBlock _ g).bind fun block g₁ _ hsize hblock => ?_
  obtain ⟨rfl, hempty⟩ := hblock
  refine (honto _ g₁ _ hempty).bind (k := 0) fun _ g₂ _ _ hfilled => Builds.pure ⟨rfl, ?_⟩
  rwa [hsize] at hfilled

/-- A statement with a block in it. -/
theorem builds_body {α : Type} {k : Nat} {body : List Stmt} {f : BlockRef → Build α}
    {Q : Graph → α → Prop} (honto : ∀ b, BuildsOnto b body) (g : Graph)
    (hf : ∀ g' refs, g.Grows (fun _ => True) g' →
      g'.blocks.size = g.blocks.size + (1 + blocksOfAll body) →
      g'.blocks[g.blocks.size]? = some ⟨⟨g.blocks.size⟩, refs, none, false⟩ →
      AreAt g' (g.blocks.size + 1) body refs →
      Builds (fun _ => True) k g' (f ⟨g.blocks.size⟩) Q) :
    Builds (fun _ => True) (1 + blocksOfAll body + k) g
      (do let block ← Build.addBlock; lowerOnto block body; f block) Q := by
  have hfill := (builds_fillBlock honto g).bind (f := f) (k := k) (Q := Q) ?_
  · simpa only [fillBlock, bind_assoc, pure_bind] using hfill
  · rintro _ g₁ hgrow hsize ⟨rfl, refs, hblock, hbody⟩
    exact hf g₁ refs hgrow hsize hblock hbody

theorem Stmt.IsAt.lt_size {n : Nat} {s : Stmt} {r : StmtRef} (h : s.IsAt g n r) :
    r.index < g.stmts.size := by
  have hlt {node : StmtNode} (hr : g.stmts[r.index]? = some node) : r.index < g.stmts.size :=
    (Array.getElem?_eq_some_iff.mp hr).1
  cases s with
  | bind b =>
    obtain ⟨v, hr, -⟩ := h
    exact hlt hr
  | ret value =>
    obtain ⟨e, hr, -⟩ := h
    exact hlt hr
  | cond test body otherwise =>
    obtain ⟨e, b, o, refs, hr, -⟩ := h
    exact hlt hr
  | loop test body =>
    obtain ⟨e, refs, hr, -⟩ := h
    exact hlt hr
  | count var first bound body =>
    obtain ⟨e, e', refs, hr, -⟩ := h
    exact hlt hr
  | block body =>
    obtain ⟨refs, hr, -⟩ := h
    exact hlt hr
  | eval value =>
    obtain ⟨e, hr, -⟩ := h
    exact hlt hr

theorem ElseIsAt.lt_size {n : Nat} {otherwise : Option Stmt} {o : Option StmtRef}
    (h : ElseIsAt g n otherwise o) : ∀ s ∈ o.toList, s.index < g.stmts.size := by
  intro s hs
  cases otherwise with
  | none =>
    cases h
    simp at hs
  | some t =>
    obtain ⟨r, rfl, ht⟩ := h
    obtain rfl : s = r := by simpa using hs
    exact ht.lt_size

/-- A condition, given what lowering its body and its `else` leaves. -/
theorem builds_cond {test : Expr} {body : List Stmt} {otherwise : Option Stmt}
    (honto : ∀ b, BuildsOnto b body)
    (helse : ∀ g, Builds (fun _ => True) (blocksOfElse otherwise) g (lowerElse otherwise)
      fun g' o => ElseIsAt g' g.blocks.size otherwise o) (g : Graph) :
    Builds (fun _ => True) (Stmt.cond test body otherwise).blocks g
      (Stmt.cond test body otherwise).lower fun g' r =>
        (Stmt.cond test body otherwise).IsAt g' g.blocks.size r := by
  refine (test.lower_isAt _ g).next fun e g₁ _ hsize he => ?_
  refine builds_body honto g₁ fun g₂ refs hgrow₂ hsize₂ hblock hbody => ?_
  rw [hsize] at hblock hbody hsize₂ ⊢
  refine (builds_addStmt _ g₂ _).next fun b g₃ hgrow₃ hsize₃ hb => ?_
  refine (helse g₃).bind (k := 0) fun o g₄ hgrow₄ _ ho => ?_
  refine (builds_addStmt _ g₄ _).imp fun s g₅ hgrow₅ hs => ?_
  obtain ⟨rfl, hs⟩ := hs
  have hb := hgrow₄.stmts hb.2
  have hlater := (hgrow₃.trans hgrow₄).trans hgrow₅
  refine ⟨e, b, o, refs, hs, he.grow (hgrow₂.trans hlater), ?_, hgrow₅.stmts hb,
    hlater.blocks trivial hblock, AreAt.grow hlater (fun _ _ => trivial) body hbody, ?_⟩
  · intro r hr
    rcases List.mem_cons.mp hr with rfl | hr
    · exact (Array.getElem?_eq_some_iff.mp hb).1
    · exact ho.lt_size r hr
  · rw [hsize₃, hsize₂, ← Nat.add_assoc] at ho
    exact ElseIsAt.grow hgrow₅ (fun _ _ => trivial) otherwise ho

mutual

theorem Stmt.lower_isAt (g : Graph) : (s : Stmt) →
    Builds (fun _ => True) s.blocks g s.lower fun g' r => s.IsAt g' g.blocks.size r
  | .bind b => by
    refine (b.lower_isAt _ g).next fun v g₁ _ _ hv => ?_
    refine (builds_addStmt _ g₁ _).imp fun s g₂ hgrow hs => ?_
    exact ⟨v, hs.2, hv.grow hgrow⟩
  | .ret value => by
    refine (value.lower_isAt _ g).next fun e g₁ _ _ he => ?_
    refine (builds_addStmt _ g₁ _).imp fun s g₂ hgrow hs => ?_
    exact ⟨e, hs.2, he.grow hgrow⟩
  | .cond test body otherwise =>
    builds_cond (fun b => lowerOnto_areAt b body) (fun g => lowerElse_isAt g otherwise) g
  | .loop test body => by
    refine (test.lower_isAt _ g).next fun e g₁ _ hsize he => ?_
    refine builds_body (k := 0) (fun b => lowerOnto_areAt b body) g₁
      fun g₂ refs hgrow _ hblock hbody => ?_
    rw [hsize] at hblock hbody ⊢
    refine (builds_addStmt _ g₂ _).imp fun s g₃ hgrow' hs => ?_
    exact ⟨e, refs, hs.2, he.grow (hgrow.trans hgrow'), hgrow'.blocks trivial hblock,
      AreAt.grow hgrow' (fun _ _ => trivial) body hbody⟩
  | .count var first bound body => by
    refine (first.lower_isAt _ g).next fun e g₁ _ hsize he => ?_
    refine (bound.lower_isAt _ g₁).next fun e' g₂ hgrow₁ hsize' he' => ?_
    refine builds_body (k := 0) (fun b => lowerOnto_areAt b body) g₂
      fun g₃ refs hgrow _ hblock hbody => ?_
    rw [hsize', hsize] at hblock hbody ⊢
    refine (builds_addStmt _ g₃ _).imp fun s g₄ hgrow' hs => ?_
    exact ⟨e, e', refs, hs.2, he.grow (hgrow₁.trans (hgrow.trans hgrow')),
      he'.grow (hgrow.trans hgrow'), hgrow'.blocks trivial hblock,
      AreAt.grow hgrow' (fun _ _ => trivial) body hbody⟩
  | .block body => by
    refine builds_body (k := 0) (fun b => lowerOnto_areAt b body) g
      fun g₁ refs hgrow _ hblock hbody => ?_
    refine (builds_addStmt _ g₁ _).imp fun s g₂ hgrow' hs => ?_
    exact ⟨refs, hs.2, hgrow'.blocks trivial hblock,
      AreAt.grow hgrow' (fun _ _ => trivial) body hbody⟩
  | .eval value => by
    refine (value.lower_isAt _ g).next fun e g₁ _ _ he => ?_
    refine (builds_addStmt _ g₁ _).imp fun s g₂ hgrow hs => ?_
    exact ⟨e, hs.2, he.grow hgrow⟩

theorem lowerElse_isAt (g : Graph) : (o : Option Stmt) →
    Builds (fun _ => True) (blocksOfElse o) g (lowerElse o) fun g' r =>
      ElseIsAt g' g.blocks.size o r
  | none => Builds.pure rfl
  | some s => (s.lower_isAt g).map fun r _ _ hr => ⟨r, rfl, hr⟩

/-- Each statement is pushed when it is done, and the block changes in no other way. -/
theorem lowerOnto_areAt (b : BlockRef) : (ss : List Stmt) → BuildsOnto b ss
  | [] => fun g node hnode => Builds.pure ⟨[], by simpa using hnode, rfl⟩
  | s :: ss => by
    intro g node hnode
    have hlt : b.index < g.blocks.size := (Array.getElem?_eq_some_iff.mp hnode).1
    have hs := (s.lower_isAt g).imp fun r g₁ hgrow hr => And.intro hr (hgrow.blocks trivial hnode)
    refine (hs.weaken fun _ _ _ => trivial).bind fun r g₁ hgrow₁ hsize₁ hr => ?_
    refine (builds_push hr.2 r).next fun _ g₂ hgrow₂ hsize₂ hpushed => ?_
    refine (lowerOnto_areAt b ss g₂ _ hpushed).imp fun _ g₃ hgrow₃ hrest => ?_
    obtain ⟨rs, hfilled, hss⟩ := hrest
    rw [hsize₂, hsize₁] at hss
    refine ⟨r :: rs, by simpa using hfilled, r, rs, rfl, ?_, hss⟩
    exact Stmt.IsAt.grow (hgrow₂.trans hgrow₃) (fun i hi => by omega) s hr.1

end

/-! ### The top level -/

/-- A function becomes the owner of its body when it is declared, which changes nothing that
was there before. -/
theorem Function.lower_isAt (g : Graph) (f : Function) :
    Builds (fun _ => True) (1 + blocksOfAll f.body) g f.lower fun g' r => ∃ refs,
      g'.functions[r.index]? = some ⟨Cpp.mangle f.name, f.params, f.result, ⟨g.blocks.size⟩⟩
        ∧ g'.blocks[g.blocks.size]? = some ⟨⟨g.blocks.size⟩, refs, some r, false⟩
        ∧ AreAt g' (g.blocks.size + 1) f.body refs := by
  have hlower : f.lower = fillBlock f.body >>= Build.addFunction f.name f.params f.result := by
    simp [Function.lower, fillBlock]
  rw [hlower]
  refine Builds.fresh ?_
  refine ((builds_fillBlock (fun b => lowerOnto_areAt b f.body) g).weaken
    fun _ _ _ => trivial).bind (k := 0) fun _ g₁ _ _ hfilled => ?_
  obtain ⟨rfl, refs, hblock, hbody⟩ := hfilled
  -- declare the function, then change the owner
  have hgrow : g₁.Grows (· ≠ g.blocks.size)
      (Build.addFunction f.name f.params f.result ⟨g.blocks.size⟩ g₁).2 :=
    (grows_pushFunction _ g₁ _).trans (grows_modifyBlock _ _ _)
  refine ⟨_, _, Build.addFunction_eq g₁ f.name f.params f.result _, hgrow, by simp, refs,
    by simp, by simp [Array.getElem?_modify, hblock], ?_⟩
  exact AreAt.grow hgrow (fun i hi => by omega) f.body hbody

theorem Item.lower_isAt (g : Graph) (i : Item) :
    Builds (fun _ => True) i.blocks g i.lower fun g' r => i.IsAt g' g.blocks.size r := by
  cases i with
  | bind b =>
    refine (b.lower_isAt _ g).next fun v g₁ _ _ hv => ?_
    refine (builds_addStmt _ g₁ _).imp fun s g₂ hgrow hs => ?_
    exact ⟨v, hs.2, hv.grow hgrow⟩
  | function f =>
    refine (f.lower_isAt g).bind (k := 0) fun r g₁ _ _ hr => ?_
    obtain ⟨refs, hfunction, hblock, hbody⟩ := hr
    refine (builds_addStmt _ g₁ _).imp fun s g₂ hgrow hs => ?_
    exact ⟨r, refs, hs.2, hgrow.functions hfunction, hgrow.blocks trivial hblock,
      AreAt.grow hgrow (fun _ _ => trivial) f.body hbody⟩

theorem Item.IsAt.grow {n : Nat} {i : Item} {r : StmtRef} (h : i.IsAt g n r)
    (hg : g.Grows kept g') (hkept : ∀ i, n ≤ i → kept i) : i.IsAt g' n r := by
  cases i with
  | bind b =>
    obtain ⟨v, hs, hb⟩ := h
    exact ⟨v, hg.stmts hs, hb.grow hg⟩
  | function f =>
    obtain ⟨r, refs, hs, hfunction, hblock, hbody⟩ := h
    exact ⟨r, refs, hg.stmts hs, hg.functions hfunction, hg.blocks (hkept n n.le_refl) hblock,
      AreAt.grow hg (fun i hi => hkept i (by omega)) f.body hbody⟩

theorem lowerItemsOnto_areAt (b : BlockRef) (is : List Item) (g : Graph) (node : BlockNode)
    (hnode : g.blocks[b.index]? = some node) :
    Builds (· ≠ b.index) (blocksOfItems is) g (lowerItemsOnto b is) fun g' _ => ∃ refs,
      g'.blocks[b.index]? = some { node with stmts := node.stmts ++ refs }
        ∧ ItemsAreAt g' g.blocks.size is refs := by
  induction is generalizing g node with
  | nil => exact Builds.pure ⟨[], by simpa using hnode, rfl⟩
  | cons i is ih =>
    have hlt : b.index < g.blocks.size := (Array.getElem?_eq_some_iff.mp hnode).1
    have hi := (i.lower_isAt g).imp fun r g₁ hgrow hr => And.intro hr (hgrow.blocks trivial hnode)
    refine (hi.weaken fun _ _ _ => trivial).bind fun r g₁ hgrow₁ hsize₁ hr => ?_
    refine (builds_push hr.2 r).next fun _ g₂ hgrow₂ hsize₂ hpushed => ?_
    refine (ih g₂ _ hpushed).imp fun _ g₃ hgrow₃ hrest => ?_
    obtain ⟨rs, hfilled, his⟩ := hrest
    rw [hsize₂, hsize₁] at his
    refine ⟨r :: rs, by simpa using hfilled, r, rs, rfl, ?_, his⟩
    exact hr.1.grow (hgrow₂.trans hgrow₃) fun i hi => by omega

/-- Declarations need their own blocks only. -/
theorem ItemsAreAt.grow {n : Nat} (hg : g.Grows kept g') (hkept : ∀ i, n ≤ i → kept i) :
    (is : List Item) → {refs : List StmtRef} → ItemsAreAt g n is refs → ItemsAreAt g' n is refs
  | [], _, h => h
  | _ :: is, _, ⟨r, rs, hrefs, hi, his⟩ =>
    ⟨r, rs, hrefs, hi.grow hg hkept, ItemsAreAt.grow hg (fun i hi => hkept i (by omega)) is his⟩

/-- The program of a file: its root is block zero and holds all the items, whose blocks are
the other blocks of the graph. -/
theorem toProgram_isAt (items : List Item) :
    ∃ refs, (toProgram items).root = ⟨0⟩
      ∧ (toProgram items).graph.blocks[0]? = some ⟨⟨0⟩, refs, none, true⟩
      ∧ ItemsAreAt (toProgram items).graph 1 items refs
      ∧ (toProgram items).graph.blocks.size = 1 + blocksOfItems items := by
  have hfile : Builds (· ≠ 0) (1 + blocksOfItems items) Graph.empty (lowerFile items)
      fun g' root => root = ⟨0⟩ ∧ ∃ refs, g'.blocks[0]? = some ⟨⟨0⟩, refs, none, false⟩
        ∧ ItemsAreAt g' 1 items refs := by
    refine (builds_addBlock _ _).bind fun root g₁ _ hsize hroot => ?_
    obtain ⟨rfl, hempty⟩ := hroot
    refine (lowerItemsOnto_areAt _ items g₁ _ hempty).bind (k := 0)
      fun _ g₂ _ _ hfilled => Builds.pure ⟨rfl, ?_⟩
    rwa [hsize] at hfilled
  obtain ⟨root, g', hrun, -, hsize, rfl, refs, hblock, hitems⟩ := hfile
  have hprogram : toProgram items = ⟨g'.markOutermost ⟨0⟩, ⟨0⟩⟩ := by
    simp [toProgram, Program.new, StateT.run, hrun]
  have hmark : g'.Grows (· ≠ 0) (g'.markOutermost ⟨0⟩) := grows_modifyBlock g' _ _
  rw [hprogram]
  refine ⟨refs, rfl, ?_, ?_, by simpa [Graph.empty, markOutermost] using hsize⟩
  · simp [markOutermost, Array.getElem?_modify, hblock]
  · exact ItemsAreAt.grow hmark (fun i hi => by omega) items hitems

end ToyLang.Ast
