import ToyLang.Proofs.Effects
import ToyLang.Proofs.Growth
import ToyLang.Proofs.Occurrences

/-!
# Graphs that are built step by step

A step refers to nodes that exist, so in a graph that is built step by step every node that is held
exists, and expressions and statements hold only earlier ones of their kind.

## Main definitions

* `Graph.Ordered` — what is held exists, and among expressions and among statements it is earlier.

## Main results

* `Step.run_changes` — a step adds a node or refills one.
* `Graph.ordered_runAll` — the graph after any steps is ordered.
* `Graph.Ordered.tree_eq`, `Graph.Ordered.outline_eq` — in such a graph, trees and outlines are made
  from the nodes.
-/

namespace ToyLang

namespace Graph

/-- What a node holds exists, and an expression or a statement holds only earlier ones of its
kind. -/
structure Ordered (g : Graph) : Prop where
  has_of_mem : ∀ {h k}, k ∈ g.children h → g.has k
  expr_lt : ∀ {e e' : ExprRef}, .expr e' ∈ g.children (.expr e) → e'.index < e.index
  stmt_lt : ∀ {s s' : StmtRef}, .stmt s' ∈ g.children (.stmt s) → s'.index < s.index

/-- A block or a variable, which may hold nodes that are younger than itself. -/
def Refillable : Handle → Prop
  | .block _ | .var _ => True
  | _ => False

theorem ordered_empty : Graph.empty.Ordered where
  has_of_mem := fun hk => absurd (has_of_mem_children hk) (not_has_empty _)
  expr_lt := fun hk => absurd (has_of_mem_children hk) (not_has_empty _)
  stmt_lt := fun hk => absurd (has_of_mem_children hk) (not_has_empty _)

variable {g g' : Graph} {h : Handle} {held : List Handle}

theorem Ordered.markOutermost (hg : g.Ordered) (b : BlockRef) : (g.markOutermost b).Ordered where
  has_of_mem := fun hk => by
    rw [children_markOutermost] at hk
    rw [has_markOutermost]
    exact hg.has_of_mem hk
  expr_lt := fun hk => by
    rw [children_markOutermost] at hk
    exact hg.expr_lt hk
  stmt_lt := fun hk => by
    rw [children_markOutermost] at hk
    exact hg.stmt_lt hk

theorem Ordered.adds (hg : g.Ordered) (hadds : g.Adds g' h held) (hheld : ∀ k ∈ held, g.has k) :
    g'.Ordered where
  has_of_mem := fun {m k} hk => by
    refine (hadds.has_iff k).mpr (.inr ?_)
    by_cases hm : m = h
    · rw [hm, hadds.own] at hk
      exact hheld k hk
    · rw [hadds.other m hm] at hk
      exact hg.has_of_mem hk
  expr_lt := fun {e e'} hk => by
    by_cases hm : Handle.expr e = h
    · rw [hm, hadds.own] at hk
      have hfresh := hadds.fresh
      have hhas := hheld _ hk
      rw [← hm] at hfresh
      simp only [has, decide_eq_true_eq] at hfresh hhas
      omega
    · rw [hadds.other _ hm] at hk
      exact hg.expr_lt hk
  stmt_lt := fun {s s'} hk => by
    by_cases hm : Handle.stmt s = h
    · rw [hm, hadds.own] at hk
      have hfresh := hadds.fresh
      have hhas := hheld _ hk
      rw [← hm] at hfresh
      simp only [has, decide_eq_true_eq] at hfresh hhas
      omega
    · rw [hadds.other _ hm] at hk
      exact hg.stmt_lt hk

theorem Ordered.refills (hg : g.Ordered) (hrefills : g.Refills g' h held)
    (hheld : ∀ k ∈ held, g.has k) (hkind : Refillable h) : g'.Ordered where
  has_of_mem := fun {m k} hk => by
    refine (hrefills.has_iff k).mpr ?_
    by_cases hm : m = h
    · rw [hm, hrefills.own] at hk
      exact hheld k hk
    · rw [hrefills.other m hm] at hk
      exact hg.has_of_mem hk
  expr_lt := fun {e e'} hk => by
    rw [hrefills.other _ (by rintro rfl; exact hkind)] at hk
    exact hg.expr_lt hk
  stmt_lt := fun {s s'} hk => by
    rw [hrefills.other _ (by rintro rfl; exact hkind)] at hk
    exact hg.stmt_lt hk

end Graph

open ToyLang.Graph

/-- A step adds the node that it yields, or refills it.  What this node holds then is what it held
before and what the step refers to. -/
theorem Step.run_changes {s : Step} {g g' : Graph} {h : Handle} (hrun : s.run g = some (h, g')) :
    ∃ held, (∀ k ∈ held, k ∈ g.children h ∨ g.has k) ∧
      (g.Adds g' h held ∨ Refillable h ∧ g.Refills g' h held) := by
  obtain ⟨hrefs, hbuild⟩ := Step.run_eq_some_iff.mp hrun
  have hnew {held : List Handle} (hadds : g.Adds g' h held) (hheld : held = s.references) :
      ∃ held, (∀ k ∈ held, k ∈ g.children h ∨ g.has k) ∧
        (g.Adds g' h held ∨ Refillable h ∧ g.Refills g' h held) :=
    ⟨held, fun k hk => .inr (hrefs k (hheld ▸ hk)), .inl hadds⟩
  cases s with
  | int value => cases hbuild; exact hnew (adds_pushExpr g _) rfl
  | float value => cases hbuild; exact hnew (adds_pushExpr g _) rfl
  | bool value => cases hbuild; exact hnew (adds_pushExpr g _) rfl
  | ident name => cases hbuild; exact hnew (adds_pushExpr g _) rfl
  | call callee args => cases hbuild; exact hnew (adds_pushExpr g _) rfl
  | arith lhs tag rhs => cases hbuild; exact hnew (adds_pushExpr g _) rfl
  | compare lhs tag rhs => cases hbuild; exact hnew (adds_pushExpr g _) rfl
  | assign target value => cases hbuild; exact hnew (adds_pushExpr g _) rfl
  | group inner => cases hbuild; exact hnew (adds_pushExpr g _) rfl
  | stmt node => cases hbuild; exact hnew (adds_pushStmt g node) rfl
  | block => cases hbuild; exact hnew (adds_pushBlock g) rfl
  | push b r =>
    cases hbuild
    have hb : g.has (.block b) := hrefs _ (by simp [Step.references])
    have hr : g.has (.stmt r) := hrefs _ (by simp [Step.references])
    refine ⟨_, fun k hk => ?_, .inr ⟨trivial, refills_push g hb r⟩⟩
    rcases List.mem_append.mp hk with hk | hk
    · exact .inl hk
    · exact .inr (List.mem_singleton.mp hk ▸ hr)
  | var name type init =>
    cases hbuild
    exact hnew (adds_pushVar g _) (by cases init <;> rfl)
  | setInit v init =>
    cases hbuild
    have hv : g.has (.var v) := hrefs _ (by simp [Step.references])
    have hinit : g.has (.expr init) := hrefs _ (by simp [Step.references])
    refine ⟨_, fun k hk => .inr ?_, .inr ⟨trivial, refills_setInit g hv init⟩⟩
    exact List.mem_singleton.mp hk ▸ hinit
  | function name params result body =>
    cases hbuild
    exact hnew (adds_pushFunction g ⟨Cpp.mangle name, params, result, body⟩
      (fun node => { node with owner := some ⟨g.functions.size⟩ }) fun _ => rfl) rfl

theorem Graph.Ordered.run {s : Step} {g g' : Graph} {h : Handle} (hg : g.Ordered)
    (hrun : s.run g = some (h, g')) : g'.Ordered := by
  obtain ⟨held, hheld, hchange⟩ := Step.run_changes hrun
  have hhas : ∀ k ∈ held, g.has k := fun k hk => (hheld k hk).elim hg.has_of_mem id
  rcases hchange with hadds | ⟨hkind, hrefills⟩
  · exact hg.adds hadds hhas
  · exact hg.refills hrefills hhas hkind

/-- Whatever the steps are, the graph that they build is ordered. -/
theorem Graph.ordered_runAll (steps : List Step) {g : Graph} (hg : g.Ordered) :
    (Step.runAll steps g).Ordered :=
  Step.runAll_induction steps (fun hrun h => h.run hrun) hg

/-! ### Trees and outlines in an ordered graph -/

/-- The tree of an expression depends on the trees that it refers to only. -/
theorem ExprNode.tree_congr (node : ExprNode) {earlier earlier' : ExprRef → Cpp.Expr}
    (h : ∀ e ∈ node.references, earlier e = earlier' e) :
    node.tree earlier = node.tree earlier' := by
  cases node with
  | call callee args =>
    have hargs : args.map earlier = args.map earlier' := List.map_congr_left h
    rw [tree, tree, hargs]
  | arith lhs op rhs =>
    rw [tree, tree, h lhs (by simp [references]), h rhs (by simp [references])]
  | compare lhs op rhs =>
    rw [tree, tree, h lhs (by simp [references]), h rhs (by simp [references])]
  | assign target value => rw [tree, tree, h value (by simp [references])]
  | group inner => rw [tree, tree, h inner (by simp [references])]
  | _ => rfl

namespace Graph

variable {g : Graph}

/-- The tree of an expression is made from the trees that it refers to, if these come before it. -/
theorem tree_eq {e : ExprRef} {node : ExprNode} (hnode : g.exprs[e.index]? = some node)
    (href : ∀ r ∈ node.references, r.index < e.index) : g.tree e = node.tree g.tree := by
  obtain ⟨hlt, -⟩ := Array.getElem?_eq_some_iff.mp hnode
  rw [← Array.getElem?_toList] at hnode
  rw [tree, exprTrees_eq_table, table_getD_of_getElem? _ _ hnode]
  apply ExprNode.tree_congr
  intro r hr
  have hr := href r hr
  have hlen : r.index < (g.exprs.toList.take e.index).length := by simp; omega
  rw [tree, exprTrees_eq_table, ← table_append_getD _ _ (g.exprs.toList.drop e.index) hlen,
    List.take_append_drop]

namespace Ordered

variable (hg : g.Ordered)

include hg

theorem tree_eq {e : ExprRef} {node : ExprNode} (hnode : g.expr? e = some node) :
    g.tree e = node.tree g.tree := by
  refine Graph.tree_eq hnode fun r hr => hg.expr_lt ?_
  rw [children_expr hnode]
  exact List.mem_map_of_mem hr

theorem part_lt {s r : StmtRef} {node : StmtNode} (hnode : g.stmt? s = some node)
    (hr : .stmt r ∈ node.references) : r.index < s.index := by
  refine hg.stmt_lt ?_
  rwa [children_stmt hnode]

theorem outline_eq {s : StmtRef} {node : StmtNode} (hnode : g.stmt? s = some node) :
    g.outline s = node.outline g.tree g.outline := by
  refine Graph.outline_eq hnode fun r hr => hg.part_lt hnode ?_
  cases node with
  | cond test body otherwise => cases otherwise <;> simp_all [StmtNode.parts, StmtNode.references]
  | _ => simp [StmtNode.parts] at hr

theorem has_of_mem_references {s : StmtRef} {node : StmtNode} {k : Handle}
    (hnode : g.stmt? s = some node) (hk : k ∈ node.references) : g.has k := by
  refine hg.has_of_mem (h := .stmt s) ?_
  rwa [children_stmt hnode]

end Ordered

end Graph

end ToyLang
