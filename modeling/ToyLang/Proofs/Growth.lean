import Mathlib.Data.List.Induction
import ToyLang.Graph.Check

/-!
# Growing graphs

While a program is built its graph grows: new nodes come behind the old ones, and an old
node changes only where a block is being filled or gets its owner.  What is known of the
old nodes therefore stays known.

## Main definitions

* `Graph.tree`, `Graph.outline` — the spelled-out form of one expression or statement.
* `Graph.Grows` — one graph arises from another by building.

## Main results

* `Graph.outline_eq` — the outline of a statement in terms of the outlines of its parts.
* `Graph.Grows.tree_eq` — growth keeps the trees of old expressions.
-/

namespace ToyLang

/-! ### Tables in which each entry is made from the earlier ones -/

section Table

variable {α β : Type} (step : Array β → α → β)

/-- A table of the entries made from the elements of a list in order. -/
def table (xs : List α) : Array β := xs.foldl (fun made x => made.push (step made x)) #[]

theorem table_concat (xs : List α) (x : α) :
    table step (xs ++ [x]) = (table step xs).push (step (table step xs) x) := by
  simp [table]

@[simp] theorem size_table (xs : List α) : (table step xs).size = xs.length := by
  induction xs using List.reverseRecOn with
  | nil => rfl
  | append_singleton xs x ih => simp [table_concat, ih]

/-- Further elements do not change the entries that are there. -/
theorem table_append_getD (xs ys : List α) {i : Nat} (hi : i < xs.length) (d : β) :
    (table step (xs ++ ys)).getD i d = (table step xs).getD i d := by
  induction ys using List.reverseRecOn with
  | nil => simp
  | append_singleton ys y ih =>
    have hsize : i ≠ (table step (xs ++ ys)).size := by simp; omega
    rw [← List.append_assoc, table_concat, ← ih, Array.getD_eq_getD_getElem?,
      Array.getD_eq_getD_getElem?, Array.getElem?_push, if_neg hsize]

/-- An entry is made from the entries before it. -/
theorem table_getD_of_getElem? (xs : List α) {i : Nat} {x : α} (hx : xs[i]? = some x) (d : β) :
    (table step xs).getD i d = step (table step (xs.take i)) x := by
  obtain ⟨hi, hx⟩ := List.getElem?_eq_some_iff.mp hx
  have hsplit : xs.take i ++ [x] ++ xs.drop (i + 1) = xs := by simp [← hx]
  have hlen : i < (xs.take i ++ [x]).length := by simp; omega
  have hsize : i = (table step (xs.take i)).size := by simp; omega
  calc (table step xs).getD i d
      = (table step (xs.take i ++ [x])).getD i d := by
        rw [← table_append_getD step _ (xs.drop (i + 1)) hlen, hsplit]
    _ = step (table step (xs.take i)) x := by
        rw [table_concat, Array.getD_eq_getD_getElem?, Array.getElem?_push, if_pos hsize]
        rfl

end Table

namespace Graph

/-- The tree of an expression. -/
def tree (g : Graph) (e : ExprRef) : Cpp.Expr := g.exprTrees.getD e.index default

/-- The outline of a statement. -/
def outline (g : Graph) (s : StmtRef) : Outline := g.outlines.getD s.index default

theorem exprTrees_eq_table (g : Graph) :
    g.exprTrees = table (fun made node => node.tree fun e => made.getD e.index default)
      g.exprs.toList := by
  simp [exprTrees, table]

theorem outlines_eq_table (g : Graph) :
    g.outlines = table (fun made node => node.outline g.tree fun s => made.getD s.index default)
      g.stmts.toList := by
  simp only [outlines, table, Array.foldl_toList]
  rfl

end Graph

/-- The statements that a statement is made of. -/
def StmtNode.parts : StmtNode → List StmtRef
  | cond _ body none => [body]
  | cond _ body (some otherwise) => [body, otherwise]
  | _ => []

/-- An outline depends on the outlines of the parts only. -/
theorem StmtNode.outline_congr (node : StmtNode) (tree : ExprRef → Cpp.Expr)
    {earlier earlier' : StmtRef → Outline} (h : ∀ s ∈ node.parts, earlier s = earlier' s) :
    node.outline tree earlier = node.outline tree earlier' := by
  cases node with
  | cond test body otherwise =>
    cases otherwise with
    | none => simp [StmtNode.outline, h body (by simp [StmtNode.parts])]
    | some otherwise =>
      simp [StmtNode.outline, h body (by simp [StmtNode.parts]),
        h otherwise (by simp [StmtNode.parts])]
  | _ => rfl

namespace Graph

/-- The outline of a statement is made from the outlines of its parts, if these come before
it. -/
theorem outline_eq {g : Graph} {s : StmtRef} {node : StmtNode}
    (hnode : g.stmts[s.index]? = some node) (hparts : ∀ r ∈ node.parts, r.index < s.index) :
    g.outline s = node.outline g.tree g.outline := by
  obtain ⟨hlt, -⟩ := Array.getElem?_eq_some_iff.mp hnode
  rw [← Array.getElem?_toList] at hnode
  rw [outline, outlines_eq_table, table_getD_of_getElem? _ _ hnode]
  apply StmtNode.outline_congr
  intro r hr
  have hr := hparts r hr
  have hlen : r.index < (g.stmts.toList.take s.index).length := by simp; omega
  rw [outline, outlines_eq_table, ← table_append_getD _ _ (g.stmts.toList.drop s.index) hlen,
    List.take_append_drop]

/-! ### Growth -/

/-- A graph arises from another one by building.  Nodes are added behind the old ones, and
of the old blocks those that are `kept` stay as they are. -/
structure Grows (kept : Nat → Prop) (g g' : Graph) : Prop where
  exprs : g.exprs.toList <+: g'.exprs.toList
  stmts : ∀ {i : Nat} {node}, g.stmts[i]? = some node → g'.stmts[i]? = some node
  vars : ∀ {i : Nat} {node}, g.vars[i]? = some node → g'.vars[i]? = some node
  functions : ∀ {i : Nat} {node}, g.functions[i]? = some node → g'.functions[i]? = some node
  blocks : ∀ {i : Nat} {node}, kept i → g.blocks[i]? = some node → g'.blocks[i]? = some node

namespace Grows

variable {kept kept' : Nat → Prop} {g g' g'' : Graph}

theorem refl (kept : Nat → Prop) (g : Graph) : g.Grows kept g where
  exprs := List.prefix_refl _
  stmts := id
  vars := id
  functions := id
  blocks := fun _ => id

theorem trans (h : g.Grows kept g') (h' : g'.Grows kept g'') : g.Grows kept g'' where
  exprs := h.exprs.trans h'.exprs
  stmts := h'.stmts ∘ h.stmts
  vars := h'.vars ∘ h.vars
  functions := h'.functions ∘ h.functions
  blocks := fun hi => h'.blocks hi ∘ h.blocks hi

/-- To keep fewer blocks is easier; only blocks that exist count. -/
theorem weaken (h : g.Grows kept g') (hkept : ∀ i, i < g.blocks.size → kept' i → kept i) :
    g.Grows kept' g' where
  exprs := h.exprs
  stmts := h.stmts
  vars := h.vars
  functions := h.functions
  blocks := fun {i _} hi hnode =>
    h.blocks (hkept i (Array.getElem?_eq_some_iff.mp hnode).1 hi) hnode

theorem exprs_size (h : g.Grows kept g') : g.exprs.size ≤ g'.exprs.size := by
  simpa using h.exprs.length_le

/-- The tree of an old expression stays the same. -/
theorem tree_eq (h : g.Grows kept g') {e : ExprRef} (he : e.index < g.exprs.size) :
    g'.tree e = g.tree e := by
  obtain ⟨more, hmore⟩ := h.exprs
  rw [tree, tree, exprTrees_eq_table, exprTrees_eq_table, ← hmore]
  exact table_append_getD _ _ _ (by simpa using he) _

end Grows

end Graph

/-! ### Single steps of building -/

namespace Build

/-- The action after one whose outcome is known. -/
theorem bind_eq {α β : Type} {m : Build α} {f : α → Build β} {g g' : Graph} {a : α}
    (h : m g = (a, g')) : (m >>= f) g = f a g' := by
  simp [bind, StateT.bind, h]

variable (g : Graph)

theorem addExpr_eq (node : ExprNode) :
    addExpr node g = (⟨g.exprs.size⟩, { g with exprs := g.exprs.push node }) := rfl

theorem addStmt_eq (node : StmtNode) :
    addStmt node g = (⟨g.stmts.size⟩, { g with stmts := g.stmts.push node }) := rfl

theorem addBlock_eq :
    addBlock g
      = (⟨g.blocks.size⟩, { g with blocks := g.blocks.push { id := ⟨g.blocks.size⟩ } }) := rfl

theorem push_eq (b : BlockRef) (s : StmtRef) :
    push b s g = ((), { g with
      blocks := g.blocks.modify b.index fun node => { node with stmts := node.stmts ++ [s] } }) :=
  rfl

theorem addVar_eq (name type : String) (init : Option ExprRef) :
    addVar name type init g
      = (⟨g.vars.size⟩, { g with vars := g.vars.push ⟨name, type, init⟩ }) := rfl

theorem setInit_eq (v : VarRef) (init : ExprRef) :
    setInit v init g = ((), { g with
      vars := g.vars.modify v.index fun node => { node with init := some init } }) := rfl

theorem addFunction_eq (name : String) (params : List Param) (result : String)
    (body : BlockRef) :
    addFunction name params result body g
      = (⟨g.functions.size⟩, { g with
          functions := g.functions.push ⟨Cpp.mangle name, params, result, body⟩
          blocks := g.blocks.modify body.index fun node =>
            { node with owner := some ⟨g.functions.size⟩ } }) := rfl

end Build

namespace Graph

variable (kept : Nat → Prop) (g : Graph)

/-- What a table holds it still holds when an entry is pushed behind it. -/
theorem getElem?_push_of_some {α : Type} {xs : Array α} {i : Nat} {a : α} (b : α)
    (h : xs[i]? = some a) : (xs.push b)[i]? = some a := by
  obtain ⟨hi, -⟩ := Array.getElem?_eq_some_iff.mp h
  rw [Array.getElem?_push, if_neg (by omega), h]

/-- Where a table is not modified it holds what it held. -/
theorem getElem?_modify_of_ne {α : Type} {xs : Array α} {i j : Nat} (f : α → α)
    (hij : i ≠ j) : (xs.modify j f)[i]? = xs[i]? := by
  rw [Array.getElem?_modify, if_neg (Ne.symm hij)]

theorem grows_pushExpr (node : ExprNode) :
    g.Grows kept { g with exprs := g.exprs.push node } where
  exprs := by simp
  stmts := id
  vars := id
  functions := id
  blocks := fun _ => id

theorem grows_pushStmt (node : StmtNode) :
    g.Grows kept { g with stmts := g.stmts.push node } where
  exprs := List.prefix_refl _
  stmts := getElem?_push_of_some node
  vars := id
  functions := id
  blocks := fun _ => id

theorem grows_pushBlock (node : BlockNode) :
    g.Grows kept { g with blocks := g.blocks.push node } where
  exprs := List.prefix_refl _
  stmts := id
  vars := id
  functions := id
  blocks := fun _ => getElem?_push_of_some node

/-- Filling a block changes that block only. -/
theorem grows_modifyBlock (b : Nat) (f : BlockNode → BlockNode) :
    g.Grows (· ≠ b) { g with blocks := g.blocks.modify b f } where
  exprs := List.prefix_refl _
  stmts := id
  vars := id
  functions := id
  blocks := fun hi hnode => by rw [getElem?_modify_of_ne f hi, hnode]

theorem grows_pushFunction (node : FunctionNode) :
    g.Grows kept { g with functions := g.functions.push node } where
  exprs := List.prefix_refl _
  stmts := id
  vars := id
  functions := getElem?_push_of_some node
  blocks := fun _ => id

end Graph

end ToyLang
