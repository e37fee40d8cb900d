import ToyLang.Graph.Check
import ToyLang.Graph.Step

/-!
# Paths through a graph

A node holds other nodes in a fixed order, the one in which they are written.  A path goes from a
node to one that it holds, from there to one that this one holds, and so on; it is given by the
positions that it takes.  A node that is held twice is reached along two paths, and a block that
holds itself along infinitely many.

Building changes what is held in two ways only: a new node comes with what it holds, or an old one
changes what it holds.

## Main definitions

* `Graph.children` — the nodes that a node holds, in order.
* `Graph.follow`, `Program.at?` — the node at the end of a path.
* `Graph.Adds`, `Graph.Refills` — the two ways in which building changes a graph.

## Main results

* `adds_pushExpr`, `refills_push` and the like — what each step of building changes.
* `Graph.follow_append` — a path that is put together from two.
-/

namespace ToyLang

/-- The expressions that an expression refers to, from left to right. -/
def ExprNode.references : ExprNode → List ExprRef
  | int _ | float _ | bool _ | ident _ => []
  | call _ args => args
  | arith lhs _ rhs => [lhs, rhs]
  | compare lhs _ rhs => [lhs, rhs]
  | assign _ value => [value]
  | group inner => [inner]

namespace Graph

/-- The nodes that a node holds, in order. -/
def children (g : Graph) : Handle → List Handle
  | .expr e => (g.expr? e).elim [] fun node => node.references.map .expr
  | .stmt s => (g.stmt? s).elim [] StmtNode.references
  | .block b => (g.block? b).elim [] fun node => node.stmts.map .stmt
  | .var v => (g.var? v).elim [] fun node => node.init.toList.map .expr
  | .function f => (g.function? f).elim [] fun node => [.block node.body]

/-- The node at the end of a path, which goes on from each node to the one that it holds at the
next position. -/
def follow (g : Graph) : Handle → List Nat → Option Handle
  | h, [] => some h
  | h, i :: path => (g.children h)[i]?.bind fun k => g.follow k path

end Graph

/-- The node at the end of a path from the root block. -/
def Program.at? (p : Program) (path : List Nat) : Option Handle :=
  p.graph.follow (.block p.root) path

namespace Graph

variable {g g' : Graph} {h k : Handle}

@[simp] theorem follow_nil : g.follow h [] = some h := rfl

theorem follow_cons {i : Nat} {path : List Nat} :
    g.follow h (i :: path) = some k ↔
      ∃ m, (g.children h)[i]? = some m ∧ g.follow m path = some k := by
  simp [follow, Option.bind_eq_some_iff]

/-- A path that is put together from two. -/
theorem follow_append {path path' : List Nat} :
    g.follow h (path ++ path') = some k ↔
      ∃ m, g.follow h path = some m ∧ g.follow m path' = some k := by
  induction path generalizing h with
  | nil => simp
  | cons i path ih =>
    simp only [List.cons_append, follow_cons, ih]
    constructor
    · rintro ⟨m, hm, m', hpath, hpath'⟩
      exact ⟨m', ⟨m, hm, hpath⟩, hpath'⟩
    · rintro ⟨m', ⟨m, hm, hpath⟩, hpath'⟩
      exact ⟨m, hm, m', hpath, hpath'⟩

theorem follow_singleton {i : Nat} : g.follow h [i] = some k ↔ (g.children h)[i]? = some k := by
  simp [follow_cons]

/-! ### Looking nodes up -/

theorem exists_expr {e : ExprRef} (h : g.has (.expr e)) : ∃ node, g.expr? e = some node := by
  have hlt : e.index < g.exprs.size := by simpa [has] using h
  exact ⟨_, Array.getElem?_eq_getElem hlt⟩

theorem exists_stmt {s : StmtRef} (h : g.has (.stmt s)) : ∃ node, g.stmt? s = some node := by
  have hlt : s.index < g.stmts.size := by simpa [has] using h
  exact ⟨_, Array.getElem?_eq_getElem hlt⟩

theorem block?_eq {b : BlockRef} (h : g.has (.block b)) : g.block? b = some (g.block b) := by
  have hlt : b.index < g.blocks.size := by simpa [has] using h
  rw [Graph.block, block?, Array.getElem?_eq_getElem hlt, Option.getD_some]

theorem var?_eq {v : VarRef} (h : g.has (.var v)) : g.var? v = some (g.var v) := by
  have hlt : v.index < g.vars.size := by simpa [has] using h
  rw [Graph.var, var?, Array.getElem?_eq_getElem hlt, Option.getD_some]

theorem function?_eq {f : FunctionRef} (h : g.has (.function f)) :
    g.function? f = some (g.function f) := by
  have hlt : f.index < g.functions.size := by simpa [has] using h
  rw [Graph.function, function?, Array.getElem?_eq_getElem hlt, Option.getD_some]

/-! ### What a node holds -/

theorem children_expr {e : ExprRef} {node : ExprNode} (h : g.expr? e = some node) :
    g.children (.expr e) = node.references.map .expr := by
  rw [children, h]
  rfl

theorem children_stmt {s : StmtRef} {node : StmtNode} (h : g.stmt? s = some node) :
    g.children (.stmt s) = node.references := by
  rw [children, h]
  rfl

theorem children_block (b : BlockRef) : g.children (.block b) = (g.block b).stmts.map .stmt := by
  rw [children, Graph.block]
  cases g.block? b <;> rfl

theorem mem_children_block {b : BlockRef} {s : StmtRef} (hs : s ∈ (g.block b).stmts) :
    .stmt s ∈ g.children (.block b) := by
  rw [children_block]
  exact List.mem_map_of_mem hs

theorem children_var (v : VarRef) : g.children (.var v) = (g.var v).init.toList.map .expr := by
  rw [children, Graph.var]
  cases g.var? v <;> rfl

theorem children_function {f : FunctionRef} (h : g.has (.function f)) :
    g.children (.function f) = [.block (g.function f).body] := by
  rw [children, function?_eq h]
  rfl

/-! ### Tables -/

/-- The entry behind a table is the one that is pushed onto it, and the others stay. -/
theorem elim_push {α β : Type} (xs : Array α) (a : α) (i : Nat) (b : β) (f : α → β) :
    (xs.push a)[i]?.elim b f = if i = xs.size then f a else xs[i]?.elim b f := by
  rw [Array.getElem?_push]
  split <;> rfl

theorem elim_modify {α β : Type} (xs : Array α) (i j : Nat) (b : β) (m : α → α) (f : α → β) :
    (xs.modify i m)[j]?.elim b f = if i = j then xs[j]?.elim b (f ∘ m) else xs[j]?.elim b f := by
  rw [Array.getElem?_modify]
  split
  · cases xs[j]? <;> rfl
  · rfl

/-! ### The outermost mark -/

/-- The mark of the root changes no node's number. -/
@[simp] theorem has_markOutermost (b : BlockRef) : (g.markOutermost b).has = g.has := by
  funext k
  cases k with
  | block b' => simp [has, markOutermost]
  | _ => rfl

/-- The mark of the root changes nothing that is held. -/
@[simp] theorem children_markOutermost (b : BlockRef) :
    (g.markOutermost b).children = g.children := by
  funext k
  cases k with
  | block b' => simp [children, block?, markOutermost, elim_modify, Function.comp_def]
  | _ => rfl

@[simp] theorem follow_markOutermost {b : BlockRef} : (g.markOutermost b).follow = g.follow := by
  funext h path
  induction path generalizing h with
  | nil => rfl
  | cons i path ih => simp only [follow, children_markOutermost, ih]

/-! ### What building changes -/

/-- A new node, with the nodes that it holds. -/
structure Adds (g g' : Graph) (h : Handle) (held : List Handle) : Prop where
  fresh : ¬ g.has h
  has_iff : ∀ k, g'.has k ↔ k = h ∨ g.has k
  own : g'.children h = held
  other : ∀ k ≠ h, g'.children k = g.children k

/-- An old node holds other nodes than before. -/
structure Refills (g g' : Graph) (h : Handle) (held : List Handle) : Prop where
  has_iff : ∀ k, g'.has k ↔ g.has k
  own : g'.children h = held
  other : ∀ k ≠ h, g'.children k = g.children k

/-- The empty graph has no nodes. -/
theorem not_has_empty (h : Handle) : ¬ Graph.empty.has h := by
  cases h <;> simp [has, empty]

/-- Only a node that exists holds something. -/
theorem has_of_mem_children (hk : k ∈ g.children h) : g.has h := by
  have hlt {α : Type} {xs : Array α} {i : Nat} {f : α → List Handle}
      (hk : k ∈ xs[i]?.elim [] f) : i < xs.size := by
    cases hi : xs[i]? with
    | none =>
      rw [hi] at hk
      cases hk
    | some a => exact (Array.getElem?_eq_some_iff.mp hi).1
  cases h with
  | _ => simpa [has] using hlt hk

section

variable (g : Graph)

theorem adds_pushExpr (node : ExprNode) :
    g.Adds { g with exprs := g.exprs.push node } (.expr ⟨g.exprs.size⟩)
      (node.references.map .expr) where
  fresh := by simp [has]
  has_iff := fun k => by
    cases k with
    | expr e => cases e; simp [has]; omega
    | _ => simp [has]
  own := by simp [children, expr?]
  other := fun k hk => by
    cases k with
    | expr e => cases e; simp_all [children, expr?, elim_push]
    | _ => rfl

theorem adds_pushStmt (node : StmtNode) :
    g.Adds { g with stmts := g.stmts.push node } (.stmt ⟨g.stmts.size⟩) node.references where
  fresh := by simp [has]
  has_iff := fun k => by
    cases k with
    | stmt s => cases s; simp [has]; omega
    | _ => simp [has]
  own := by simp [children, stmt?]
  other := fun k hk => by
    cases k with
    | stmt s => cases s; simp_all [children, stmt?, elim_push]
    | _ => rfl

theorem adds_pushBlock :
    g.Adds { g with blocks := g.blocks.push { id := ⟨g.blocks.size⟩ } }
      (.block ⟨g.blocks.size⟩) [] where
  fresh := by simp [has]
  has_iff := fun k => by
    cases k with
    | block b => cases b; simp [has]; omega
    | _ => simp [has]
  own := by simp [children, block?]
  other := fun k hk => by
    cases k with
    | block b => cases b; simp_all [children, block?, elim_push]
    | _ => rfl

theorem adds_pushVar (node : VarNode) :
    g.Adds { g with vars := g.vars.push node } (.var ⟨g.vars.size⟩)
      (node.init.toList.map .expr) where
  fresh := by simp [has]
  has_iff := fun k => by
    cases k with
    | var v => cases v; simp [has]; omega
    | _ => simp [has]
  own := by simp [children, var?]
  other := fun k hk => by
    cases k with
    | var v => cases v; simp_all [children, var?, elim_push]
    | _ => rfl

/-- A block that gets an owner holds what it held. -/
theorem adds_pushFunction (node : FunctionNode) (owner : BlockNode → BlockNode)
    (howner : ∀ b, (owner b).stmts = b.stmts) :
    g.Adds { g with functions := g.functions.push node,
                    blocks := g.blocks.modify node.body.index owner }
      (.function ⟨g.functions.size⟩) [.block node.body] where
  fresh := by simp [has]
  has_iff := fun k => by
    cases k with
    | function f => cases f; simp [has]; omega
    | _ => simp [has]
  own := by simp [children, function?]
  other := fun k hk => by
    cases k with
    | function f => cases f; simp_all [children, function?, elim_push]
    | block b => simp [children, block?, elim_modify, Function.comp_def, howner]
    | _ => rfl

theorem refills_push {b : BlockRef} (hb : g.has (.block b)) (s : StmtRef) :
    g.Refills { g with blocks := g.blocks.modify b.index fun node =>
                { node with stmts := node.stmts ++ [s] } }
      (.block b) (g.children (.block b) ++ [.stmt s]) where
  has_iff := fun k => by cases k <;> simp [has]
  own := by
    have hlt : b.index < g.blocks.size := by simpa [has] using hb
    simp only [children, block?, elim_modify, if_pos, Array.getElem?_eq_getElem hlt]
    simp
  other := fun k hk => by
    cases k with
    | block b' =>
      have hne : b.index ≠ b'.index := by
        rintro h
        exact hk (by cases b; cases b'; simp_all)
      simp only [children, block?, elim_modify, if_neg hne]
    | _ => rfl

theorem refills_setInit {v : VarRef} (hv : g.has (.var v)) (init : ExprRef) :
    g.Refills { g with vars := g.vars.modify v.index fun node => { node with init := some init } }
      (.var v) [.expr init] where
  has_iff := fun k => by cases k <;> simp [has]
  own := by
    have hlt : v.index < g.vars.size := by simpa [has] using hv
    simp only [children, var?, elim_modify, if_pos, Array.getElem?_eq_getElem hlt]
    simp
  other := fun k hk => by
    cases k with
    | var v' =>
      have hne : v.index ≠ v'.index := by
        rintro h
        exact hk (by cases v; cases v'; simp_all)
      simp only [children, var?, elim_modify, if_neg hne]
    | _ => rfl

end

end Graph

end ToyLang
