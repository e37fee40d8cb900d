import ToyLang.Graph.Step

/-!
# The effect of a step on each table

The nodes of a graph stand in five tables.  A step puts at most one node behind one of them, and of
the nodes that are there it changes at most one: a block to which a statement is appended or which
gets an owner, or a variable that gets its initial value.  So what stands at a number after the step
is told by what stood there before, table by table, and no proof about all steps has to look at
each of them.

## Main definitions

* `Step.expr?`, `Step.stmt?`, `Step.block?`, `Step.var?`, `Step.function?` — the node that a step
  adds to each table.
* `Step.refilled`, `Step.refitted` — what a step makes of an old block and of an old variable.
* `Step.Effect` — a graph before a step and after it, table by table.

## Main results

* `Step.effect_of_run` — what a step does is its effect.
* `Step.runAll_induction` — what each step keeps, any list of steps keeps.
-/

namespace ToyLang

/-! ### Tables that are changed in place

Nothing stands behind a table, so what is said of its entries may be said with the number behind
it set apart. -/

section Table

variable {α : Type} {f : α → α} (xs : Array α) (i : Nat)

theorem getElem?_eq_ite : xs[i]? = if i = xs.size then none else xs[i]? := by
  split
  · next hi => simp [hi]
  · rfl

theorem getElem?_eq_map (hf : ∀ a, f a = a) :
    xs[i]? = if i = xs.size then none else xs[i]?.map f := by
  rw [funext hf (g := id), Option.map_id, id]
  exact getElem?_eq_ite xs i

theorem getElem?_push_eq_map (hf : ∀ a, f a = a) (x : α) :
    (xs.push x)[i]? = if i = xs.size then some x else xs[i]?.map f := by
  rw [funext hf (g := id), Option.map_id, id, Array.getElem?_push]

theorem getElem?_modify_eq_map {j : Nat} {m : α → α} (hf : ∀ a, f a = if j = i then m a else a) :
    (xs.modify j m)[i]? = if i = xs.size then none else xs[i]?.map f := by
  rw [Array.getElem?_modify, funext hf]
  by_cases hj : j = i
  · simpa [hj] using getElem?_eq_ite (xs.modify j m) i
  · simpa [hj] using getElem?_eq_ite xs i

end Table

namespace Step

/-! ### New nodes -/

/-- The expression that a step adds. -/
def expr? : Step → Option ExprNode
  | int value => some (.int value)
  | float value => some (.float value)
  | bool value => some (.bool value)
  | ident name => some (.ident name)
  | call callee args => some (.call (Cpp.mangle callee) args)
  | arith lhs op rhs => some (.arith lhs op rhs)
  | compare lhs op rhs => some (.compare lhs op rhs)
  | assign target value => some (.assign target value)
  | group inner => some (.group inner)
  | _ => none

/-- The statement that a step adds. -/
def stmt? : Step → Option StmtNode
  | stmt node => some node
  | _ => none

/-- The block that a step adds to a graph. -/
def block? (s : Step) (g : Graph) : Option BlockNode :=
  match s with
  | block => some { id := ⟨g.blocks.size⟩ }
  | _ => none

/-- The variable that a step adds. -/
def var? : Step → Option VarNode
  | var name type init => some ⟨name, type, init⟩
  | _ => none

/-- The function that a step adds. -/
def function? : Step → Option FunctionNode
  | function name params result body => some ⟨Cpp.mangle name, params, result, body⟩
  | _ => none

/-! ### Old nodes -/

/-- What a step makes of the block with a number. -/
def refilled (s : Step) (g : Graph) (b : BlockRef) (node : BlockNode) : BlockNode :=
  match s with
  | push b' r => if b' = b then { node with stmts := node.stmts ++ [r] } else node
  | function _ _ _ body =>
      if body = b then { node with owner := some ⟨g.functions.size⟩ } else node
  | _ => node

/-- What a step makes of the variable with a number. -/
def refitted (s : Step) (v : VarRef) (node : VarNode) : VarNode :=
  match s with
  | setInit v' init => if v' = v then { node with init := some init } else node
  | _ => node

/-! ### Effects -/

/-- A graph before a step and after it, table by table. -/
structure Effect (s : Step) (g g' : Graph) : Prop where
  expr? : ∀ e, g'.expr? e = if e.index = g.exprs.size then s.expr? else g.expr? e
  stmt? : ∀ r, g'.stmt? r = if r.index = g.stmts.size then s.stmt? else g.stmt? r
  block? : ∀ b, g'.block? b
    = if b.index = g.blocks.size then s.block? g else (g.block? b).map (s.refilled g b)
  var? : ∀ v, g'.var? v
    = if v.index = g.vars.size then s.var? else (g.var? v).map (s.refitted v)
  function? : ∀ f, g'.function? f
    = if f.index = g.functions.size then s.function? else g.function? f

variable {s : Step} {g g' : Graph} {h : Handle}

/-- A step is carried out if all that it refers to exists. -/
theorem run_eq_some_iff :
    s.run g = some (h, g') ↔ (∀ k ∈ s.references, g.has k) ∧ s.build g = (h, g') := by
  rw [run, ← List.all_eq_true]
  split
  · next hrefs => simp [hrefs]
  · next hrefs => simp [hrefs]

/-- What a step does is its effect. -/
theorem effect_of_build (hbuild : s.build g = (h, g')) : s.Effect g g' where
  expr? := fun e => by
    cases s with
    | stmt | block | push | var | setInit | function =>
      cases hbuild
      exact getElem?_eq_ite g.exprs e.index
    | _ =>
      cases hbuild
      exact Array.getElem?_push
  stmt? := fun r => by
    cases s with
    | stmt node =>
      cases hbuild
      exact Array.getElem?_push
    | _ =>
      cases hbuild
      exact getElem?_eq_ite g.stmts r.index
  block? := fun b => by
    cases s with
    | block =>
      cases hbuild
      exact getElem?_push_eq_map g.blocks b.index (fun _ => rfl) _
    | push b' r =>
      cases hbuild
      refine getElem?_modify_eq_map g.blocks b.index fun node => ?_
      simp only [refilled, BlockRef.ext_iff]
    | function name params result body =>
      cases hbuild
      refine getElem?_modify_eq_map g.blocks b.index fun node => ?_
      simp only [refilled, BlockRef.ext_iff]
    | _ =>
      cases hbuild
      exact getElem?_eq_map g.blocks b.index fun _ => rfl
  var? := fun v => by
    cases s with
    | var name type init =>
      cases hbuild
      exact getElem?_push_eq_map g.vars v.index (fun _ => rfl) _
    | setInit v' init =>
      cases hbuild
      refine getElem?_modify_eq_map g.vars v.index fun node => ?_
      simp only [refitted, VarRef.ext_iff]
    | _ =>
      cases hbuild
      exact getElem?_eq_map g.vars v.index fun _ => rfl
  function? := fun f => by
    cases s with
    | function name params result body =>
      cases hbuild
      exact Array.getElem?_push
    | _ =>
      cases hbuild
      exact getElem?_eq_ite g.functions f.index

theorem effect_of_run (hrun : s.run g = some (h, g')) : s.Effect g g' :=
  effect_of_build (run_eq_some_iff.mp hrun).2

/-- What each step keeps, any list of steps keeps. -/
theorem runAll_induction {P : Graph → Prop} (steps : List Step)
    (hstep : ∀ {s : Step} {g h g'}, s.run g = some (h, g') → P g → P g') (hg : P g) :
    P (runAll steps g) := by
  induction steps generalizing g with
  | nil => exact hg
  | cons s steps ih =>
    rw [runAll, List.foldl_cons]
    refine ih ?_
    cases hrun : s.run g with
    | none => exact hg
    | some next => exact hstep hrun hg

/-! ### Blocks -/

@[simp] theorem refilled_id (s : Step) (g : Graph) (b : BlockRef) (node : BlockNode) :
    (s.refilled g b node).id = node.id := by
  cases s <;> simp only [refilled] <;> split <;> rfl

@[simp] theorem refilled_outermost (s : Step) (g : Graph) (b : BlockRef) (node : BlockNode) :
    (s.refilled g b node).outermost = node.outermost := by
  cases s <;> simp only [refilled] <;> split <;> rfl

/-- A block keeps its owner unless a function is declared with it. -/
theorem refilled_owner (hs : s.function? = none) (b : BlockRef) (node : BlockNode) :
    (s.refilled g b node).owner = node.owner := by
  cases s with
  | push b' r =>
    rw [refilled]
    split <;> rfl
  | function name params result body => cases hs
  | _ => rfl

end Step

/-- Each block has its own number. -/
def Graph.Numbered (g : Graph) : Prop := ∀ b node, g.block? b = some node → node.id = b

theorem Graph.numbered_empty : Graph.empty.Numbered := fun _ _ hb => by simp [block?, empty] at hb

theorem Graph.Numbered.run {g g' : Graph} (hg : g.Numbered) {s : Step} {h : Handle}
    (hrun : s.run g = some (h, g')) : g'.Numbered := by
  intro b node hb
  rw [(Step.effect_of_run hrun).block? b] at hb
  split at hb
  · next hnew =>
    cases s with
    | block =>
      cases hb
      exact BlockRef.ext hnew.symm
    | _ => cases hb
  · obtain ⟨old, hold, rfl⟩ := Option.map_eq_some_iff.mp hb
    rw [Step.refilled_id]
    exact hg _ _ hold

/-- The mark of the root changes no number. -/
theorem Graph.Numbered.markOutermost {g : Graph} (hg : g.Numbered) (b : BlockRef) :
    (g.markOutermost b).Numbered := by
  intro b' node hb
  rw [block?, Graph.markOutermost, Array.getElem?_modify] at hb
  split at hb
  · obtain ⟨old, hold, rfl⟩ := Option.map_eq_some_iff.mp hb
    change old.id = b'
    exact hg _ _ hold
  · exact hg _ _ hb

end ToyLang
