import Mathlib.Data.List.Nodup
import Mathlib.Data.List.Perm.Subperm
import ToyLang.Proofs.Growth
import ToyLang.Proofs.Ordered
import ToyLang.Proofs.Preorder

/-!
# The check is a walk

The check of a program works on trees and outlines.  In an ordered graph these are made from the
nodes, so the check walks the nodes below the root in the order of writing.  It never runs out of
depth: a block that is entered is new and exists, so there are no more of them than the graph has.

## Main definitions

* `Visited.Room` — blocks may still be nested so deep.
* `Follows` — an action of the check walks some nodes.

## Main results

* `check_walks` — the check walks the root, and then looks for the entry point.
-/

namespace ToyLang

open ToyLang.Graph

/-! ### Room -/

namespace Visited

/-- The blocks that have been entered exist and are all different, and those that are left can be
nested no deeper than `depth`. -/
structure Room (g : Graph) (depth : Nat) (v : Visited) : Prop where
  nodup : v.blocks.Nodup
  has : ∀ b ∈ v.blocks, g.has (.block b)
  lt : g.blocks.size < v.blocks.length + depth

variable {g : Graph} {depth : Nat} {v : Visited}

/-- There are no more blocks to enter than the graph has. -/
theorem Room.length_le (h : v.Room g depth) : v.blocks.length ≤ g.blocks.size := by
  have hinj : ∀ b ∈ v.blocks, ∀ b' ∈ v.blocks, b.index = b'.index → b = b' := by
    rintro ⟨i⟩ - ⟨j⟩ - rfl
    rfl
  have hsub : v.blocks.map BlockRef.index ⊆ List.range g.blocks.size := by
    intro i hi
    obtain ⟨b, hb, rfl⟩ := List.mem_map.mp hi
    simpa [Graph.has] using h.has b hb
  simpa using ((List.Nodup.map_on hinj h.nodup).subperm hsub).length_le

theorem Room.depth_pos (h : v.Room g depth) : 0 < depth := by
  have hle := h.length_le
  have hlt := h.lt
  omega

/-- With every block that is entered there is as much room as before, and one more level to go. -/
theorem Room.take (h : v.Room g depth) {claim : Option Claim}
    (hnew : ∀ c, claim = some c → ¬ c.Taken v)
    (hhas : ∀ b, claim = some (.block b) → g.has (.block b)) : (v.take claim).Room g depth :=
  match claim with
  | none | some (.name _) => ⟨h.nodup, h.has, h.lt⟩
  | some (.block b) =>
    { nodup := List.nodup_cons.mpr ⟨hnew _ rfl, h.nodup⟩
      has := List.forall_mem_cons.mpr ⟨hhas b rfl, h.has⟩
      lt := Nat.lt_trans h.lt (by simp [Visited.take]) }

/-- Inside a block that is new there is room for one level less. -/
theorem Room.enter (h : v.Room g (depth + 1)) {b : BlockRef} (hnew : b ∉ v.blocks)
    (hb : g.has (.block b)) : Room g depth { v with blocks := b :: v.blocks } where
  nodup := List.nodup_cons.mpr ⟨hnew, h.nodup⟩
  has := List.forall_mem_cons.mpr ⟨hb, h.has⟩
  lt := by
    have hlt := h.lt
    simp only [List.length_cons]
    omega

end Visited

theorem Graph.claim?_eq_block {g : Graph} {h : Handle} {b : BlockRef}
    (hclaim : g.claim? h = some (.block b)) : h = .block b := by
  cases h with
  | block b' =>
    cases hclaim
    rfl
  | stmt s =>
    rw [claim?] at hclaim
    split at hclaim <;> cases hclaim
  | _ => cases hclaim

namespace Walks

variable {g : Graph} {level : Nat} {h : Handle} {hs hs' : List Handle} {v v' : Visited}
  {r : Except Error Visited}

/-- A walk over existing nodes keeps the room that there was. -/
theorem room (hg : g.Ordered) (hwalk : Walks g level hs v r) (hhas : ∀ h ∈ hs, g.has h)
    (hr : r = .ok v') {depth : Nat} (hroom : v.Room g depth) : v'.Room g depth := by
  induction hwalk generalizing v' with
  | done =>
    cases hr
    exact hroom
  | fault hfault => cases hr
  | taken hfault hclaim htaken => cases hr
  | inside hfault hfree hinside ih => cases hr
  | @next level h hs v v₁ r hfault hfree hinside hrest ihinside ihrest =>
    have htake : (v.take (g.claim? h)).Room g depth :=
      hroom.take hfree fun b hb => claim?_eq_block hb ▸ hhas h (.head _)
    exact ihrest (fun k hk => hhas k (.tail _ hk)) hr
      (ihinside (fun k hk => hg.has_of_mem hk) rfl htake)

/-- A walk with an error does not come to what follows. -/
theorem append_error (hwalk : Walks g level hs v r) {e : Error} (hr : r = .error e) :
    Walks g level (hs ++ hs') v (.error e) := by
  induction hwalk with
  | done => cases hr
  | fault hfault =>
    cases hr
    exact .fault hfault
  | taken hfault hclaim htaken =>
    cases hr
    exact .taken hfault hclaim htaken
  | inside hfault hfree hinside ih =>
    cases hr
    exact .inside hfault hfree hinside
  | next hfault hfree hinside hrest ihinside ihrest => exact .next hfault hfree hinside (ihrest hr)

/-- A walk that comes to its end goes on with what follows. -/
theorem append_ok {r' : Except Error Visited} (hwalk : Walks g level hs v r) (hr : r = .ok v')
    (hrest : Walks g level hs' v' r') : Walks g level (hs ++ hs') v r' := by
  induction hwalk with
  | done =>
    cases hr
    exact hrest
  | fault hfault => cases hr
  | taken hfault hclaim htaken => cases hr
  | inside hfault hfree hinside ih => cases hr
  | next hfault hfree hinside _ ihinside ihrest =>
    exact .next hfault hfree hinside (ihrest hr hrest)

/-- A node that nothing is wrong with and whose claim is new is walked as what it holds. -/
theorem node (hfault : g.fault? level h = none) (hfree : ∀ c, g.claim? h = some c → ¬ c.Taken v)
    (hinside : Walks g (level + 1) (g.children h) (v.take (g.claim? h)) r) :
    Walks g level [h] v r := by
  cases r with
  | error e => exact .inside hfault hfree hinside
  | ok v' => exact .next hfault hfree hinside .done

/-- A node that nothing is wrong with and that claims nothing is walked as what it holds. -/
theorem plain (hfault : g.fault? level h = none) (hclaim : g.claim? h = none)
    (hinside : Walks g (level + 1) (g.children h) v r) : Walks g level [h] v r := by
  refine node hfault (fun c hc => ?_) ?_
  · rw [hclaim] at hc
    cases hc
  · rwa [hclaim]

end Walks

/-! ### Actions of the check -/

/-- An action of the check walks some nodes, as far as there is room. -/
def Follows (g : Graph) (depth level : Nat) (hs : List Handle) {α : Type} (m : Visit α) : Prop :=
  ∀ v, v.Room g depth → Walks g level hs v ((m v).map Prod.snd)

namespace Follows

variable {g : Graph} {depth level : Nat} {h : Handle} {hs hs' : List Handle} {α β : Type}
  {m : Visit α}

theorem pure (a : α) : Follows g depth level [] (Pure.pure a : Visit α) := fun _ _ => .done

theorem throw {e : Error} (hfault : g.fault? level h = some e) :
    Follows g depth level [h] (throw e : Visit α) := fun _ _ => .fault hfault

theorem map (hm : Follows g depth level hs m) (f : α → β) : Follows g depth level hs (f <$> m) := by
  intro v hroom
  have hwalk := hm v hroom
  cases hmv : m v with
  | error e => simpa [Functor.map, StateT.map, bind, Except.bind, hmv, Except.map] using hwalk
  | ok out =>
    simpa [Functor.map, StateT.map, bind, Except.bind, Pure.pure, Except.pure, hmv, Except.map]
      using hwalk

/-- An action that walks a node, and then one that walks further nodes. -/
theorem bind (hg : g.Ordered) (hhas : g.has h) {f : α → Visit β}
    (hm : Follows g depth level [h] m) (hf : ∀ a, Follows g depth level hs (f a)) :
    Follows g depth level (h :: hs) (m >>= f) := by
  intro v hroom
  have hwalk := hm v hroom
  cases hmv : m v with
  | error e =>
    rw [hmv] at hwalk
    have hrun : (m >>= f) v = .error e := by simp [Bind.bind, StateT.bind, hmv, Except.bind]
    rw [hrun]
    exact hwalk.append_error rfl
  | ok out =>
    obtain ⟨a, v'⟩ := out
    rw [hmv] at hwalk
    have hrun : (m >>= f) v = f a v' := by simp [Bind.bind, StateT.bind, hmv, Except.bind]
    rw [hrun]
    exact hwalk.append_ok rfl (hf a v' (hwalk.room hg (by simpa using hhas) rfl hroom))

theorem plain (hfault : g.fault? level h = none) (hclaim : g.claim? h = none)
    (hm : Follows g depth (level + 1) (g.children h) m) : Follows g depth level [h] m :=
  fun v hroom => .plain hfault hclaim (hm v hroom)

theorem mapM (hg : g.Ordered) {ι κ : Type} {f : κ → Visit β} (handle : ι → Handle) (out : ι → κ)
    (xs : List ι) (hhas : ∀ x ∈ xs, g.has (handle x))
    (hf : ∀ x ∈ xs, Follows g depth level [handle x] (f (out x))) :
    Follows g depth level (xs.map handle) ((xs.map out).mapM f) := by
  induction xs with
  | nil => exact .pure []
  | cons x xs ih =>
    rw [List.map_cons, List.map_cons, List.mapM_cons]
    have hrest := ih (fun y hy => hhas y (.tail _ hy)) fun y hy => hf y (.tail _ hy)
    simp only [bind_pure_comp]
    exact bind hg (hhas x (.head _)) (hf x (.head _)) fun a => hrest.map _

end Follows

/-! ### Expressions -/

/-- What remains of a walk over expressions whose first literal that is not finite is given. -/
def literalResult (v : Visited) : Option Binary64 → Except Error Visited
  | some x => .error (.nonFiniteFloat x.text)
  | none => .ok v

/-- The literal that an expression itself is, if it is not finite. -/
def ExprNode.ownNonFinite? : ExprNode → Option Binary64
  | float x => if x.isFinite then none else some x
  | _ => none

theorem ExprNode.nonFinite?_tree (node : ExprNode) (earlier : ExprRef → Cpp.Expr) :
    (node.tree earlier).nonFinite?
      = (node.ownNonFinite? <|> Cpp.nonFiniteAmong? (node.references.map earlier)) := by
  cases node <;>
    simp [tree, ownNonFinite?, references, Cpp.Expr.nonFinite?, Cpp.nonFiniteAmong?]

theorem Graph.fault?_expr {g : Graph} {e : ExprRef} {node : ExprNode} (level : Nat)
    (hnode : g.expr? e = some node) :
    g.fault? level (.expr e) = node.ownNonFinite?.map fun x => .nonFiniteFloat x.text := by
  rw [fault?, hnode]
  cases node with
  | float x =>
    rw [ExprNode.ownNonFinite?]
    dsimp only
    split <;> rfl
  | _ => rfl

theorem walks_exprs {g : Graph} {level : Nat} {v : Visited} (es : List ExprRef)
    (hes : ∀ e ∈ es, Walks g level [.expr e] v (literalResult v (g.tree e).nonFinite?)) :
    Walks g level (es.map .expr) v (literalResult v (Cpp.nonFiniteAmong? (es.map g.tree))) := by
  induction es with
  | nil => exact .done
  | cons e es ih =>
    have hfirst := hes e (.head _)
    have hrest := ih fun e' he' => hes e' (.tail _ he')
    rw [List.map_cons, List.map_cons, Cpp.nonFiniteAmong?]
    cases hx : (g.tree e).nonFinite? with
    | some x =>
      rw [hx] at hfirst
      exact hfirst.append_error rfl
    | none =>
      rw [hx] at hfirst
      exact hfirst.append_ok rfl hrest

section

variable {g : Graph} (hg : g.Ordered)

include hg

/-- Expressions hold earlier ones only, so the walk over an expression is described by induction on
its number. -/
theorem walks_expr {level : Nat} {v : Visited} (e : ExprRef) (he : g.has (.expr e)) :
    Walks g level [.expr e] v (literalResult v (g.tree e).nonFinite?) := by
  obtain ⟨i⟩ := e
  induction i using Nat.strongRecOn generalizing level with
  | _ i ih =>
    obtain ⟨node, hnode⟩ := exists_expr he
    rw [hg.tree_eq hnode, node.nonFinite?_tree]
    have hfault := fault?_expr level hnode
    cases hown : node.ownNonFinite? with
    | some x =>
      rw [hown] at hfault
      exact .fault hfault
    | none =>
      rw [hown] at hfault
      refine .plain hfault rfl ?_
      rw [children_expr hnode]
      refine walks_exprs _ fun e' he' => ?_
      have hmem : .expr e' ∈ g.children (.expr ⟨i⟩) := by
        rw [children_expr hnode]
        exact List.mem_map_of_mem he'
      exact ih e'.index (hg.expr_lt hmem) (hg.has_of_mem hmem)

theorem follows_expr {depth level : Nat} {e : ExprRef} (he : g.has (.expr e)) :
    Follows g depth level [.expr e] (Visit.expr (g.tree e)) := by
  intro v _
  have hwalk : Walks g level [.expr e] v _ := walks_expr hg e he
  rw [Visit.expr]
  cases hx : (g.tree e).nonFinite? with
  | some x =>
    rw [hx] at hwalk
    exact hwalk
  | none =>
    rw [hx] at hwalk
    exact hwalk

theorem follows_var {depth level : Nat} {w : VarRef} :
    Follows g depth level [.var w] (Visit.var g.exprTrees (g.var w)) := by
  rw [Visit.var]
  cases hinit : (g.var w).init with
  | none => exact .throw (by rw [fault?, if_pos hinit])
  | some init =>
    refine .plain (by rw [fault?, if_neg (by simp [hinit])]) rfl ?_
    have hmem : .expr init ∈ g.children (.var w) := by simp [children_var, hinit]
    rw [children_var, hinit]
    simp only [bind_pure_comp]
    exact (follows_expr hg (hg.has_of_mem hmem)).map _

/-! ### Statements -/

/-- An action walks every block that exists and is not the root. -/
def FollowsBlocks (g : Graph) (depth : Nat) (visitBlock : BlockRef → Visit Cpp.Block) : Prop :=
  ∀ (level : Nat) (b : BlockRef), 1 ≤ level → g.has (.block b) →
    Follows g depth level [.block b] (visitBlock b)

/-- Statements are made of earlier ones, so the walk over a statement is described by induction on
its number.  Below the top level a function is an error; those at the top level are not walked in
this way. -/
theorem follows_stmt {depth : Nat} {visitBlock : BlockRef → Visit Cpp.Block}
    (hblocks : FollowsBlocks g depth visitBlock) {level : Nat} (s : StmtRef)
    (hs : g.has (.stmt s)) (hlevel : 1 ≤ level)
    (htop : level = 1 → ∀ f, g.stmt? s ≠ some (.function f)) :
    Follows g depth level [.stmt s] (g.spell.visitStmt visitBlock (g.outline s)) := by
  obtain ⟨i⟩ := s
  induction i using Nat.strongRecOn generalizing level with
  | _ i ih =>
    obtain ⟨node, hnode⟩ := exists_stmt hs
    have hhas {k : Handle} (hk : k ∈ node.references) : g.has k :=
      hg.has_of_mem_references hnode hk
    have hexpr {e : ExprRef} (hk : .expr e ∈ node.references) :
        Follows g depth (level + 1) [.expr e] (Visit.expr (g.tree e)) := follows_expr hg (hhas hk)
    have hblock {b : BlockRef} (hk : .block b ∈ node.references) :
        Follows g depth (level + 1) [.block b] (visitBlock b) := hblocks _ b (by omega) (hhas hk)
    have hpart {r : StmtRef} (hk : .stmt r ∈ node.references) :
        Follows g depth (level + 1) [.stmt r] (g.spell.visitStmt visitBlock (g.outline r)) :=
      ih r.index (hg.part_lt hnode hk) (by omega) (hhas hk) (by omega)
    have hplain {m : Visit Cpp.Stmt} (hnot : ∀ f, node ≠ .function f)
        (hm : Follows g depth (level + 1) node.references m) :
        Follows g depth level [.stmt ⟨i⟩] m := by
      refine .plain ?_ ?_ (by rwa [children_stmt hnode])
      · rw [fault?, hnode]
        cases node <;> first | rfl | exact absurd rfl (hnot _)
      · rw [claim?, hnode]
        cases node <;> first | rfl | exact absurd rfl (hnot _)
    rw [hg.outline_eq hnode]
    cases node with
    | eval value => exact hplain (by simp) ((hexpr (.head _)).map _)
    | ret value => exact hplain (by simp) ((hexpr (.head _)).map _)
    | var w => exact hplain (by simp) (follows_var hg)
    | function f =>
      have hne : level ≠ 1 := fun h => htop h f hnode
      refine .throw ?_
      simp only [fault?, hnode, if_neg hne]
      rfl
    | block body => exact hplain (by simp) ((hblock (.head _)).map _)
    | cond test body otherwise =>
      cases otherwise with
      | none =>
        refine hplain (by simp) ?_
        rw [StmtNode.outline, Spelled.visitStmt]
        simp only [bind_pure_comp]
        exact .bind hg (hhas (.head _)) (hexpr (.head _)) fun _ =>
          (hpart (.tail _ (.head _))).map _
      | some otherwise =>
        refine hplain (by simp) ?_
        rw [StmtNode.outline, Spelled.visitStmt]
        simp only [bind_pure_comp]
        exact .bind hg (hhas (.head _)) (hexpr (.head _)) fun _ =>
          .bind hg (hhas (.tail _ (.head _))) (hpart (.tail _ (.head _))) fun _ =>
          (hpart (.tail _ (.tail _ (.head _)))).map _
    | loop test body =>
      refine hplain (by simp) ?_
      rw [StmtNode.outline, Spelled.visitStmt]
      simp only [bind_pure_comp]
      exact .bind hg (hhas (.head _)) (hexpr (.head _)) fun _ =>
        (hblock (.tail _ (.head _))).map _
    | count counter first bound body =>
      refine hplain (by simp) ?_
      rw [StmtNode.outline, Spelled.visitStmt]
      simp only [bind_pure_comp]
      exact .bind hg (hhas (.head _)) (hexpr (.head _)) fun _ =>
        .bind hg (hhas (.tail _ (.head _))) (hexpr (.tail _ (.head _))) fun _ =>
        (hblock (.tail _ (.tail _ (.head _)))).map _

/-! ### Blocks -/

omit hg in
/-- Entering a block and then walking its statements walks the block. -/
theorem follows_enter {depth level : Nat} {b : BlockRef} (hb : g.has (.block b)) {α : Type}
    {m : Visit α} (hm : Follows g depth (level + 1) (g.children (.block b)) m) :
    Follows g (depth + 1) level [.block b] (Visit.enter b >>= fun _ => m) := by
  intro v hroom
  have henter : Visit.enter b v = if b ∈ v.blocks then .error (.sharedBlock b.index)
      else .ok ((), { v with blocks := b :: v.blocks }) := by
    change (if b ∈ v.blocks then _ else _ : Visit Unit) v = _
    split <;> rfl
  by_cases hmem : b ∈ v.blocks
  · have hrun : (Visit.enter b >>= fun _ => m) v = .error (.sharedBlock b.index) := by
      simp [Bind.bind, StateT.bind, Except.bind, henter, hmem]
    rw [hrun]
    exact Walks.taken (c := .block b) rfl rfl hmem
  · have hrun : (Visit.enter b >>= fun _ => m) v = m { v with blocks := b :: v.blocks } := by
      simp [Bind.bind, StateT.bind, Except.bind, henter, hmem]
    rw [hrun]
    refine .node rfl (fun c hc => ?_) (hm _ (hroom.enter hmem hb))
    cases hc
    exact hmem

/-- The statements of a block are walked one after the other. -/
theorem follows_body {depth level : Nat} {b : BlockRef} {α : Type} {visit : Outline → Visit α}
    (hvisit : ∀ s, .stmt s ∈ g.children (.block b) →
      Follows g depth level [.stmt s] (visit (g.outline s))) :
    Follows g depth level (g.children (.block b)) ((g.spell.body b).mapM visit) := by
  rw [children_block]
  exact .mapM hg .stmt g.outline _ (fun s hs => hg.has_of_mem (mem_children_block hs)) fun s hs =>
    hvisit s (mem_children_block hs)

theorem follows_block (depth : Nat) : FollowsBlocks g depth (g.spell.visitBlock depth) := by
  induction depth with
  | zero =>
    intro level b hlevel hb v hroom
    exact absurd hroom.depth_pos (Nat.lt_irrefl 0)
  | succ depth ih =>
    intro level b hlevel hb
    rw [Spelled.visitBlock]
    simp only [bind_pure_comp]
    refine follows_enter hb ((follows_body hg fun s hs => ?_).map _)
    exact follows_stmt hg ih s (hg.has_of_mem hs) (by omega) (by omega)

/-! ### The top level -/

omit hg in
/-- Declaring a function and then walking its body walks the statement that declares it. -/
theorem follows_declare {depth : Nat} {s : StmtRef} {f : FunctionRef}
    (hs : g.stmt? s = some (.function f)) {α : Type} {m : Visit α}
    (hm : Follows g depth 2 (g.children (.stmt s)) m) :
    Follows g depth 1 [.stmt s] (Visit.declare (g.function f).name >>= fun _ => m) := by
  intro v hroom
  have hclaim : g.claim? (.stmt s) = some (.name (g.function f).name) := by rw [claim?, hs]
  have hdeclare : Visit.declare (g.function f).name v
      = if Cpp.isBuiltinName (g.function f).name ∨ (g.function f).name ∈ v.functions
        then .error (.duplicateFunction (g.function f).name)
        else .ok ((), { v with functions := (g.function f).name :: v.functions }) := by
    change (if _ ∨ _ then _ else _ : Visit Unit) v = _
    split <;> rfl
  have hrefused (h : Cpp.isBuiltinName (g.function f).name ∨ (g.function f).name ∈ v.functions) :
      (Visit.declare (g.function f).name >>= fun _ => m) v
        = .error (.duplicateFunction (g.function f).name) := by
    simp only [Bind.bind, StateT.bind, Except.bind, hdeclare, if_pos h]
  by_cases hbuiltin : Cpp.isBuiltinName (g.function f).name
  · rw [hrefused (.inl hbuiltin)]
    refine .fault ?_
    simp [fault?, hs, hbuiltin]
  by_cases hname : (g.function f).name ∈ v.functions
  · rw [hrefused (.inr hname)]
    exact .taken (by simp [fault?, hs, hbuiltin]) hclaim hname
  · have hrun : (Visit.declare (g.function f).name >>= fun _ => m) v
        = m { v with functions := (g.function f).name :: v.functions } := by
      simp [Bind.bind, StateT.bind, Except.bind, hdeclare, hbuiltin, hname]
    rw [hrun]
    refine .node (by simp [fault?, hs, hbuiltin]) (fun c hc => ?_) ?_
    · rw [hclaim] at hc
      cases hc
      exact hname
    · rw [hclaim]
      exact hm _ ⟨hroom.nodup, hroom.has, hroom.lt⟩

/-- At the top level, what declares no function is walked like anywhere else. -/
theorem visitItem_of_not_function {visitBlock : BlockRef → Visit Cpp.Block} {s : StmtRef}
    {node : StmtNode} (hnode : g.stmt? s = some node) (hnot : ∀ f, node ≠ .function f) :
    g.spell.visitItem visitBlock (g.outline s)
      = Cpp.Item.stmt <$> g.spell.visitStmt visitBlock (g.outline s) := by
  rw [hg.outline_eq hnode]
  cases node with
  | function f => exact absurd rfl (hnot f)
  | cond test body otherwise => cases otherwise <;> rfl
  | _ => rfl

theorem follows_item {depth : Nat} {visitBlock : BlockRef → Visit Cpp.Block}
    (hblocks : FollowsBlocks g depth visitBlock) {s : StmtRef} (hs : g.has (.stmt s)) :
    Follows g depth 1 [.stmt s] (g.spell.visitItem visitBlock (g.outline s)) := by
  obtain ⟨node, hnode⟩ := exists_stmt hs
  by_cases hfunction : ∃ f, node = .function f
  · obtain ⟨f, rfl⟩ := hfunction
    have hf : g.has (.function f) := hg.has_of_mem_references hnode (.head _)
    have hbody : g.has (.block (g.function f).body) := by
      refine hg.has_of_mem (h := .function f) ?_
      rw [children_function hf]
      exact .head _
    rw [hg.outline_eq hnode, StmtNode.outline, Spelled.visitItem]
    simp only [bind_pure_comp]
    refine follows_declare hnode ?_
    rw [children_stmt hnode]
    refine .plain rfl rfl ?_
    rw [children_function hf]
    exact (hblocks 3 _ (by omega) hbody).map _
  · have hnot : ∀ f, g.stmt? s ≠ some (.function f) := by
      rintro f hf
      exact hfunction ⟨f, Option.some.inj (hnode.symm.trans hf)⟩
    have hstmt := (follows_stmt hg hblocks s hs (Nat.le_refl 1) fun _ => hnot).map Cpp.Item.stmt
    rwa [visitItem_of_not_function hg hnode fun f hf => hfunction ⟨f, hf⟩]

theorem follows_root {root : BlockRef} (hroot : g.has (.block root)) :
    Follows g (g.blocks.size + 1) 0 [.block root] (g.spell.visitRoot root) := by
  rw [Spelled.visitRoot]
  simp only [bind_pure_comp]
  refine follows_enter hroot ((follows_body hg fun s hs => ?_).map _)
  exact follows_item hg (follows_block hg _) (hg.has_of_mem hs)

end

/-- The check of a program walks its root block, and looks for the entry point if the walk comes to
its end. -/
theorem check_walks {p : Program} (hg : p.graph.Ordered) (hroot : p.graph.has (.block p.root)) :
    (∃ e, Walks p.graph 0 [.block p.root] {} (.error e) ∧ p.check = .error e) ∨
    ∃ v, Walks p.graph 0 [.block p.root] {} (.ok v) ∧
      ("main__func__" ∈ v.functions ∧
          (∃ file, p.check = .ok ⟨file, v.functions.length, v.blocks.length⟩) ∨
        "main__func__" ∉ v.functions ∧ p.check = .error (.missingEntryPoint "main")) := by
  have hentry : Cpp.mangle Cpp.entryPoint = "main__func__" := by decide
  have hwalk := follows_root hg hroot {} ⟨.nil, by simp, by simp⟩
  unfold Program.check
  rw [StateT.run]
  cases hvisit : p.graph.spell.visitRoot p.root {} with
  | error e =>
    rw [hvisit] at hwalk
    exact .inl ⟨e, hwalk, rfl⟩
  | ok out =>
    obtain ⟨file, v⟩ := out
    rw [hvisit] at hwalk
    refine .inr ⟨v, hwalk, ?_⟩
    simp only [bind, Except.bind, hentry]
    by_cases hmain : "main__func__" ∈ v.functions
    · exact .inl ⟨hmain, file, if_pos hmain⟩
    · exact .inr ⟨hmain, if_neg hmain⟩

end ToyLang
