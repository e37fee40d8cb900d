import ToyLang.Lowering
import ToyLang.Proofs.Forest
import ToyLang.Proofs.Growth

/-!
# Lowering builds a tree

Whatever is lowered becomes a tree whose root nothing holds yet.  An action of lowering takes some
such roots and leaves others, and all further ones stay: so the actions are described by what they
take and leave, and the trees that they do not touch are part of the description.

Below the top level an action also leaves alone what belongs to functions: it declares none and
gives no block an owner.

## Main definitions

* `Graph.Quiet` — what changes below the top level.
* `Plants` — an action takes some roots and leaves others.

## Main results

* `Expr.lower_plants`, `Stmt.lower_plants` — lowering leaves one more tree.
-/

namespace ToyLang

namespace Graph

/-- The function that a block is the body of. -/
def owner? (g : Graph) (b : BlockRef) : Option FunctionRef := (g.block? b).bind BlockNode.owner

/-- A block is marked as the one that holds the top level. -/
def IsOutermost (g : Graph) (b : BlockRef) : Prop := (g.block? b).any BlockNode.outermost

/-- A graph changes below the top level: what is held stays held; no function is declared; no block
gets an owner or the mark; old variables stay as they are, and new ones have initial values. -/
structure Quiet (g g' : Graph) : Prop where
  held : ∀ {h k}, k ∈ g.children h → k ∈ g'.children h
  functions : g'.functions = g.functions
  declared : ∀ {s f}, g'.stmt? s = some (.function f) → g.stmt? s = some (.function f)
  owner : ∀ b, g'.owner? b = g.owner? b
  outermost : ∀ b, g'.IsOutermost b ↔ g.IsOutermost b
  kept : ∀ {v node}, g.var? v = some node → g'.var? v = some node
  initialised : ∀ {v node}, g'.var? v = some node → g.var? v = some node ∨ node.init ≠ none

namespace Quiet

variable {g g' g'' : Graph}

theorem refl (g : Graph) : g.Quiet g where
  held := id
  functions := rfl
  declared := id
  owner := fun _ => rfl
  outermost := fun _ => Iff.rfl
  kept := id
  initialised := .inl

theorem trans (h : g.Quiet g') (h' : g'.Quiet g'') : g.Quiet g'' where
  held := h'.held ∘ h.held
  functions := h'.functions.trans h.functions
  declared := h.declared ∘ h'.declared
  owner := fun b => (h'.owner b).trans (h.owner b)
  outermost := fun b => (h'.outermost b).trans (h.outermost b)
  kept := h'.kept ∘ h.kept
  initialised := fun hv => (h'.initialised hv).elim h.initialised .inr

end Quiet

variable {g g' : Graph} {h : Handle} {more : List Handle}

/-- A new node leaves what is held held. -/
theorem Adds.held (hadds : g.Adds g' h more) {m k : Handle} (hk : k ∈ g.children m) :
    k ∈ g'.children m := by
  have hne : m ≠ h := by
    rintro rfl
    exact hadds.fresh (has_of_mem_children hk)
  rwa [hadds.other m hne]

/-- What a node holds in addition leaves what is held held. -/
theorem Refills.held (hrefills : g.Refills g' h (g.children h ++ more)) {m k : Handle}
    (hk : k ∈ g.children m) : k ∈ g'.children m := by
  by_cases hm : m = h
  · rw [hm, hrefills.own]
    exact List.mem_append_left more (hm ▸ hk)
  · rwa [hrefills.other m hm]

variable (g)

theorem quiet_pushExpr (node : ExprNode) : g.Quiet { g with exprs := g.exprs.push node } where
  held := (adds_pushExpr g node).held
  functions := rfl
  declared := id
  owner := fun _ => rfl
  outermost := fun _ => Iff.rfl
  kept := id
  initialised := .inl

theorem quiet_pushStmt (node : StmtNode) (hnode : ∀ f, node ≠ .function f) :
    g.Quiet { g with stmts := g.stmts.push node } where
  held := (adds_pushStmt g node).held
  functions := rfl
  declared := fun {s f} hs => by
    rw [stmt?, Array.getElem?_push] at hs
    split at hs
    · exact absurd (Option.some.inj hs) (hnode f)
    · exact hs
  owner := fun _ => rfl
  outermost := fun _ => Iff.rfl
  kept := id
  initialised := .inl

theorem quiet_pushBlock :
    g.Quiet { g with blocks := g.blocks.push { id := ⟨g.blocks.size⟩ } } where
  held := (adds_pushBlock g).held
  functions := rfl
  declared := id
  owner := fun b => by
    rw [owner?, owner?, block?, block?, Array.getElem?_push]
    split
    · next hb => simp [hb]
    · rfl
  outermost := fun b => by
    rw [IsOutermost, IsOutermost, block?, block?, Array.getElem?_push]
    split
    · next hb => simp [hb]
    · rfl
  kept := id
  initialised := .inl

theorem quiet_push {b : BlockRef} (hb : g.has (.block b)) (s : StmtRef) :
    g.Quiet { g with blocks := g.blocks.modify b.index fun node =>
      { node with stmts := node.stmts ++ [s] } } where
  held := (refills_push g hb s).held
  functions := rfl
  declared := id
  owner := fun b' => by
    rw [owner?, owner?, block?, block?, Array.getElem?_modify]
    split
    · cases g.blocks[b'.index]? <;> rfl
    · rfl
  outermost := fun b' => by
    rw [IsOutermost, IsOutermost, block?, block?, Array.getElem?_modify]
    split
    · cases g.blocks[b'.index]? <;> rfl
    · rfl
  kept := id
  initialised := .inl

end Graph

namespace Ast

open ToyLang.Graph

/-! ### Actions and the trees that they leave -/

/-- The action takes trees with the roots `before` and leaves trees with the roots `after`, whatever
other trees there are, and is quiet. -/
def Plants {α : Type} (before : List Handle) (m : Build α) (after : α → List Handle) : Prop :=
  ∀ g rest, g.Forest (before ++ rest) →
    ∃ a g', m g = (a, g') ∧ g'.Forest (after a ++ rest) ∧ g.Quiet g'

namespace Plants

variable {α β : Type} {before : List Handle} {m : Build α} {after : α → List Handle}
  {f : α → Build β} {last : β → List Handle}

theorem pure (a : α) : Plants (after a) (Pure.pure a) after := fun g _ hf =>
  ⟨a, g, rfl, hf, .refl g⟩

/-- One action after the other. -/
theorem seq (hm : Plants before m after) (hf : ∀ a, Plants (after a) (f a) last) :
    Plants before (m >>= f) last := by
  intro g rest hforest
  obtain ⟨a, g₁, hrun, hforest₁, hquiet₁⟩ := hm g rest hforest
  obtain ⟨b, g₂, hrun₂, hforest₂, hquiet₂⟩ := hf a g₁ rest hforest₁
  exact ⟨b, g₂, (Build.bind_eq hrun).trans hrun₂, hforest₂, hquiet₁.trans hquiet₂⟩

/-- Trees that an action does not touch can be named. -/
theorem frame (hm : Plants before m after) (others : List Handle) :
    Plants (others ++ before) m fun a => others ++ after a := by
  have hswap (hs rest : List Handle) : (others ++ hs ++ rest).Perm (hs ++ (others ++ rest)) := by
    rw [List.append_assoc]
    exact List.perm_append_comm_assoc others hs rest
  intro g rest hforest
  obtain ⟨a, g', hrun, hforest, hquiet⟩ := hm g _ (hforest.perm (hswap before rest))
  exact ⟨a, g', hrun, hforest.perm (hswap (after a) rest).symm, hquiet⟩

theorem map {h : α → β} (hm : Plants before m after) (hlast : ∀ a, last (h a) = after a) :
    Plants before (h <$> m) last := by
  intro g rest hforest
  obtain ⟨a, g', hrun, hforest, hquiet⟩ := hm g rest hforest
  refine ⟨h a, g', ?_, (hlast a).symm ▸ hforest, hquiet⟩
  simp [Functor.map, StateT.map, hrun]

end Plants

theorem plants_addExpr (node : ExprNode) :
    Plants (node.references.map .expr) (Build.addExpr node) fun r => [.expr r] := fun g _ hf =>
  ⟨_, _, Build.addExpr_eq g node, hf.adds (adds_pushExpr g node), quiet_pushExpr g node⟩

theorem plants_addStmt (node : StmtNode) (hnode : ∀ f, node ≠ .function f) :
    Plants node.references (Build.addStmt node) fun s => [.stmt s] := fun g _ hf =>
  ⟨_, _, Build.addStmt_eq g node, hf.adds (adds_pushStmt g node), quiet_pushStmt g node hnode⟩

theorem plants_addBlock : Plants [] Build.addBlock fun b => [.block b] := fun g _ hf =>
  ⟨_, _, Build.addBlock_eq g, hf.adds (adds_pushBlock g), quiet_pushBlock g⟩

theorem plants_push (b : BlockRef) (s : StmtRef) :
    Plants [.block b, .stmt s] (Build.push b s) fun _ => [.block b] := by
  intro g rest hf
  have hb : g.has (.block b) := hf.has_root _ (.head _)
  have hswap : (.stmt s :: .block b :: rest : List Handle).Perm (.block b :: .stmt s :: rest) :=
    .swap _ _ _
  exact ⟨_, _, Build.push_eq g b s, (hf.perm hswap.symm).refills (.head _) (refills_push g hb s),
    quiet_push g hb s⟩

/-! ### Expressions and variables -/

mutual

theorem Expr.lower_plants : (e : Expr) → Plants [] e.lower fun r => [.expr r]
  | .int value => plants_addExpr (.int value)
  | .float value => plants_addExpr (.float value)
  | .bool value => plants_addExpr (.bool value)
  | .ident name => plants_addExpr (.ident name)
  | .call callee args =>
    (lowerArgs_plants args).seq fun refs => plants_addExpr (.call (Cpp.mangle callee) refs)
  | .arith tag lhs rhs =>
    lhs.lower_plants.seq fun l => (rhs.lower_plants.frame [.expr l]).seq fun r =>
      plants_addExpr (.arith l (Operator.ofTag tag) r)
  | .compare tag lhs rhs =>
    lhs.lower_plants.seq fun l => (rhs.lower_plants.frame [.expr l]).seq fun r =>
      plants_addExpr (.compare l (Operator.ofTag tag) r)
  | .assign target value => value.lower_plants.seq fun v => plants_addExpr (.assign target v)
  | .paren inner => inner.lower_plants.seq fun i => plants_addExpr (.group i)

theorem lowerArgs_plants : (es : List Expr) → Plants [] (lowerArgs es) fun refs => refs.map .expr
  | [] => @Plants.pure _ (fun refs => refs.map .expr) []
  | e :: es =>
    e.lower_plants.seq fun r => ((lowerArgs_plants es).frame [.expr r]).seq fun rs =>
      @Plants.pure _ (fun refs => refs.map .expr) (r :: rs)

end

/-- A variable is created without its initial value.  It stays so while the value is lowered, and
then takes it in. -/
theorem Binding.lower_plants (b : Binding) : Plants [] b.lower fun v => [.var v] := by
  intro g rest hforest
  let g₁ : Graph := { g with vars := g.vars.push ⟨b.name, b.type, none⟩ }
  have hforest₁ : g₁.Forest (.var ⟨g.vars.size⟩ :: rest) :=
    hforest.adds (adds_pushVar g ⟨b.name, b.type, none⟩)
  obtain ⟨init, g₂, hinit, hforest₂, hquiet⟩ := b.init.lower_plants g₁ _ hforest₁
  have hnode : g₂.var? ⟨g.vars.size⟩ = some ⟨b.name, b.type, none⟩ :=
    hquiet.kept (by simp [g₁, var?])
  have hchildren : g₂.children (.var ⟨g.vars.size⟩) = [] := by
    rw [children, hnode]
    rfl
  have hhas : g₂.has (.var ⟨g.vars.size⟩) := hforest₂.has_root _ (.tail _ (.head _))
  have hset := refills_setInit g₂ hhas init
  let g₃ : Graph :=
    { g₂ with vars := g₂.vars.modify g.vars.size fun node => { node with init := some init } }
  have hforest₃ : g₃.Forest (.var ⟨g.vars.size⟩ :: rest) :=
    hforest₂.refills (.head _) (by rwa [hchildren])
  refine ⟨⟨g.vars.size⟩, g₃, ?_, hforest₃, ?_⟩
  · rw [Binding.lower, Build.bind_eq (Build.addVar_eq g b.name b.type none),
      Build.bind_eq hinit, Build.bind_eq (Build.setInit_eq g₂ ⟨g.vars.size⟩ init)]
    rfl
  · have hadds := adds_pushVar g ⟨b.name, b.type, none⟩
    have hold {v : VarRef} {node : VarNode} (hv : g.var? v = some node) : g₁.var? v = some node :=
      getElem?_push_of_some _ hv
    exact
      { held := fun {h k} hk => by
          have hk₂ := hquiet.held (hadds.held hk)
          have hne : h ≠ .var ⟨g.vars.size⟩ := by
            rintro rfl
            rw [hchildren] at hk₂
            cases hk₂
          rwa [hset.other h hne]
        functions := hquiet.functions
        declared := hquiet.declared
        owner := hquiet.owner
        outermost := hquiet.outermost
        kept := fun {v node} hv => by
          have hne : v.index ≠ g.vars.size := Nat.ne_of_lt (Array.getElem?_eq_some_iff.mp hv).1
          rw [var?, getElem?_modify_of_ne _ hne]
          exact hquiet.kept (hold hv)
        initialised := fun {v node} hv => by
          rw [var?, Array.getElem?_modify] at hv
          split at hv
          · obtain ⟨old, -, rfl⟩ := Option.map_eq_some_iff.mp hv
            exact .inr (by simp)
          · next hne =>
            refine (hquiet.initialised hv).imp_left fun hv => ?_
            rw [var?, Array.getElem?_push, if_neg fun h => hne h.symm] at hv
            exact hv }

/-! ### Statements -/

/-- A condition, given what lowering its body and its `else` leaves. -/
theorem plants_cond {test : Expr} {body : List Stmt} {otherwise : Option Stmt}
    (honto : ∀ b, Plants [.block b] (lowerOnto b body) fun _ => [.block b])
    (helse : Plants [] (lowerElse otherwise) fun o => o.toList.map .stmt) :
    Plants [] (Stmt.cond test body otherwise).lower fun r => [.stmt r] :=
  test.lower_plants.seq fun e =>
    (plants_addBlock.frame [.expr e]).seq fun b =>
    ((honto b).frame [.expr e]).seq fun _ =>
    ((plants_addStmt (.block b) (by simp)).frame [.expr e]).seq fun s =>
    (helse.frame [.expr e, .stmt s]).seq fun o => by
      have hadd := plants_addStmt (.cond e s o) (by simp)
      cases o <;> exact hadd

mutual

theorem Stmt.lower_plants : (s : Stmt) → Plants [] s.lower fun r => [.stmt r]
  | .bind b => b.lower_plants.seq fun v => plants_addStmt (.var v) (by simp)
  | .ret value => value.lower_plants.seq fun e => plants_addStmt (.ret e) (by simp)
  | .cond _ body otherwise =>
    plants_cond (fun b => lowerOnto_plants b body) (lowerElse_plants otherwise)
  | .loop test body =>
    test.lower_plants.seq fun e =>
      (plants_addBlock.frame [.expr e]).seq fun b =>
      ((lowerOnto_plants b body).frame [.expr e]).seq fun _ =>
      plants_addStmt (.loop e b) (by simp)
  | .count var first bound body =>
    first.lower_plants.seq fun e =>
      (bound.lower_plants.frame [.expr e]).seq fun e' =>
      (plants_addBlock.frame [.expr e, .expr e']).seq fun b =>
      ((lowerOnto_plants b body).frame [.expr e, .expr e']).seq fun _ =>
      plants_addStmt (.count var e e' b) (by simp)
  | .block body =>
    plants_addBlock.seq fun b => (lowerOnto_plants b body).seq fun _ =>
      plants_addStmt (.block b) (by simp)
  | .eval value => value.lower_plants.seq fun e => plants_addStmt (.eval e) (by simp)

theorem lowerElse_plants : (otherwise : Option Stmt) →
    Plants [] (lowerElse otherwise) fun o => o.toList.map .stmt
  | none => @Plants.pure _ (fun o => o.toList.map .stmt) none
  | some s => s.lower_plants.map fun _ => rfl

/-- Each statement becomes a tree that the block takes in. -/
theorem lowerOnto_plants (b : BlockRef) : (ss : List Stmt) →
    Plants [.block b] (lowerOnto b ss) fun _ => [.block b]
  | [] => @Plants.pure _ (fun _ => [.block b]) ()
  | s :: ss =>
    (s.lower_plants.frame [.block b]).seq fun r => (plants_push b r).seq fun _ =>
      lowerOnto_plants b ss

end

end Ast

end ToyLang
