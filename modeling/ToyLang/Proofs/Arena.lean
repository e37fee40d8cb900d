import ToyLang.Proofs.Ordered
import ToyLang.Proofs.Rooted

/-!
# The graph as an arena

A client that builds a graph step by step holds numbers of nodes, and so do the nodes.  Whatever the
steps are, every number held belongs to a node; the numbers that an expression holds, and those of
the parts of a statement, belong to earlier nodes, which is why a graph can be walked at all; a
block knows its own number and the last function that was declared with it as its body; and no
function, nor any call, has the name that the generated entry point needs.

A step leaves every node as it was, but for the three kinds of step that exist to change one.

No step marks a block as the outermost one; only the choice of a root does, and it marks the root
alone.

## Main definitions

* `Graph.Owned` — the owner of a block is the last function that has it as its body.
* `Graph.Arena` — the whole invariant.
* `Program.Built` — what is known of a program whose graph is built step by step.

## Main results

* `Graph.Arena.run`, `Graph.arena_runAll` — a step keeps the invariant, and so do any steps.
* `Graph.arena_and_effect` — the graph after any steps has it, and what the next step does to each
  old node.
* `Program.built_runAll` — a program that is built from nothing is known to be `Built`.
-/

namespace ToyLang

namespace Graph

/-- The owner of a block is the last function with that body, and a block has one if there is such
a function. -/
structure Owned (g : Graph) : Prop where
  body_eq : ∀ {b f}, g.owner? b = some f → ∃ node, g.function? f = some node ∧ node.body = b
  last : ∀ {b f f' node}, g.owner? b = some f → g.function? f' = some node → node.body = b →
    f'.index ≤ f.index
  exists_owner : ∀ {f node}, g.function? f = some node → ∃ f', g.owner? node.body = some f'

/-- What holds of a graph that is built step by step. -/
structure Arena (g : Graph) : Prop where
  ordered : g.Ordered
  numbered : g.Numbered
  owned : g.Owned
  named : ∀ {f node}, g.function? f = some node → node.name ≠ Cpp.entryPoint
  called : ∀ {e callee args}, g.expr? e = some (.call callee args) → callee ≠ Cpp.entryPoint

/-! ### Owners -/

theorem owned_empty : Graph.empty.Owned where
  body_eq := fun hb => by simp [owner?, block?, Graph.empty] at hb
  last := fun hb => by simp [owner?, block?, Graph.empty] at hb
  exists_owner := fun hf => by simp [function?, Graph.empty] at hf

namespace Owned

variable {g g' : Graph}

/-- Owners and functions are all that counts. -/
theorem congr (hg : g.Owned) (howner : ∀ b, g'.owner? b = g.owner? b)
    (hfunction : ∀ f, g'.function? f = g.function? f) : g'.Owned where
  body_eq := fun {b f} hb => by
    rw [howner] at hb
    rw [hfunction]
    exact hg.body_eq hb
  last := fun {b f f' node} hb hf hbody => by
    rw [howner] at hb
    rw [hfunction] at hf
    exact hg.last hb hf hbody
  exists_owner := fun {f node} hf => by
    rw [hfunction] at hf
    rw [howner]
    exact hg.exists_owner hf

/-- One more function becomes the owner of its body, and it comes after all others. -/
theorem declare (hg : g.Owned) {node : FunctionNode}
    (howner : ∀ b, g'.owner? b = if b = node.body then some ⟨g.functions.size⟩ else g.owner? b)
    (hfunction : ∀ f, g'.function? f
      = if f.index = g.functions.size then some node else g.function? f) : g'.Owned where
  body_eq := fun {b f} hb => by
    rw [howner] at hb
    rw [hfunction]
    split at hb
    · next hnew =>
      cases hb
      exact ⟨node, if_pos rfl, hnew.symm⟩
    · obtain ⟨old, hold, hbody⟩ := hg.body_eq hb
      have hlt := (Array.getElem?_eq_some_iff.mp hold).1
      exact ⟨old, (if_neg (by omega)).trans hold, hbody⟩
  last := fun {b f f' node'} hb hf hbody => by
    rw [howner] at hb
    rw [hfunction] at hf
    split at hb
    · cases hb
      split at hf
      · next hnew => exact Nat.le_of_eq hnew
      · have hlt := (Array.getElem?_eq_some_iff.mp hf).1
        exact Nat.le_of_lt hlt
    · next hother =>
      split at hf
      · cases hf
        exact absurd hbody.symm hother
      · exact hg.last hb hf hbody
  exists_owner := fun {f node'} hf => by
    rw [howner]
    split
    · exact ⟨_, rfl⟩
    · next hother =>
      rw [hfunction] at hf
      split at hf
      · cases hf
        exact absurd rfl hother
      · exact hg.exists_owner hf

end Owned

end Graph

open ToyLang.Graph

/-- Only the declaration of a function changes who owns a block. -/
theorem Step.Effect.owner?_eq {s : Step} {g g' : Graph} (heffect : s.Effect g g')
    (hs : s.function? = none) (b : BlockRef) : g'.owner? b = g.owner? b := by
  rw [owner?, owner?, heffect.block?]
  split
  · next hnew =>
    have hnone : g.block? b = none := by simp [Graph.block?, hnew]
    rw [hnone]
    cases s <;> rfl
  · cases g.block? b with
    | none => rfl
    | some node => exact Step.refilled_owner hs b node

theorem Graph.Owned.run {g g' : Graph} (hg : g.Owned) {s : Step} {h : Handle}
    (hrun : s.run g = some (h, g')) : g'.Owned := by
  have heffect := Step.effect_of_run hrun
  cases hs : s.function? with
  | none =>
    refine hg.congr (heffect.owner?_eq hs) fun f => ?_
    rw [heffect.function?, hs]
    exact (getElem?_eq_ite g.functions f.index).symm
  | some node =>
    have hfunction : ∀ f, g'.function? f
        = if f.index = g.functions.size then some node else g.function? f := fun f => by
      rw [heffect.function?, hs]
    refine hg.declare (fun b => ?_) hfunction
    obtain ⟨hrefs, hbuild⟩ := Step.run_eq_some_iff.mp hrun
    cases s with
    | function name params result body =>
      cases hs
      cases hbuild
      exact Ast.owner?_withFunction ⟨Cpp.mangle name, params, result, body⟩
        (hrefs _ (.head _)) b
    | _ => cases hs

/-! ### The invariant -/

namespace Graph.Arena

theorem empty : Graph.empty.Arena where
  ordered := ordered_empty
  numbered := numbered_empty
  owned := owned_empty
  named := fun hf => by simp [function?, Graph.empty] at hf
  called := fun he => by simp [expr?, Graph.empty] at he

variable {g g' : Graph} {s : Step} {h : Handle}

/-- **A step keeps the invariant.** -/
theorem run (hg : g.Arena) (hrun : s.run g = some (h, g')) : g'.Arena where
  ordered := hg.ordered.run hrun
  numbered := hg.numbered.run hrun
  owned := hg.owned.run hrun
  named := fun {f node} hf => by
    rw [(Step.effect_of_run hrun).function?] at hf
    split at hf
    · cases s with
      | function name params result body =>
        cases hf
        exact Cpp.mangle_ne_entryPoint name
      | _ => cases hf
    · exact hg.named hf
  called := fun {e callee args} he => by
    rw [(Step.effect_of_run hrun).expr?] at he
    split at he
    · cases s with
      | call callee args =>
        cases he
        exact Cpp.mangle_ne_entryPoint callee
      | _ => cases he
    · exact hg.called he

end Graph.Arena

theorem Graph.arena_runAll (steps : List Step) : (Step.runAll steps Graph.empty).Arena :=
  Step.runAll_induction steps (fun hrun h => h.run hrun) Arena.empty

/-- **The graph is an arena, whatever steps built it**, and the next step, if all that it refers to
is there, has its effect and no other: it adds its node, appends to a block, sets an initial value
or an owner, and leaves the rest as it was. -/
theorem Graph.arena_and_effect (steps : List Step) :
    (Step.runAll steps Graph.empty).Arena ∧
      ∀ (s : Step) (h : Handle) (g' : Graph),
        s.run (Step.runAll steps Graph.empty) = some (h, g') →
          s.Effect (Step.runAll steps Graph.empty) g' :=
  ⟨arena_runAll steps, fun _ _ _ hrun => Step.effect_of_run hrun⟩

/-- A block that the entry point owns, and a statement that nothing holds yet. -/
def ownedBlock : List Step :=
  [.block, .int 1, .stmt (.eval ⟨0⟩), .function "main" [] "int" ⟨0⟩]

/-- The statement is appended to the block, which keeps its number and its owner. -/
theorem Graph.arena_and_effect_ownedBlock :
    ∃ g', (Step.push ⟨0⟩ ⟨0⟩).run (Step.runAll ownedBlock Graph.empty) = some (.block ⟨0⟩, g') ∧
      g'.block? ⟨0⟩ = some ⟨⟨0⟩, [⟨0⟩], some ⟨0⟩, false⟩ := by
  refine ⟨_, rfl, ?_⟩
  have heffect := (arena_and_effect ownedBlock).2 (.push ⟨0⟩ ⟨0⟩) (.block ⟨0⟩) _ rfl
  rw [heffect.block?]
  rfl

/-! ### Programs -/

open ToyLang.Graph

namespace Graph

/-- No block is marked. -/
def Unmarked (g : Graph) : Prop := ∀ b, ¬ g.IsOutermost b

theorem unmarked_empty : Graph.empty.Unmarked := fun b hb => by
  simp [IsOutermost, block?, Graph.empty] at hb

/-- A new block is not marked, and an old one does not get the mark. -/
theorem Unmarked.run {g g' : Graph} (hg : g.Unmarked) {s : Step} {h : Handle}
    (hrun : s.run g = some (h, g')) : g'.Unmarked := by
  intro b hb
  rw [IsOutermost, (Step.effect_of_run hrun).block?] at hb
  split at hb
  · cases s <;> cases hb
  · refine hg b ?_
    rw [IsOutermost]
    cases hblock : g.block? b with
    | none =>
      rw [hblock] at hb
      cases hb
    | some node =>
      rw [hblock] at hb
      simpa using hb

theorem unmarked_runAll (steps : List Step) : (Step.runAll steps Graph.empty).Unmarked :=
  Step.runAll_induction steps (fun hrun h => h.run hrun) unmarked_empty

end Graph

namespace Program

/-- What is known of a program whose graph is built step by step. -/
structure Built (p : Program) : Prop where
  ordered : p.graph.Ordered
  has_root : p.graph.has (.block p.root)
  outermost_iff : ∀ b, p.graph.IsOutermost b ↔ b = p.root
  owned : ∀ {b f}, p.graph.owner? b = some f → p.graph.has (.function f)
  named : ∀ {f node}, p.graph.function? f = some node → node.name ≠ Cpp.entryPoint
  numbered : p.graph.Numbered

theorem built_runAll (steps : List Step) {root : BlockRef}
    (hroot : (Step.runAll steps Graph.empty).has (.block root)) :
    (Program.new (Step.runAll steps Graph.empty) root).Built := by
  have harena := arena_runAll steps
  exact
    { ordered := harena.ordered.markOutermost root
      has_root := by
        change (markOutermost _ root).has (.block root)
        rwa [has_markOutermost]
      outermost_iff := fun b => by
        refine (Ast.isOutermost_markOutermost hroot b).trans ?_
        exact or_iff_left (unmarked_runAll steps b)
      owned := fun {b f} hb => by
        change (markOutermost _ root).has (.function f)
        rw [has_markOutermost]
        obtain ⟨node, hnode, -⟩ :=
          harena.owned.body_eq ((Ast.owner?_markOutermost root b).symm.trans hb)
        simpa [has] using (Array.getElem?_eq_some_iff.mp hnode).1
      named := harena.named
      numbered := harena.numbered.markOutermost root }

end Program

end ToyLang
