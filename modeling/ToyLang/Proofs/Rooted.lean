import ToyLang.Proofs.Lowered
import ToyLang.Proofs.Planting

/-!
# A lowered program is a tree

The root block of a program is filled with one declaration after the other.  Between two of them the
root block is the only root, and what the declarations so far hold is complete.

## Main definitions

* `Filling` — the graph between two declarations.

## Main results

* `filling_item`, `filling_items` — one more declaration, and all of them.
* `toProgram_rooted` — in the program of a file every node is reached from the root along one path,
  functions are declared at the top level, variables have initial values, a function owns its body,
  and the root is the outermost block.
-/

namespace ToyLang.Ast

open ToyLang.Graph

/-- Between two declarations of a file whose root block this is: all nodes hang from the root, which
holds all statements that declare functions; a block is owned by the function that it is the body
of; no block is marked yet; and every variable has its initial value. -/
structure Filling (root : BlockRef) (g : Graph) : Prop where
  forest : g.Forest [.block root]
  declared : ∀ {s f}, g.stmt? s = some (.function f) → .stmt s ∈ g.children (.block root)
  owner_iff : ∀ {b f}, g.owner? b = some f ↔ ∃ node, g.function? f = some node ∧ node.body = b
  unmarked : ∀ b, ¬ g.IsOutermost b
  initialised : ∀ {v node}, g.var? v = some node → node.init ≠ none

variable {root : BlockRef} {g g' : Graph}

/-- What is quiet keeps everything but the trees as it should be. -/
theorem Filling.quiet (h : Filling root g) (hquiet : g.Quiet g')
    (hforest : g'.Forest [.block root]) : Filling root g' where
  forest := hforest
  declared := fun hs => hquiet.held (h.declared (hquiet.declared hs))
  owner_iff := fun {b f} => by
    rw [hquiet.owner b, function?, hquiet.functions]
    exact h.owner_iff
  unmarked := fun b hb => h.unmarked b ((hquiet.outermost b).mp hb)
  initialised := fun hv => (hquiet.initialised hv).elim h.initialised id

/-- A quiet action that leaves a statement, which is then pushed onto the root. -/
theorem Filling.plants {m : Build StmtRef} (h : Filling root g)
    (hm : Plants [] m fun r => [.stmt r]) :
    ∃ g', (m >>= Build.push root) g = ((), g') ∧ Filling root g' := by
  have hpush : Plants [.block root] (m >>= Build.push root) fun _ => [.block root] :=
    (hm.frame [.block root]).seq fun r => plants_push root r
  obtain ⟨_, g', hrun, hforest, hquiet⟩ := hpush g [] h.forest
  exact ⟨g', hrun, h.quiet hquiet hforest⟩

/-- The graph after a function has been added to it, which owns its body. -/
def withFunction (g : Graph) (node : FunctionNode) : Graph :=
  { g with
    functions := g.functions.push node
    blocks := g.blocks.modify node.body.index fun b =>
      { b with owner := some ⟨g.functions.size⟩ } }

/-- Only the body gets another owner. -/
theorem owner?_withFunction (node : FunctionNode) (hbody : g.has (.block node.body))
    (b : BlockRef) :
    (withFunction g node).owner? b
      = if b = node.body then some ⟨g.functions.size⟩ else g.owner? b := by
  have hlt : node.body.index < g.blocks.size := by simpa [Graph.has] using hbody
  by_cases hb : b = node.body
  · subst hb
    simp [owner?, block?, withFunction, Array.getElem?_modify, Array.getElem?_eq_getElem hlt]
  · have hne : b.index ≠ node.body.index := by
      rintro h
      exact hb (by cases b; cases hn : node.body; simp_all)
    rw [if_neg hb, owner?, owner?, block?, block?, withFunction, getElem?_modify_of_ne _ hne]

/-- The functions and the owners of blocks still agree, if nothing held the body before. -/
theorem owner_iff_withFunction (h : ∀ {b f}, g.owner? b = some f ↔
      ∃ node, g.function? f = some node ∧ node.body = b) (node : FunctionNode)
    (hbody : g.has (.block node.body)) (hfree : ∀ k, .block node.body ∉ g.children k)
    {b : BlockRef} {f : FunctionRef} : (withFunction g node).owner? b = some f ↔
      ∃ node', (withFunction g node).function? f = some node' ∧ node'.body = b := by
  have hfunction : (withFunction g node).function? f
      = if f.index = g.functions.size then some node else g.function? f := Array.getElem?_push
  have hold {node' : FunctionNode} (hf : g.function? f = some node') :
      f.index ≠ g.functions.size ∧ node'.body ≠ node.body := by
    refine ⟨Nat.ne_of_lt (Array.getElem?_eq_some_iff.mp hf).1, fun hsame => ?_⟩
    refine hfree (.function f) ?_
    rw [children, hf, ← hsame]
    exact .head _
  rw [owner?_withFunction node hbody, hfunction]
  constructor
  · intro howner
    split at howner
    · next hb =>
      cases howner
      exact ⟨node, if_pos rfl, hb.symm⟩
    · obtain ⟨node', hf, hb⟩ := h.mp howner
      exact ⟨node', by rw [if_neg (hold hf).1, hf], hb⟩
  · rintro ⟨node', hf, rfl⟩
    split at hf
    · next hindex =>
      cases hf
      rw [if_pos rfl, ← hindex]
    · rw [if_neg (hold hf).2]
      exact h.mpr ⟨node', hf, rfl⟩

theorem isOutermost_withFunction (node : FunctionNode) (b : BlockRef) :
    (withFunction g node).IsOutermost b ↔ g.IsOutermost b := by
  rw [IsOutermost, IsOutermost, block?, block?, withFunction, Array.getElem?_modify]
  split
  · cases g.blocks[b.index]? <;> rfl
  · rfl

/-- A function: its body is a tree of its own until the function takes it in; the statement that
declares the function is pushed onto the root at once. -/
theorem filling_function (h : Filling root g) (f : Function) :
    ∃ g', ((Item.function f).lower >>= Build.push root) g = ((), g') ∧ Filling root g' := by
  have hfill : Plants [] (fillBlock f.body) fun b => [.block b] :=
    plants_addBlock.seq fun b => (lowerOnto_plants b f.body).seq fun _ =>
      @Plants.pure _ (fun b => [.block b]) b
  obtain ⟨b, g₁, hrun, hforest₁, hquiet⟩ := hfill g [.block root] h.forest
  let node : FunctionNode := ⟨Cpp.mangle f.name, f.params, f.result, b⟩
  let g₂ := withFunction g₁ node
  have hadds₂ : g₁.Adds g₂ (.function ⟨g₁.functions.size⟩) [.block b] :=
    adds_pushFunction g₁ node _ fun _ => rfl
  have hforest₂ : g₂.Forest [.function ⟨g₁.functions.size⟩, .block root] := hforest₁.adds hadds₂
  let g₃ : Graph := { g₂ with stmts := g₂.stmts.push (.function ⟨g₁.functions.size⟩) }
  have hadds₃ : g₂.Adds g₃ (.stmt ⟨g₂.stmts.size⟩) [.function ⟨g₁.functions.size⟩] :=
    adds_pushStmt g₂ _
  have hforest₃ : g₃.Forest [.stmt ⟨g₂.stmts.size⟩, .block root] := hforest₂.adds hadds₃
  have hroot : g₃.has (.block root) := hforest₃.has_root _ (.tail _ (.head _))
  let g₄ : Graph := { g₃ with
    blocks := g₃.blocks.modify root.index fun node =>
      { node with stmts := node.stmts ++ [⟨g₂.stmts.size⟩] } }
  have hrefills : g₃.Refills g₄ (.block root) _ := refills_push g₃ hroot ⟨g₂.stmts.size⟩
  have hpush : g₃.Quiet g₄ := quiet_push g₃ hroot ⟨g₂.stmts.size⟩
  refine ⟨g₄, ?_, ?_⟩
  · have hlower : (Item.function f).lower >>= Build.push root
        = fillBlock f.body >>= fun b => Build.addFunction f.name f.params f.result b >>= fun r =>
          Build.addStmt (.function r) >>= Build.push root := by
      simp [Item.lower, Function.lower, fillBlock]
    rw [hlower, Build.bind_eq hrun,
      Build.bind_eq (Build.addFunction_eq g₁ f.name f.params f.result b),
      Build.bind_eq (Build.addStmt_eq _ _)]
    rfl
  · have hbody : g₁.has (.block b) := hforest₁.has_root _ (.head _)
    have howners : ∀ {b f}, g₁.owner? b = some f ↔
        ∃ node, g₁.function? f = some node ∧ node.body = b := by
      intro b f
      rw [hquiet.owner b, function?, hquiet.functions]
      exact h.owner_iff
    exact
      { forest := hforest₃.refills (.head _) hrefills
        declared := fun {s f} hs => by
          have hs : g₃.stmt? s = some (.function f) := hpush.declared hs
          rw [stmt?, Array.getElem?_push] at hs
          split at hs
          · next hnew =>
            obtain rfl : s = ⟨g₂.stmts.size⟩ := by cases s; simp_all
            rw [hrefills.own]
            exact List.mem_append_right _ (.head _)
          · exact hrefills.held (hadds₃.held (hadds₂.held
              (hquiet.held (h.declared (hquiet.declared hs)))))
        owner_iff := fun {b' f'} => by
          rw [hpush.owner b']
          exact owner_iff_withFunction howners node hbody
            (hforest₁.root_free _ (.head _))
        unmarked := fun b' hb' => by
          rw [hpush.outermost b'] at hb'
          have hb' := (isOutermost_withFunction node b').mp hb'
          exact h.unmarked b' ((hquiet.outermost b').mp hb')
        initialised := fun hv => (hquiet.initialised hv).elim h.initialised id }

/-- One more declaration. -/
theorem filling_item (h : Filling root g) (i : Item) :
    ∃ g', (i.lower >>= Build.push root) g = ((), g') ∧ Filling root g' := by
  cases i with
  | function f => exact filling_function h f
  | bind b => exact h.plants (b.lower_plants.seq fun v => plants_addStmt (.var v) (by simp))

/-- All declarations of a file. -/
theorem filling_items (h : Filling root g) (is : List Item) :
    ∃ g', lowerItemsOnto root is g = ((), g') ∧ Filling root g' := by
  induction is generalizing g with
  | nil => exact ⟨g, rfl, h⟩
  | cons i is ih =>
    obtain ⟨g₁, hrun, h₁⟩ := filling_item h i
    obtain ⟨g₂, hrest, h₂⟩ := ih h₁
    refine ⟨g₂, ?_, h₂⟩
    have hlower : lowerItemsOnto root (i :: is)
        = (i.lower >>= Build.push root) >>= fun _ => lowerItemsOnto root is := by
      simp [lowerItemsOnto]
    rw [hlower, Build.bind_eq hrun, hrest]

/-- The root block alone. -/
theorem filling_root :
    Filling ⟨0⟩ { Graph.empty with
      blocks := Graph.empty.blocks.push { id := ⟨Graph.empty.blocks.size⟩ } } := by
  have hquiet := quiet_pushBlock Graph.empty
  have hnone : Graph.empty.Forest ([] ++ []) := forest_empty
  exact
    { forest := hnone.adds (adds_pushBlock Graph.empty)
      declared := fun hs => by
        have hs := hquiet.declared hs
        cases hs
      owner_iff := fun {b f} => by
        rw [hquiet.owner b, function?, hquiet.functions]
        constructor
        · rintro ⟨⟩
        · rintro ⟨node, ⟨⟩, -⟩
      unmarked := fun b hb => by
        have hb := (hquiet.outermost b).mp hb
        cases hb
      initialised := fun hv => by
        have hv : Graph.empty.var? _ = some _ := hv
        cases hv }

/-- The program of a file is lowered into a graph in which all declarations are complete, and its
root is then marked. -/
theorem exists_filling (items : List Item) :
    ∃ g, Filling ⟨0⟩ g ∧ toProgram items = Program.new g ⟨0⟩ := by
  obtain ⟨g, hrun, hfilling⟩ := filling_items filling_root items
  refine ⟨g, hfilling, ?_⟩
  have hfile : lowerFile items Graph.empty = (⟨0⟩, g) := by
    rw [lowerFile]
    exact (Build.bind_eq (Build.addBlock_eq Graph.empty)).trans (Build.bind_eq hrun)
  simp [toProgram, StateT.run, hfile]

/-! ### The mark of the root -/

theorem owner?_markOutermost (b b' : BlockRef) : (g.markOutermost b).owner? b' = g.owner? b' := by
  rw [owner?, owner?, block?, block?, markOutermost, Array.getElem?_modify]
  split
  · cases g.blocks[b'.index]? <;> rfl
  · rfl

/-- The mark is put on the root and taken from no other block. -/
theorem isOutermost_markOutermost (hroot : g.has (.block root)) (b : BlockRef) :
    (g.markOutermost root).IsOutermost b ↔ b = root ∨ g.IsOutermost b := by
  have hlt : root.index < g.blocks.size := by simpa [Graph.has] using hroot
  by_cases hb : b = root
  · subst hb
    simp [IsOutermost, block?, markOutermost, Array.getElem?_modify, Array.getElem?_eq_getElem hlt]
  · have hne : b.index ≠ root.index := by
      rintro h
      exact hb (by cases b; cases root; simp_all)
    rw [IsOutermost, IsOutermost, block?, block?, markOutermost, getElem?_modify_of_ne _ hne]
    exact (or_iff_right hb).symm

/-- Where nothing was marked before, the root alone is marked. -/
theorem Filling.isOutermost_iff (h : Filling root g) (b : BlockRef) :
    (g.markOutermost root).IsOutermost b ↔ b = root := by
  rw [isOutermost_markOutermost (h.forest.has_root _ (.head _))]
  exact or_iff_left (h.unmarked b)

/-- A statement that declares a function lies on the path of length one that leads to it from the
root, and there is no other path to it. -/
theorem Filling.exists_singleton (h : Filling root g) {path : List Nat} {s : StmtRef}
    {f : FunctionRef} (hpath : g.follow (.block root) path = some (.stmt s))
    (hs : g.stmt? s = some (.function f)) : ∃ i, path = [i] := by
  obtain ⟨i, hi⟩ := List.mem_iff_getElem?.mp (h.declared hs)
  have hshort : g.follow (.block root) [i] = some (.stmt s) := follow_singleton.mpr hi
  exact ⟨i, (h.forest.path_unique (.head _) (.head _) hpath hshort).2⟩

/-- **The graph of a file is a tree below its root block.**  Every node is reached along exactly one
path; functions are declared directly in the root block; every variable has its initial value; a
block is owned by a function if and only if it is its body; and the root, no other block, is marked
as outermost. -/
theorem toProgram_rooted (items : List Item) :
    let p := toProgram items
    (∀ h, p.graph.has h → ∃! path, p.at? path = some h) ∧
    (∀ path s f, p.at? path = some (.stmt s) → p.graph.stmt? s = some (.function f) →
      ∃ i, path = [i]) ∧
    (∀ v node, p.graph.var? v = some node → node.init ≠ none) ∧
    (∀ b f, p.graph.owner? b = some f ↔ ∃ node, p.graph.function? f = some node ∧ node.body = b) ∧
    ∀ b, p.graph.IsOutermost b ↔ b = p.root := by
  obtain ⟨g, hg, hp⟩ := exists_filling items
  rw [hp]
  have hat (path : List Nat) : (Program.new g ⟨0⟩).at? path = g.follow (.block ⟨0⟩) path :=
    congrFun (congrFun follow_markOutermost _) path
  refine ⟨fun h hh => ?_, fun path s f hpath hs => ?_, fun v node hv => hg.initialised hv,
    fun b f => ?_, hg.isOutermost_iff⟩
  · have hh : g.has h := by rwa [← has_markOutermost ⟨0⟩]
    obtain ⟨r, hr, path, hpath⟩ := hg.forest.reached hh
    obtain rfl := List.mem_singleton.mp hr
    refine ⟨path, (hat path).trans hpath, fun path' hpath' => ?_⟩
    exact (hg.forest.path_unique hr hr ((hat path').symm.trans hpath') hpath).2
  · exact hg.exists_singleton ((hat path).symm.trans hpath) hs
  · change (g.markOutermost ⟨0⟩).owner? b = some f ↔ _
    rw [owner?_markOutermost]
    exact hg.owner_iff

end ToyLang.Ast
