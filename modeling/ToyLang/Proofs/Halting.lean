import Mathlib.Logic.Function.Iterate
import ToyLang.Proofs.Rendering

/-!
# The check comes to an end

A block can be made to hold itself, directly, through statements or through the body of a function
that it declares, so neither the numbers of the nodes nor the depth of nesting tells how long a
check may take.  The check can be carried out one node at a time, with nothing that bounds it but
the blocks that it has met.  This comes to an end on every program, with the answer of the check,
and a program with a cycle is refused.

## Main definitions

* `Progress`, `Graph.advance` — a walk under way, and its next step.
* `verdict` — what the check says when the walk has come to an end.
* `Graph.height` — what decreases from a node to the nodes that it holds, blocks apart.

## Main results

* `Walks.exists_advance` — a walk is carried out in finitely many steps.
* `Graph.Ordered.exists_block_on_path` — a path that leads back to its start passes a block.
* `check_halts` — the check comes to an end, and no program with a cycle is accepted.
-/

namespace ToyLang

open ToyLang.Graph Program

/-! ### One node at a time -/

instance (v : Visited) : (c : Claim) → Decidable (c.Taken v)
  | .block b => inferInstanceAs (Decidable (b ∈ v.blocks))
  | .name n => inferInstanceAs (Decidable (n ∈ v.functions))

/-- A walk under way, with the nodes that are left, each at its level, and with what has been met;
or the end of a walk. -/
inductive Progress where
  | going (left : List (Nat × Handle)) (met : Visited)
  | over (result : Except Error Visited)

namespace Graph

/-- Why a walk stops at a node: something is wrong there, or the node claims what has been met. -/
def refusal? (g : Graph) (level : Nat) (h : Handle) (v : Visited) : Option Error :=
  (g.fault? level h).or (((g.claim? h).filter fun c => c.Taken v).map Claim.error)

/-- The nodes that a node holds, at the level below it. -/
def below (g : Graph) (level : Nat) (h : Handle) : List (Nat × Handle) :=
  (g.children h).map (level + 1, ·)

/-- One step of a walk.  It passes the next node, and then the nodes that this one holds are the
next ones. -/
def advance (g : Graph) : Progress → Progress
  | .over r => .over r
  | .going [] v => .over (.ok v)
  | .going ((level, h) :: left) v =>
      match g.refusal? level h v with
      | some e => .over (.error e)
      | none => .going (g.below level h ++ left) (v.take (g.claim? h))

variable {g : Graph} {level : Nat} {h : Handle} {v : Visited}

theorem refusal?_of_fault {e : Error} (hfault : g.fault? level h = some e) :
    g.refusal? level h v = some e := by
  rw [refusal?, hfault, Option.some_or]

theorem refusal?_of_taken {c : Claim} (hfault : g.fault? level h = none)
    (hclaim : g.claim? h = some c) (htaken : c.Taken v) :
    g.refusal? level h v = some c.error := by
  simp [refusal?, hfault, hclaim, htaken]

theorem refusal?_eq_none (hfault : g.fault? level h = none)
    (hfree : ∀ c, g.claim? h = some c → ¬ c.Taken v) : g.refusal? level h v = none := by
  cases hclaim : g.claim? h with
  | none => simp [refusal?, hfault, hclaim]
  | some c => simp [refusal?, hfault, hclaim, hfree c hclaim]

theorem advance_of_refusal {left : List (Nat × Handle)} {e : Error}
    (hrefusal : g.refusal? level h v = some e) :
    g.advance (.going ((level, h) :: left) v) = .over (.error e) := by
  rw [advance, hrefusal]

theorem advance_of_fine {left : List (Nat × Handle)} (hfine : g.refusal? level h v = none) :
    g.advance (.going ((level, h) :: left) v)
      = .going (g.below level h ++ left) (v.take (g.claim? h)) := by
  rw [advance, hfine]

end Graph

/-- Where a walk over some nodes has come to when these are done and others are left. -/
def Progress.resume (left : List (Nat × Handle)) : Except Error Visited → Progress
  | .error e => .over (.error e)
  | .ok v => .going left v

/-- A walk is carried out in finitely many steps, whatever else is left behind it.  The induction is
on the walk, and what a node holds is walked before the nodes beside it. -/
theorem Walks.exists_advance {g : Graph} {level : Nat} {hs : List Handle} {v : Visited}
    {r : Except Error Visited} (hwalk : Walks g level hs v r) (left : List (Nat × Handle)) :
    ∃ n, g.advance^[n] (.going (hs.map (level, ·) ++ left) v) = Progress.resume left r := by
  induction hwalk generalizing left with
  | done => exact ⟨0, rfl⟩
  | fault hfault => exact ⟨1, advance_of_refusal (refusal?_of_fault hfault)⟩
  | taken hfault hclaim htaken =>
    exact ⟨1, advance_of_refusal (refusal?_of_taken hfault hclaim htaken)⟩
  | @inside level h hs v e hfault hfree hbelow ih =>
    obtain ⟨n, hn⟩ := ih (hs.map (level, ·) ++ left)
    refine ⟨n + 1, ?_⟩
    rw [List.map_cons, List.cons_append, Function.iterate_succ_apply,
      advance_of_fine (refusal?_eq_none hfault hfree)]
    exact hn
  | @next level h hs v v' r hfault hfree hbelow hrest ihbelow ihrest =>
    obtain ⟨n, hn⟩ := ihbelow (hs.map (level, ·) ++ left)
    obtain ⟨m, hm⟩ := ihrest left
    refine ⟨m + (n + 1), ?_⟩
    rw [List.map_cons, List.cons_append, Function.iterate_add_apply, Function.iterate_succ_apply,
      advance_of_fine (refusal?_eq_none hfault hfree), Graph.below, hn]
    exact hm

/-! ### The verdict -/

/-- How many functions and blocks an accepted program has. -/
def Checked.counts (c : Checked) : Nat × Nat := (c.functions, c.blocks)

/-- What the check says when the walk has come to an end: what the walk has stopped at, or whether
the entry point has been met. -/
def verdict : Except Error Visited → Except Error (Nat × Nat)
  | .error e => .error e
  | .ok v =>
      if "main__func__" ∈ v.functions then .ok (v.functions.length, v.blocks.length)
      else .error (.missingEntryPoint "main")

/-- The check of a program is a walk from its root, and the verdict on the end of this walk. -/
theorem Graph.Ordered.exists_walk {p : Program} (hg : p.graph.Ordered)
    (hroot : p.graph.has (.block p.root)) :
    ∃ r, Walks p.graph 0 [.block p.root] {} r ∧ p.check.map Checked.counts = verdict r := by
  rcases check_walks hg hroot with ⟨e, hwalk, hcheck⟩ | ⟨v, hwalk, hmain⟩
  · exact ⟨_, hwalk, by rw [hcheck]; rfl⟩
  · refine ⟨_, hwalk, ?_⟩
    rcases hmain with ⟨hmain, file, hcheck⟩ | ⟨hmain, hcheck⟩
    · rw [hcheck, verdict, if_pos hmain]
      rfl
    · rw [hcheck, verdict, if_neg hmain]
      rfl

/-! ### Cycles -/

namespace Graph

/-- What decreases from a node to the nodes that it holds, as long as none of them is a block. -/
def height (g : Graph) : Handle → Nat
  | .expr e => e.index
  | .var _ => g.exprs.size
  | .stmt s => g.exprs.size + 1 + s.index
  | .function _ | .block _ => 0

/-- Whether a node is a block. -/
def IsBlock (h : Handle) : Prop := ∃ b, h = .block b

variable {g : Graph} {h k : Handle}

/-- Only a block holds nodes that need not be lower than itself. -/
theorem Ordered.height_lt (hg : g.Ordered) (hk : k ∈ g.children h) (hh : ¬ IsBlock h)
    (hkb : ¬ IsBlock k) : g.height k < g.height h := by
  have hhas : g.has k := hg.has_of_mem hk
  cases h with
  | expr e =>
    have hkind := hk
    rw [children] at hkind
    cases hnode : g.expr? e with
    | none =>
      rw [hnode] at hkind
      cases hkind
    | some node =>
      rw [hnode] at hkind
      obtain ⟨e', -, rfl⟩ := List.mem_map.mp hkind
      exact hg.expr_lt hk
  | var v =>
    rw [children_var] at hk
    obtain ⟨e, -, rfl⟩ := List.mem_map.mp hk
    simpa [has, height] using hhas
  | function f =>
    rw [children] at hk
    cases hnode : g.function? f with
    | none =>
      rw [hnode] at hk
      cases hk
    | some node =>
      rw [hnode] at hk
      exact absurd ⟨_, List.mem_singleton.mp hk⟩ hkb
  | block b => exact absurd ⟨b, rfl⟩ hh
  | stmt s =>
    cases k with
    | expr e =>
      have hlt : e.index < g.exprs.size := by simpa [has] using hhas
      simp only [height]
      omega
    | stmt s' =>
      have hlt := hg.stmt_lt hk
      simp only [height]
      omega
    | block b => exact absurd ⟨b, rfl⟩ hkb
    | var v =>
      simp only [height]
      omega
    | function f =>
      simp only [height]
      omega

/-- A path passes a block, or it leads to a node that is lower than the one it starts at. -/
theorem Ordered.block_or_height_lt (hg : g.Ordered) {path : List Nat}
    (hpath : g.follow h path = some k) (hne : path ≠ []) :
    (∃ before behind b, path = before ++ behind ∧ g.follow h before = some (.block b) ∧
        g.follow (.block b) behind = some k) ∨
      g.height k < g.height h := by
  induction path generalizing h with
  | nil => exact absurd rfl hne
  | cons i path ih =>
    obtain ⟨m, hm, hrest⟩ := follow_cons.mp hpath
    by_cases hh : IsBlock h
    · obtain ⟨b, rfl⟩ := hh
      exact .inl ⟨[], i :: path, b, rfl, rfl, hpath⟩
    by_cases hmb : IsBlock m
    · obtain ⟨b, rfl⟩ := hmb
      exact .inl ⟨[i], path, b, rfl, follow_singleton.mpr hm, hrest⟩
    have hlt : g.height m < g.height h := hg.height_lt (List.mem_of_getElem? hm) hh hmb
    rcases path with _ | ⟨j, path⟩
    · cases hrest
      exact .inr hlt
    rcases ih hrest (by simp) with ⟨before, behind, b, hsplit, hbefore, hbehind⟩ | hlower
    · refine .inl ⟨i :: before, behind, b, ?_, follow_cons.mpr ⟨m, hm, hbefore⟩, hbehind⟩
      rw [hsplit, List.cons_append]
    · exact .inr (Nat.lt_trans hlower hlt)

/-- A path that leads back to its start passes a block. -/
theorem Ordered.exists_block_on_path (hg : g.Ordered) {path : List Nat}
    (hpath : g.follow h path = some h) (hne : path ≠ []) :
    ∃ before behind b, path = before ++ behind ∧ g.follow h before = some (.block b) ∧
      g.follow (.block b) behind = some h :=
  (hg.block_or_height_lt hpath hne).resolve_right (Nat.lt_irrefl _)

end Graph

/-- No node of a sound program lies on a cycle: the block on it would be reached along the way to it
and along the same way with one more round. -/
theorem Program.Sound.not_cyclic {p : Program} (hp : p.Sound) (hg : p.graph.Ordered) {h : Handle}
    {path round : List Nat} (hpath : p.at? path = some h)
    (hround : p.graph.follow h round = some h) : round = [] := by
  by_contra hne
  obtain ⟨before, behind, b, rfl, hbefore, hbehind⟩ := hg.exists_block_on_path hround hne
  have honce : p.at? (path ++ before) = some (.block b) :=
    follow_append.mpr ⟨h, hpath, hbefore⟩
  have htwice : p.at? (path ++ before ++ (behind ++ before)) = some (.block b) :=
    follow_append.mpr ⟨_, honce, follow_append.mpr ⟨h, hbehind, hbefore⟩⟩
  have hsame := hp.onePath htwice honce
  have hlength : (behind ++ before).length = 0 := by
    have hall := congrArg List.length hsame
    rw [List.length_append] at hall
    omega
  obtain ⟨rfl, rfl⟩ := List.append_eq_nil_iff.mp (List.eq_nil_of_length_eq_zero hlength)
  exact hne rfl

/-- **The check comes to an end.**  Whatever steps build a graph, and whichever of its blocks is the
root, walking the nodes one by one comes to an end, and what the check says is the verdict on this
end.  If a node that is reached lies on a cycle, the check says that something is wrong. -/
theorem check_halts (steps : List Step) (root : BlockRef)
    (hroot : (Step.runAll steps Graph.empty).has (.block root)) :
    let p := Program.new (Step.runAll steps Graph.empty) root
    (∃ n r, p.graph.advance^[n] (.going [(0, .block p.root)] {}) = .over r ∧
      p.check.map Checked.counts = verdict r) ∧
    ∀ path round h, p.at? path = some h → round ≠ [] → p.graph.follow h round = some h →
      ∃ e, p.check = .error e := by
  intro p
  have hp : p.Built := built_runAll steps hroot
  refine ⟨?_, fun path round h hpath hne hround => ?_⟩
  · obtain ⟨r, hwalk, hverdict⟩ := hp.ordered.exists_walk hp.has_root
    obtain ⟨n, hn⟩ := hwalk.exists_advance []
    have hstart : [Handle.block p.root].map (0, ·) ++ [] = [(0, .block p.root)] := rfl
    rw [hstart] at hn
    cases r with
    | error e => exact ⟨n, _, hn, hverdict⟩
    | ok v =>
      refine ⟨n + 1, .ok v, ?_, hverdict⟩
      rw [Function.iterate_succ_apply', hn]
      rfl
  · cases hcheck : p.check with
    | error e => exact ⟨e, rfl⟩
    | ok c =>
      exact absurd ((hp.valid_of_check hcheck).not_cyclic hp.ordered hpath hround) hne

/-- A block that declares a function whose body it is itself. -/
def ownBody : List Step :=
  [.block, .function "main" [] "int" ⟨0⟩, .stmt (.function ⟨0⟩), .push ⟨0⟩ ⟨0⟩]

theorem check_halts_ownBody :
    let p := Program.new (Step.runAll ownBody Graph.empty) ⟨0⟩
    (Step.runAll ownBody Graph.empty).has (.block ⟨0⟩) ∧
      (∃ n r, p.graph.advance^[n] (.going [(0, .block p.root)] {}) = .over r ∧
        p.check.map Checked.counts = verdict r) ∧
      p.graph.follow (.block ⟨0⟩) [0, 0, 0] = some (.block ⟨0⟩) ∧ ∃ e, p.check = .error e := by
  intro p
  have hroot : (Step.runAll ownBody Graph.empty).has (.block ⟨0⟩) := by decide
  obtain ⟨hhalts, hcycle⟩ := check_halts ownBody ⟨0⟩ hroot
  exact ⟨hroot, hhalts, rfl, hcycle [] [0, 0, 0] (.block ⟨0⟩) rfl (by simp) rfl⟩

end ToyLang
