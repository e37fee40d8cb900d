import ToyLang.Proofs.Occurrences

/-!
# Walks in the order of writing

The check walks a graph from a node to the nodes that it holds, one after the other, and each of
them before the next.  At every node it asks whether something is wrong there, and whether the node
claims something for itself, a block or the name of a function, that nothing else may claim.  A walk
that comes to its end has met every path once; one that does not has stopped at a path that tells
why.

## Main definitions

* `Graph.fault?`, `Graph.claim?` — what is wrong at a node, and what it claims.
* `Walks` — the walk over some nodes and everything below them.
* `Graph.among` — the node at the end of a path that starts at one of some nodes.

## Main results

* `Walks.unique` — a walk has one end only.
* `Walks.passes` — a walk to its end: no path is faulty, and no two paths claim the same.
* `Walks.stops` — a walk with an error: there is a path that explains it.
-/

namespace ToyLang

/-! ### Claims and faults -/

/-- What only one path may lead to: a block, or a function with this name. -/
inductive Claim where
  | block (b : BlockRef)
  | name (n : String)

namespace Claim

/-- The walk has met what is claimed. -/
def Taken (v : Visited) : Claim → Prop
  | block b => b ∈ v.blocks
  | name n => n ∈ v.functions

/-- The error for something that is claimed once more. -/
def error : Claim → Error
  | block b => .sharedBlock b.index
  | name n => .duplicateFunction n

end Claim

/-- What the walk has met when it has met a claim, if there is one, as well. -/
def Visited.take (v : Visited) : Option Claim → Visited
  | none => v
  | some (.block b) => { v with blocks := b :: v.blocks }
  | some (.name n) => { v with functions := n :: v.functions }

theorem Visited.taken_take {v : Visited} {claim : Option Claim} {c : Claim} :
    c.Taken (v.take claim) ↔ claim = some c ∨ c.Taken v := by
  cases claim with
  | none => simp [take]
  | some d => cases d <;> cases c <;> simp [take, Claim.Taken, eq_comm]

namespace Graph

/-- What is wrong at a node that lies so many levels below the root: at the top level a function has
the name of a builtin function, elsewhere it is not allowed. -/
def fault? (g : Graph) (level : Nat) : Handle → Option Error
  | .expr e =>
      match g.expr? e with
      | some (.float x) => if x.isFinite then none else some (.nonFiniteFloat x.text)
      | _ => none
  | .stmt s =>
      match g.stmt? s with
      | some (.function f) =>
          if level = 1 then
            if Cpp.isBuiltinName (g.function f).name then
              some (.duplicateFunction (g.function f).name)
            else none
          else some (.nestedFunction (g.function f).name)
      | _ => none
  | .var v => if (g.var v).init = none then some (.missingInitializer (g.var v).name) else none
  | .block _ | .function _ => none

/-- What a node claims for itself. -/
def claim? (g : Graph) : Handle → Option Claim
  | .stmt s =>
      match g.stmt? s with
      | some (.function f) => some (.name (g.function f).name)
      | _ => none
  | .block b => some (.block b)
  | .expr _ | .var _ | .function _ => none

/-! ### Paths from several nodes -/

/-- The node at the end of a path whose first position is one among some nodes. -/
def among (g : Graph) (hs : List Handle) : List Nat → Option Handle
  | [] => none
  | i :: path => hs[i]?.bind fun h => g.follow h path

variable {g : Graph} {h k : Handle} {hs : List Handle}

@[simp] theorem among_nil {path : List Nat} : g.among [] path = none := by
  cases path <;> rfl

@[simp] theorem among_zero {path : List Nat} :
    g.among (h :: hs) (0 :: path) = g.follow h path := rfl

@[simp] theorem among_succ {i : Nat} {path : List Nat} :
    g.among (h :: hs) ((i + 1) :: path) = g.among hs (i :: path) := rfl

end Graph

open ToyLang.Graph

/-! ### The walk -/

/-- A walk over some nodes at a level, and over everything below them, from what has been met to
what it ends with. -/
inductive Walks (g : Graph) : Nat → List Handle → Visited → Except Error Visited → Prop
  /-- Nothing is left. -/
  | done {level v} : Walks g level [] v (.ok v)
  /-- Something is wrong at the next node. -/
  | fault {level h hs v e} (hfault : g.fault? level h = some e) :
      Walks g level (h :: hs) v (.error e)
  /-- The next node claims what has been met. -/
  | taken {level h hs v c} (hfault : g.fault? level h = none) (hclaim : g.claim? h = some c)
      (htaken : c.Taken v) :
      Walks g level (h :: hs) v (.error c.error)
  /-- The walk stops below the next node. -/
  | inside {level h hs v e} (hfault : g.fault? level h = none)
      (hfree : ∀ c, g.claim? h = some c → ¬ c.Taken v)
      (hbelow : Walks g (level + 1) (g.children h) (v.take (g.claim? h)) (.error e)) :
      Walks g level (h :: hs) v (.error e)
  /-- The walk passes the next node and goes on. -/
  | next {level h hs v v' r} (hfault : g.fault? level h = none)
      (hfree : ∀ c, g.claim? h = some c → ¬ c.Taken v)
      (hbelow : Walks g (level + 1) (g.children h) (v.take (g.claim? h)) (.ok v'))
      (hrest : Walks g level hs v' r) : Walks g level (h :: hs) v r

namespace Walks

variable {g : Graph} {level : Nat} {hs : List Handle} {v : Visited} {r r' : Except Error Visited}

/-- A walk has one way to go only, and so one end. -/
theorem unique (hwalk : Walks g level hs v r) (hwalk' : Walks g level hs v r') : r = r' := by
  induction hwalk generalizing r' with
  | done =>
    cases hwalk'
    rfl
  | fault hfault =>
    cases hwalk' with
    | fault hfault' => exact congrArg _ (Option.some.inj (hfault.symm.trans hfault'))
    | taken hfine => cases hfault.symm.trans hfine
    | inside hfine => cases hfault.symm.trans hfine
    | next hfine => cases hfault.symm.trans hfine
  | taken hfine hclaim htaken =>
    cases hwalk' with
    | fault hfault => cases hfault.symm.trans hfine
    | taken hfine' hclaim' htaken' =>
      obtain rfl := Option.some.inj (hclaim.symm.trans hclaim')
      rfl
    | inside hfine' hfree => exact absurd htaken (hfree _ hclaim)
    | next hfine' hfree => exact absurd htaken (hfree _ hclaim)
  | inside hfine hfree hbelow ih =>
    cases hwalk' with
    | fault hfault => cases hfault.symm.trans hfine
    | taken hfine' hclaim htaken => exact absurd htaken (hfree _ hclaim)
    | inside hfine' hfree' hbelow' => exact ih hbelow'
    | next hfine' hfree' hbelow' => cases ih hbelow'
  | next hfine hfree hbelow hrest ihbelow ihrest =>
    cases hwalk' with
    | fault hfault => cases hfault.symm.trans hfine
    | taken hfine' hclaim htaken => exact absurd htaken (hfree _ hclaim)
    | inside hfine' hfree' hbelow' => cases ihbelow hbelow'
    | next hfine' hfree' hbelow' hrest' =>
      cases ihbelow hbelow'
      exact ihrest hrest'

end Walks

/-! ### What a walk to its end says -/

/-- Some nodes at a level, with everything below them, are as they should be: nothing is wrong
there, nothing that is claimed has been met, nothing is claimed twice, and what has been met in the
end is what had been met and what is claimed. -/
structure Passes (g : Graph) (level : Nat) (hs : List Handle) (v v' : Visited) : Prop where
  fine : ∀ {i path h}, g.among hs (i :: path) = some h → g.fault? (level + path.length) h = none
  fresh : ∀ {path h c}, g.among hs path = some h → g.claim? h = some c → ¬ c.Taken v
  once : ∀ {path path' h h' c}, g.among hs path = some h → g.among hs path' = some h' →
    g.claim? h = some c → g.claim? h' = some c → path = path'
  taken_iff : ∀ {c}, Claim.Taken v' c ↔
    Claim.Taken v c ∨ ∃ path h, g.among hs path = some h ∧ g.claim? h = some c
  blocks_nodup : v.blocks.Nodup → v'.blocks.Nodup
  functions_nodup : v.functions.Nodup → v'.functions.Nodup

namespace Passes

variable {g : Graph} {level : Nat} {h : Handle} {hs : List Handle} {v v' v'' : Visited}

theorem nil : Passes g level [] v v where
  fine := fun hat => by simp at hat
  fresh := fun hat => by simp at hat
  once := fun hat => by simp at hat
  taken_iff := by simp
  blocks_nodup := id
  functions_nodup := id

/-- What is met in passing a node and everything below it. -/
theorem taken_below_iff (hbelow : Passes g (level + 1) (g.children h) (v.take (g.claim? h)) v')
    {c : Claim} :
    c.Taken v' ↔ c.Taken v ∨ ∃ path k, g.follow h path = some k ∧ g.claim? k = some c := by
  rw [hbelow.taken_iff, Visited.taken_take, or_right_comm, or_comm]
  refine or_congr_right ⟨?_, ?_⟩
  · rintro (hclaim | ⟨_ | ⟨i, path⟩, k, hat, hclaim⟩)
    · exact ⟨[], h, rfl, hclaim⟩
    · cases hat
    · exact ⟨i :: path, k, hat, hclaim⟩
  · rintro ⟨_ | ⟨i, path⟩, k, hat, hclaim⟩
    · cases hat
      exact .inl hclaim
    · exact .inr ⟨i :: path, k, hat, hclaim⟩

theorem cons (hfault : g.fault? level h = none) (hfree : ∀ c, g.claim? h = some c → ¬ c.Taken v)
    (hbelow : Passes g (level + 1) (g.children h) (v.take (g.claim? h)) v')
    (hrest : Passes g level hs v' v'') : Passes g level (h :: hs) v v'' where
  fine := fun {i path k} hat => by
    cases i with
    | succ i => exact hrest.fine hat
    | zero =>
      cases path with
      | nil =>
        cases hat
        exact hfault
      | cons j path =>
        have hlevel : level + (j :: path).length = level + 1 + path.length := by
          simp only [List.length_cons]
          omega
        rw [hlevel]
        exact hbelow.fine hat
  fresh := fun {path k c} hat hclaim htaken => by
    rcases path with _ | ⟨_ | i, path⟩
    · cases hat
    · rcases path with _ | ⟨j, path⟩
      · cases hat
        exact hfree c hclaim htaken
      · have hat : g.among (g.children h) (j :: path) = some k := hat
        exact hbelow.fresh hat hclaim (Visited.taken_take.mpr (.inr htaken))
    · have hat : g.among hs (i :: path) = some k := hat
      exact hrest.fresh hat hclaim (hbelow.taken_below_iff.mpr (.inl htaken))
  once := fun {path path' k k' c} hat hat' hclaim hclaim' => by
    -- What is claimed at the first node or below it is met before the others are.
    have hearlier {path path' : List Nat} {i : Nat} {k k' : Handle}
        (hat : g.follow h path = some k) (hat' : g.among hs (i :: path') = some k')
        (hclaim : g.claim? k = some c) (hclaim' : g.claim? k' = some c) : False :=
      hrest.fresh hat' hclaim' (hbelow.taken_below_iff.mpr (.inr ⟨path, k, hat, hclaim⟩))
    have habove {path' : List Nat} {i : Nat} {k' : Handle}
        (hat' : g.among (g.children h) (i :: path') = some k') (hclaim : g.claim? h = some c)
        (hclaim' : g.claim? k' = some c) : False :=
      hbelow.fresh hat' hclaim' (Visited.taken_take.mpr (.inl hclaim))
    rcases path with _ | ⟨_ | i, path⟩
    · cases hat
    · rcases path' with _ | ⟨_ | i', path'⟩
      · cases hat'
      · rcases path with _ | ⟨j, path⟩ <;> rcases path' with _ | ⟨j', path'⟩
        · rfl
        · cases hat
          exact (habove hat' hclaim hclaim').elim
        · cases hat'
          exact (habove hat hclaim' hclaim).elim
        · exact congrArg (0 :: ·) (hbelow.once hat hat' hclaim hclaim')
      · exact (hearlier hat hat' hclaim hclaim').elim
    · rcases path' with _ | ⟨_ | i', path'⟩
      · cases hat'
      · exact (hearlier hat' hat hclaim' hclaim).elim
      · have hat : g.among hs (i :: path) = some k := hat
        have hat' : g.among hs (i' :: path') = some k' := hat'
        obtain ⟨rfl, rfl⟩ := List.cons.inj (hrest.once hat hat' hclaim hclaim')
        rfl
  taken_iff := fun {c} => by
    rw [hrest.taken_iff, hbelow.taken_below_iff, or_assoc]
    refine or_congr_right ⟨?_, ?_⟩
    · rintro (⟨path, k, hat, hclaim⟩ | ⟨_ | ⟨i, path⟩, k, hat, hclaim⟩)
      · exact ⟨0 :: path, k, hat, hclaim⟩
      · cases hat
      · exact ⟨(i + 1) :: path, k, hat, hclaim⟩
    · rintro ⟨_ | ⟨_ | i, path⟩, k, hat, hclaim⟩
      · cases hat
      · exact .inl ⟨path, k, hat, hclaim⟩
      · exact .inr ⟨i :: path, k, hat, hclaim⟩
  blocks_nodup := fun hv => by
    refine hrest.blocks_nodup (hbelow.blocks_nodup ?_)
    match hclaim : g.claim? h with
    | none | some (.name n) => exact hv
    | some (.block b) => exact List.nodup_cons.mpr ⟨hfree _ hclaim, hv⟩
  functions_nodup := fun hv => by
    refine hrest.functions_nodup (hbelow.functions_nodup ?_)
    match hclaim : g.claim? h with
    | none | some (.block b) => exact hv
    | some (.name n) => exact List.nodup_cons.mpr ⟨hfree _ hclaim, hv⟩

end Passes

namespace Walks

variable {g : Graph} {level : Nat} {hs : List Handle} {v : Visited}

/-- A walk that comes to its end has found everything as it should be. -/
theorem passes {r : Except Error Visited} (hwalk : Walks g level hs v r) {v' : Visited}
    (hr : r = .ok v') : Passes g level hs v v' := by
  induction hwalk generalizing v' with
  | done =>
    cases hr
    exact .nil
  | fault hfault => cases hr
  | taken hfault hclaim htaken => cases hr
  | inside hfault hfree hbelow ih => cases hr
  | next hfault hfree hbelow hrest ihbelow ihrest =>
    exact .cons hfault hfree (ihbelow rfl) (ihrest hr)

/-! ### What a walk with an error says -/

/-- There is a path among some nodes at a level at which something is wrong, or which claims what
has been met or what another path claims. -/
def Stops (g : Graph) (level : Nat) (hs : List Handle) (v : Visited) (e : Error) : Prop :=
  (∃ i path h, g.among hs (i :: path) = some h ∧ g.fault? (level + path.length) h = some e) ∨
  ∃ path h c, g.among hs path = some h ∧ g.claim? h = some c ∧ e = c.error ∧
    (c.Taken v ∨ ∃ path' h', path' ≠ path ∧ g.among hs path' = some h' ∧ g.claim? h' = some c)

/-- A path below a node is a path from this node. -/
theorem stops_below {h : Handle} {e : Error}
    (hstops : Stops g (level + 1) (g.children h) (v.take (g.claim? h)) e) :
    Stops g level (h :: hs) v e := by
  have hlift {path : List Nat} {k : Handle} (hat : g.among (g.children h) path = some k) :
      g.among (h :: hs) (0 :: path) = some k := by
    rcases path with _ | ⟨i, path⟩
    · cases hat
    · exact hat
  rcases hstops with ⟨i, path, k, hat, hfault⟩ | ⟨path, k, c, hat, hclaim, rfl, hmet⟩
  · refine .inl ⟨0, i :: path, k, hat, ?_⟩
    have hlevel : level + (i :: path).length = level + 1 + path.length := by
      simp only [List.length_cons]
      omega
    rw [hlevel]
    exact hfault
  · refine .inr ⟨0 :: path, k, c, hlift hat, hclaim, rfl, ?_⟩
    rcases hmet with htaken | ⟨path', k', hne, hat', hclaim'⟩
    · rcases Visited.taken_take.mp htaken with hown | htaken
      · refine .inr ⟨[0], h, ?_, rfl, hown⟩
        rintro hpath
        cases hpath
        cases hat
      · exact .inl htaken
    · exact .inr ⟨0 :: path', k', by simpa using hne, hlift hat', hclaim'⟩

/-- A path among the later nodes is one among all; what has been met in passing the first node is
what had been met before, or some path from this node claims it. -/
theorem stops_next {h : Handle} {v' : Visited} {e : Error}
    (hbelow : Passes g (level + 1) (g.children h) (v.take (g.claim? h)) v')
    (hstops : Stops g level hs v' e) : Stops g level (h :: hs) v e := by
  rcases hstops with ⟨i, path, k, hat, hfault⟩ | ⟨path, k, c, hat, hclaim, rfl, hmet⟩
  · exact .inl ⟨i + 1, path, k, hat, hfault⟩
  · rcases path with _ | ⟨i, path⟩
    · cases hat
    refine .inr ⟨(i + 1) :: path, k, c, hat, hclaim, rfl, ?_⟩
    rcases hmet with htaken | ⟨_ | ⟨i', path'⟩, k', hne, hat', hclaim'⟩
    · rcases hbelow.taken_below_iff.mp htaken with htaken | ⟨path', k', hat', hclaim'⟩
      · exact .inl htaken
      · exact .inr ⟨0 :: path', k', by simp, hat', hclaim'⟩
    · cases hat'
    · exact .inr ⟨(i' + 1) :: path', k', by simpa using hne, hat', hclaim'⟩

/-- A walk with an error has met a path that explains it. -/
theorem stops {r : Except Error Visited} (hwalk : Walks g level hs v r) {e : Error}
    (hr : r = .error e) : Stops g level hs v e := by
  induction hwalk with
  | done => cases hr
  | @fault level h hs v e hfault =>
    cases hr
    exact .inl ⟨0, [], h, rfl, hfault⟩
  | @taken level h hs v c hfault hclaim htaken =>
    cases hr
    exact .inr ⟨[0], h, c, rfl, hclaim, rfl, .inl htaken⟩
  | inside hfault hfree hbelow ih =>
    cases hr
    exact stops_below (ih rfl)
  | next hfault hfree hbelow hrest ihbelow ihrest =>
    exact stops_next (hbelow.passes rfl) (ihrest hr)

end Walks

end ToyLang
