import ToyLang.Proofs.Rendering

/-!
# What is printed, and for which node

Every piece of a text is printed for a node at the end of a path.  What is printed for a node is its
own pieces with what is printed for the nodes that it holds between them, so that a property of the
texts of nodes can be shown for each node once it holds of the nodes in it.

## Main definitions

* `Print`, `Prints` — pieces with the nodes that they are printed for.
* `Program.Printed` — what is printed for a whole program.
* `Spread` — what is printed for the nodes in a node, as a property says.
* `Graph.EachElse` — what holds of each condition with an `else` at a node or below it.

## Main results

* `Prints.spread` — an induction over everything that is printed below the root.
* `Program.Printed.mem_iff` — what is printed is each piece of each node that is reached.
* `Program.Built.exists_printed` — an accepted program is printed, with the text of its file.
-/

namespace ToyLang

open ToyLang.Graph

/-- A piece, with the node that it is printed for and the path to this node. -/
structure Print where
  path : List Nat
  node : Handle
  piece : Piece

/-- Parts of a node at the end of a path, from the position `i` among the nodes that it holds on,
are printed like this. -/
inductive Prints (g : Graph) : List Nat → Handle → Nat → List Part → List Print → Prop
  /-- Nothing is left. -/
  | nil {path h i} : Prints g path h i [] []
  /-- A piece stands for itself. -/
  | piece {path h i q parts ws} (hrest : Prints g path h i parts ws) :
      Prints g path h i (.piece q :: parts) (⟨path, h, q⟩ :: ws)
  /-- A node is printed as its parts are, at the end of a longer path. -/
  | node {path h i k inner first parts rest} (htemplate : g.template k = .ok inner)
      (hinner : Prints g (path ++ [i]) k 0 inner first)
      (hrest : Prints g path h (i + 1) parts rest) :
      Prints g path h i (.node k :: parts) (first ++ rest)

/-- What is printed for a program between what every file begins with and ends with. -/
def Program.Printed (p : Program) (ws : List Print) : Prop :=
  ∃ parts, p.graph.template (.block p.root) = .ok parts ∧
    Prints p.graph [] (.block p.root) 0 parts ws

/-- The parts of a node are printed like this, and what is printed for each node among them is as
`N` says. -/
inductive Spread (N : List Nat → Handle → List Print → Prop) :
    List Nat → Handle → Nat → List Part → List Print → Prop
  | nil {path h i} : Spread N path h i [] []
  | piece {path h i q parts ws} (hrest : Spread N path h i parts ws) :
      Spread N path h i (.piece q :: parts) (⟨path, h, q⟩ :: ws)
  | node {path h i k first parts rest} (hfirst : N (path ++ [i]) k first)
      (hrest : Spread N path h (i + 1) parts rest) :
      Spread N path h i (.node k :: parts) (first ++ rest)

section

variable {N : List Nat → Handle → List Print → Prop} {path : List Nat} {h k : Handle} {i : Nat}
  {q : Piece} {parts : List Part} {ws : List Print}

theorem spread_nil_iff : Spread N path h i [] ws ↔ ws = [] := by
  constructor
  · rintro ⟨⟩
    rfl
  · rintro rfl
    exact .nil

theorem spread_piece_iff : Spread N path h i (.piece q :: parts) ws ↔
    ∃ rest, Spread N path h i parts rest ∧ ws = ⟨path, h, q⟩ :: rest := by
  constructor
  · rintro (_ | hrest)
    exact ⟨_, hrest, rfl⟩
  · rintro ⟨rest, hrest, rfl⟩
    exact .piece hrest

theorem spread_node_iff : Spread N path h i (.node k :: parts) ws ↔
    ∃ first rest, N (path ++ [i]) k first ∧ Spread N path h (i + 1) parts rest ∧
      ws = first ++ rest := by
  constructor
  · intro hspread
    cases hspread with
    | node hfirst hrest => exact ⟨_, _, hfirst, hrest, rfl⟩
  · rintro ⟨first, rest, hfirst, hrest, rfl⟩
    exact .node hfirst hrest

end

/-- Parts that are printed one after the other. -/
theorem Spread.exists_append {N : List Nat → Handle → List Print → Prop} {path : List Nat}
    {h : Handle} {parts parts' : List Part} {i : Nat} {ws : List Print}
    (hspread : Spread N path h i (parts ++ parts') ws) :
    ∃ j first rest, Spread N path h i parts first ∧ Spread N path h j parts' rest ∧
      ws = first ++ rest := by
  induction parts generalizing i ws with
  | nil => exact ⟨i, [], ws, .nil, hspread, rfl⟩
  | cons part parts ih =>
    cases hspread with
    | piece hspread =>
      obtain ⟨j, first, rest, hfirst, hrest, rfl⟩ := ih hspread
      exact ⟨j, _, rest, .piece hfirst, hrest, rfl⟩
    | node hnode hspread =>
      obtain ⟨j, first, rest, hfirst, hrest, rfl⟩ := ih hspread
      exact ⟨j, _, rest, .node hnode hfirst, hrest, (List.append_assoc _ _ _).symm⟩

section

variable {p : Program} {path : List Nat} {h : Handle} {i : Nat} {parts : List Part}
  {ws : List Print}

/-- What is written is printed for some nodes. -/
theorem Writes.exists_prints {g : Graph} {ps : List Piece} (hw : Writes g parts ps)
    (path : List Nat) (h : Handle) (i : Nat) :
    ∃ ws, Prints g path h i parts ws ∧ ws.map Print.piece = ps := by
  induction hw generalizing path h i with
  | nil => exact ⟨[], .nil, rfl⟩
  | piece hrest ih =>
    obtain ⟨ws, hws, hps⟩ := ih path h i
    exact ⟨_, .piece hws, congrArg _ hps⟩
  | node htemplate hinner hrest ihinner ihrest =>
    obtain ⟨first, hfirst, hps⟩ := ihinner (path ++ [i]) _ 0
    obtain ⟨rest, hrest, hps'⟩ := ihrest path h (i + 1)
    exact ⟨_, .node htemplate hfirst hrest, by rw [List.map_append, hps, hps']⟩

/-- The node at the next position is one step further down the path. -/
theorem Program.at?_step {k : Handle} {ks : List Handle} (hpath : p.at? path = some h)
    (hheld : (p.graph.children h).drop i = k :: ks) :
    p.at? (path ++ [i]) = some k ∧ (p.graph.children h).drop (i + 1) = ks := by
  have hk : (p.graph.children h)[i]? = some k := by
    rw [← List.head?_drop, hheld, List.head?_cons]
  refine ⟨follow_append.mpr ⟨h, hpath, follow_singleton.mpr hk⟩, ?_⟩
  rw [← List.tail_drop, hheld, List.tail_cons]

/-- **Everything that is printed is printed for the node at the end of its path.** -/
theorem Prints.at?_eq (hprints : Prints p.graph path h i parts ws) (hpath : p.at? path = some h)
    (hheld : (p.graph.children h).drop i = held parts) : ∀ w ∈ ws, p.at? w.path = some w.node := by
  induction hprints with
  | nil => exact fun w hw => absurd hw List.not_mem_nil
  | piece hrest ih =>
    rintro w (_ | ⟨_, hw⟩)
    · exact hpath
    · exact ih hpath hheld w hw
  | node htemplate hinner hrest ihinner ihrest =>
    obtain ⟨hnode, hheld⟩ := Program.at?_step hpath hheld
    intro w hw
    rcases List.mem_append.mp hw with hw | hw
    · exact ihinner hnode (held_template htemplate).symm w hw
    · exact ihrest hpath hheld w hw

/-- An induction over everything that is printed: what holds of each node below the root once it
holds of the nodes in it, holds of all of them. -/
theorem Prints.spread {N : List Nat → Handle → List Print → Prop}
    (hN : ∀ path h parts ws, p.at? path = some h → path ≠ [] → p.graph.template h = .ok parts →
      Spread N path h 0 parts ws → N path h ws)
    (hprints : Prints p.graph path h i parts ws) (hpath : p.at? path = some h)
    (hheld : (p.graph.children h).drop i = held parts) : Spread N path h i parts ws := by
  induction hprints with
  | nil => exact .nil
  | piece hrest ih => exact .piece (ih hpath hheld)
  | node htemplate hinner hrest ihinner ihrest =>
    obtain ⟨hnode, hheld⟩ := Program.at?_step hpath hheld
    have hspread := ihinner hnode (held_template htemplate).symm
    exact .node (hN _ _ _ _ hnode (by simp) htemplate hspread) (ihrest hpath hheld)

end

/-! ### The pieces of the nodes that are reached -/

section

variable {g : Graph} {path : List Nat} {h k k' : Handle} {i j : Nat} {parts inner : List Part}
  {ws : List Print}

/-- The pieces among some parts are printed for the node that the parts belong to. -/
theorem Prints.mem_of_own (hprints : Prints g path h i parts ws) {q : Piece} (hq : q ∈ own parts) :
    ⟨path, h, q⟩ ∈ ws := by
  induction hprints with
  | nil => cases hq
  | piece hrest ih =>
    rcases List.mem_cons.mp hq with rfl | hq
    · exact .head _
    · exact .tail _ (ih hq)
  | node htemplate hinner hrest ihinner ihrest => exact List.mem_append_right _ (ihrest hq)

/-- The pieces of a node at the end of a path are printed for it. -/
theorem Prints.mem_of_follow (hprints : Prints g path h i parts ws) {below : List Nat}
    (hk : (held parts)[j]? = some k) (hfollow : g.follow k below = some k')
    (htemplate : g.template k' = .ok inner) {q : Piece} (hq : q ∈ own inner) :
    ⟨path ++ (i + j) :: below, k', q⟩ ∈ ws := by
  induction hprints generalizing j k below with
  | nil => cases hk
  | piece hrest ih => exact .tail _ (ih hk hfollow)
  | @node path h i k₀ inner₀ first parts rest htemplate₀ hinner hrest ihinner ihrest =>
    cases j with
    | zero =>
      obtain rfl := Option.some.inj hk
      refine List.mem_append_left _ ?_
      cases below with
      | nil =>
        obtain rfl := Option.some.inj hfollow
        obtain rfl := Except.ok.inj (htemplate₀.symm.trans htemplate)
        exact hinner.mem_of_own hq
      | cons j below =>
        obtain ⟨m, hm, hfollow⟩ := follow_cons.mp hfollow
        rw [← held_template htemplate₀] at hm
        have hmem := ihinner hm hfollow
        rwa [Nat.zero_add, List.append_assoc] at hmem
    | succ j =>
      have hmem := ihrest hk hfollow
      rw [Nat.add_right_comm] at hmem
      exact List.mem_append_right _ hmem

/-- The pieces of a block are its two ends. -/
theorem own_template_block (node : BlockNode) (b : BlockRef) (e : Enclosure) :
    own (node.template b e) = [.opened b e, .closed b e] := by
  have hstmts : own (node.stmts.map fun s => .node (.stmt s)) = [] := by simp [own, Part.piece?]
  simp [BlockNode.template, hstmts]

/-- What is printed is a piece of the node that it is printed for. -/
theorem Prints.exists_template (hprints : Prints g path h i parts ws)
    (hparts : ∃ all, g.template h = .ok all ∧ ∀ q ∈ own parts, q ∈ own all) :
    ∀ w ∈ ws, ∃ inner, g.template w.node = .ok inner ∧ w.piece ∈ own inner := by
  induction hprints with
  | nil => exact fun w hw => absurd hw List.not_mem_nil
  | piece hrest ih =>
    obtain ⟨all, htemplate, hall⟩ := hparts
    rintro w (_ | ⟨_, hw⟩)
    · exact ⟨all, htemplate, hall _ (.head _)⟩
    · exact ih ⟨all, htemplate, fun q hq => hall q (.tail _ hq)⟩ w hw
  | node htemplate hinner hrest ihinner ihrest =>
    intro w hw
    rcases List.mem_append.mp hw with hw | hw
    · exact ihinner ⟨_, htemplate, fun q hq => hq⟩ w hw
    · exact ihrest hparts w hw

end

/-- **What is printed for a program is each piece of each node that is reached.** -/
theorem Program.Printed.mem_iff {p : Program} {ws : List Print} (hprinted : p.Printed ws)
    {w : Print} : w ∈ ws ↔ p.at? w.path = some w.node ∧
      ∃ inner, p.graph.template w.node = .ok inner ∧ w.piece ∈ own inner := by
  obtain ⟨parts, htemplate, hprints⟩ := hprinted
  constructor
  · intro hw
    exact ⟨hprints.at?_eq rfl (held_template htemplate).symm w hw,
      hprints.exists_template ⟨parts, htemplate, fun q hq => hq⟩ w hw⟩
  · obtain ⟨path, k, q⟩ := w
    rintro ⟨hpath, inner, hinner, hq⟩
    cases path with
    | nil =>
      obtain rfl := Option.some.inj hpath
      obtain rfl := Except.ok.inj (htemplate.symm.trans hinner)
      exact hprints.mem_of_own hq
    | cons j path =>
      obtain ⟨m, hm, hfollow⟩ := follow_cons.mp hpath
      rw [← held_template htemplate] at hm
      have hmem := hprints.mem_of_follow hm hfollow hinner hq
      rwa [Nat.zero_add, List.nil_append] at hmem

/-- An accepted program is printed, and its text is that of what is printed. -/
theorem Program.Built.exists_printed {p : Program} (hp : p.Built) (hsound : p.Sound) {c : Checked}
    (hcheck : p.check = .ok c) : ∃ ws, p.Printed ws ∧
      p.render.result = .ok (piecesText (Cpp.openingPieces ++ ws.map Print.piece
        ++ Cpp.closingPieces)) := by
  obtain ⟨ps, hw, hrender⟩ := hp.exists_writes hsound hcheck
  cases hw with
  | @node _ inner first _ rest htemplate hinner hrest =>
    cases hrest
    obtain ⟨ws, hprints, rfl⟩ := hinner.exists_prints [] (.block p.root) 0
    rw [List.append_nil] at hrender
    exact ⟨ws, ⟨inner, htemplate, hprints⟩, hrender⟩

/-! ### Conditions with an `else` -/

namespace Graph

/-- The two branches of each condition with an `else`, at a node or below it, are as `P` says. -/
def EachElse (g : Graph) (P : StmtRef → StmtRef → Prop) (h : Handle) : Prop :=
  ∀ path s test body otherwise, g.follow h path = some (.stmt s) →
    g.stmt? s = some (.cond test body (some otherwise)) → P body otherwise

variable {g : Graph} {P : StmtRef → StmtRef → Prop} {h : Handle}

/-- What holds of the conditions below a node holds of those at and below the nodes in it. -/
theorem eachElse_iff : g.EachElse P h ↔
    (∀ s test body otherwise, h = .stmt s → g.stmt? s = some (.cond test body (some otherwise)) →
      P body otherwise) ∧ ∀ k ∈ g.children h, g.EachElse P k := by
  constructor
  · intro heach
    refine ⟨?_, fun k hk path s test body otherwise hpath => ?_⟩
    · rintro s test body otherwise rfl hs
      exact heach [] s test body otherwise rfl hs
    · obtain ⟨i, hi⟩ := List.mem_iff_getElem?.mp hk
      exact heach (i :: path) s test body otherwise (follow_cons.mpr ⟨k, hi, hpath⟩)
  · rintro ⟨hown, hchildren⟩ path s test body otherwise hpath hs
    cases path with
    | nil => exact hown s test body otherwise (Option.some.inj hpath) hs
    | cons i path =>
      obtain ⟨k, hk, hpath⟩ := follow_cons.mp hpath
      exact hchildren k (List.mem_of_getElem? hk) path s test body otherwise hpath hs

/-- A node that is no condition with an `else` adds nothing. -/
theorem eachElse_iff_of_not_else
    (hh : ∀ s test body otherwise, h = .stmt s →
      g.stmt? s ≠ some (.cond test body (some otherwise))) :
    g.EachElse P h ↔ ∀ k ∈ g.children h, g.EachElse P k := by
  rw [eachElse_iff]
  exact and_iff_right fun s test body otherwise hs hnode =>
    absurd hnode (hh s test body otherwise hs)

theorem eachElse_iff_of_ifElse {s : StmtRef} {test : ExprRef} {body otherwise : StmtRef}
    (hs : g.stmt? s = some (.cond test body (some otherwise))) :
    g.EachElse P (.stmt s) ↔ P body otherwise ∧
      (g.EachElse P (.expr test) ∧ g.EachElse P (.stmt body)) ∧ g.EachElse P (.stmt otherwise) := by
  have hchildren : g.children (.stmt s) = [.expr test, .stmt body, .stmt otherwise] :=
    children_stmt hs
  have hown : (∀ s' test' body' otherwise', Handle.stmt s = .stmt s' →
      g.stmt? s' = some (.cond test' body' (some otherwise')) → P body' otherwise') ↔
      P body otherwise := by
    constructor
    · exact fun h => h s test body otherwise rfl hs
    · rintro h s' test' body' otherwise' hs' hnode
      cases hs'
      cases hs.symm.trans hnode
      exact h
  rw [eachElse_iff, hown, hchildren]
  simp [and_assoc]

end Graph

end ToyLang
