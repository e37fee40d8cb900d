import ToyLang.Proofs.Prints

/-!
# Which labels tell the truth

The braces of a block carry a label: the name of the function whose body the block is, or else the
number of the block.  It is taken from the owner of the block, which is the last function that was
declared with the block as its body.  Nothing asks whether this function is the one through which
the block is reached, or whether it belongs to the program at all.

So a block tells the truth exactly if no other function, reached or not, was declared with it later.

## Main definitions

* `openingText`, `closingText` — how the braces of a block are written if they tell the truth.
* `Program.bodyOf?` — the function whose body a block is reached as.
* `Graph.IsLastWith` — the last function with a block as its body.

## Main results

* `Graph.Owned.owner?_eq_some_iff` — the owner of a block is the last function with this body.
* `ends_right_iff` — when the two ends of a block are written as they should be.
* `labels_runAll` — **which labels of a program tell the truth.**
-/

namespace ToyLang

open ToyLang.Graph Program

/-! ### What labels should say -/

/-- How a block begins that is the body of a function with a name, or of none. -/
def openingText (number : Nat) : Option String → String
  | some _ => "\n\x7b\n"
  | none => "\n\x7b // start: " ++ toString number ++ "\n"

/-- How such a block ends. -/
def closingText (number : Nat) : Option String → String
  | some name => "\x7d // end: " ++ name ++ "\n"
  | none => "\x7d // end: " ++ toString number ++ "\n"

/-- The name of the function whose body the block at the end of a path is reached as. -/
def Program.bodyOf? (p : Program) (path : List Nat) : Option String :=
  match p.at? path.dropLast with
  | some (.function f) => some (p.graph.function f).name
  | _ => none

/-- The two ends of a block in braces are written with the name of its owner.  They are right for a
block that should have the name `wanted` exactly if the owner, if there is one, has this name, and
there is one if there should be. -/
theorem ends_right_iff (b : BlockRef) (owner wanted : Option String)
    (howner : owner = none → wanted = none) :
    (Piece.string (.opened b (.braces owner)) = openingText b.index wanted ∧
      Piece.string (.closed b (.braces owner)) = closingText b.index wanted) ↔
      ∀ name, owner = some name → wanted = some name := by
  cases owner with
  | none =>
    obtain rfl := howner rfl
    simp [openingText, closingText]
  | some name =>
    cases wanted with
    | none =>
      -- Only a block without owner has a label at its opening brace.
      have hopening :
          Piece.string (.opened b (.braces (some name))) ≠ openingText b.index none := by
        intro heq
        have hchars := congrArg String.toList heq
        simp [openingText] at hchars
      exact iff_of_false (fun h => hopening h.1) fun h => nomatch h name rfl
    | some name' =>
      simp [openingText, closingText, eq_comm]

/-! ### Owners -/

namespace Graph

/-- A function is the last one that has a block as its body. -/
def IsLastWith (g : Graph) (b : BlockRef) (f : FunctionRef) : Prop :=
  (∃ node, g.function? f = some node ∧ node.body = b) ∧
    ∀ f' node, g.function? f' = some node → node.body = b → f'.index ≤ f.index

/-- The owner of a block is the last function with this body. -/
theorem Owned.owner?_eq_some_iff {g : Graph} (hg : g.Owned) {b : BlockRef} {f : FunctionRef} :
    g.owner? b = some f ↔ g.IsLastWith b f := by
  constructor
  · intro howner
    exact ⟨hg.body_eq howner, fun f' node hf' hbody => hg.last howner hf' hbody⟩
  · rintro ⟨⟨node, hf, rfl⟩, hlast⟩
    obtain ⟨f', howner⟩ := hg.exists_owner hf
    obtain ⟨node', hf', hbody'⟩ := hg.body_eq howner
    have hle := hg.last howner hf rfl
    have hge := hlast f' node' hf' hbody'
    rwa [FunctionRef.ext (Nat.le_antisymm hle hge)]

end Graph

/-- The choice of a root changes no owner. -/
theorem Program.owned_new (steps : List Step) (root : BlockRef) :
    (Program.new (Step.runAll steps Graph.empty) root).graph.Owned :=
  (arena_runAll steps).owned.congr (Ast.owner?_markOutermost root) fun _ => rfl

/-- The name in the braces of a block is that of the last function with this body. -/
theorem Graph.Owned.ownerName_eq_some_iff {g : Graph} (hg : g.Owned) {b : BlockRef}
    {node : BlockNode} (hb : g.block? b = some node) {name : String} :
    g.ownerName node = some name ↔ ∃ f, g.IsLastWith b f ∧ (g.function f).name = name := by
  have howner : g.owner? b = node.owner := by rw [owner?, hb, Option.bind_some]
  constructor
  · intro hname
    obtain ⟨fnode, hf, rfl⟩ := Option.map_eq_some_iff.mp hname
    obtain ⟨f, hnode, hf⟩ := Option.bind_eq_some_iff.mp hf
    exact ⟨f, hg.owner?_eq_some_iff.mp (howner.trans hnode), by rw [Graph.function, hf]; rfl⟩
  · rintro ⟨f, hlast, rfl⟩
    obtain ⟨⟨fnode, hf, -⟩, -⟩ := id hlast
    rw [← hg.owner?_eq_some_iff, howner] at hlast
    rw [ownerName, hlast, Option.bind_some, Graph.function, hf]
    rfl

/-- A block that is reached as the body of a function is the body of one. -/
theorem Program.Built.exists_body {p : Program} (hp : p.Built) {path : List Nat} {b : BlockRef}
    (hpath : p.at? path = some (.block b)) (hne : path ≠ []) {name : String}
    (hname : p.bodyOf? path = some name) :
    ∃ f node, p.graph.function? f = some node ∧ node.body = b := by
  rw [bodyOf?] at hname
  split at hname
  · next f hf =>
    have hhas : p.graph.has (.function f) := hp.ordered.has_of_follow hp.has_root hf
    rw [← List.dropLast_append_getLast hne] at hpath
    obtain ⟨h, hh, hlast⟩ := follow_append.mp hpath
    obtain rfl := Option.some.inj (hh.symm.trans hf)
    rw [follow_singleton, children_function hhas] at hlast
    refine ⟨f, _, function?_eq hhas, ?_⟩
    simpa [eq_comm] using List.mem_of_getElem? hlast
  · cases hname

/-! ### Programs -/

/-- What is printed for a block itself are its two ends. -/
theorem Program.Printed.mem_block_iff {p : Program} {ws : List Print} (hprinted : p.Printed ws)
    {path : List Nat} {b : BlockRef} (hpath : p.at? path = some (.block b)) {node : BlockNode}
    {e : Enclosure} (htemplate : p.graph.template (.block b) = .ok (node.template b e))
    (w : Print) : w ∈ ws ∧ w.path = path ↔
      w = ⟨path, .block b, .opened b e⟩ ∨ w = ⟨path, .block b, .closed b e⟩ := by
  rw [hprinted.mem_iff]
  constructor
  · obtain ⟨path', h, q⟩ := w
    rintro ⟨⟨hpath', inner, hinner, hq⟩, rfl⟩
    obtain rfl := Option.some.inj (hpath'.symm.trans hpath)
    obtain rfl := Except.ok.inj (hinner.symm.trans htemplate)
    rw [own_template_block, List.mem_pair] at hq
    rcases hq with rfl | rfl
    · exact .inl rfl
    · exact .inr rfl
  · rintro (rfl | rfl)
    · exact ⟨⟨hpath, _, htemplate, by simp [own_template_block]⟩, rfl⟩
    · exact ⟨⟨hpath, _, htemplate, by simp [own_template_block]⟩, rfl⟩

/-- **Which labels tell the truth.**  Whatever steps build a graph, and whichever of its blocks is
the root, if the check accepts the program, then for every other block that is reached two pieces
are printed, its ends.  They are written as they should be, with the name of the function whose body
the block is reached as or else with its own number, if and only if the last function that was
declared with the block as its body, if any was, has the name of this function. -/
theorem labels_runAll (steps : List Step) (root : BlockRef)
    (hroot : (Step.runAll steps Graph.empty).has (.block root)) {c : Checked}
    (hcheck : (Program.new (Step.runAll steps Graph.empty) root).check = .ok c) :
    let p := Program.new (Step.runAll steps Graph.empty) root
    ∃ ws, p.Printed ws ∧
      p.render.result = .ok (piecesText (Cpp.openingPieces ++ ws.map Print.piece
        ++ Cpp.closingPieces)) ∧
      ∀ path b, p.at? path = some (.block b) → b ≠ p.root → ∃ e,
        (∀ w, w ∈ ws ∧ w.path = path ↔
          w = ⟨path, .block b, .opened b e⟩ ∨ w = ⟨path, .block b, .closed b e⟩) ∧
        ((Piece.string (.opened b e) = openingText b.index (p.bodyOf? path) ∧
            Piece.string (.closed b e) = closingText b.index (p.bodyOf? path)) ↔
          ∀ f, p.graph.IsLastWith b f → p.bodyOf? path = some (p.graph.function f).name) := by
  intro p
  have hp : p.Built := built_runAll steps hroot
  have howned : p.graph.Owned := owned_new steps root
  obtain ⟨ws, hprinted, hrender⟩ := hp.exists_printed (hp.valid_of_check hcheck).toSound hcheck
  refine ⟨ws, hprinted, hrender, fun path b hpath hb => ?_⟩
  have hhas : p.graph.has (.block b) := hp.ordered.has_of_follow hp.has_root hpath
  have htemplate := hp.template_block hhas
  rw [if_neg hb] at htemplate
  refine ⟨.braces (p.graph.ownerName (p.graph.block b)), hprinted.mem_block_iff hpath htemplate, ?_⟩
  have hname (name : String) : p.graph.ownerName (p.graph.block b) = some name ↔
      ∃ f, p.graph.IsLastWith b f ∧ (p.graph.function f).name = name :=
    howned.ownerName_eq_some_iff (block?_eq hhas)
  rw [ends_right_iff]
  · simp only [hname]
    constructor
    · exact fun h f hlast => h _ ⟨f, hlast, rfl⟩
    · rintro h _ ⟨f, hlast, rfl⟩
      exact h f hlast
  · -- the body of a function has an owner
    intro hnone
    by_contra hbody
    obtain ⟨name, hbody⟩ := Option.ne_none_iff_exists'.mp hbody
    have hne : path ≠ [] := by
      rintro rfl
      cases hpath
      exact hb rfl
    obtain ⟨f, node, hf, rfl⟩ := hp.exists_body hpath hne hbody
    obtain ⟨f', howner⟩ := howned.exists_owner hf
    have hlast := (hname _).mpr ⟨f', howned.owner?_eq_some_iff.mp howner, rfl⟩
    rw [hnone] at hlast
    cases hlast

/-- Two functions with one body, of which the program holds the first. -/
def sharedBody : List Step :=
  [.block, .block, .function "main" [] "int" ⟨1⟩, .function "helper" [] "int" ⟨1⟩,
    .stmt (.function ⟨0⟩), .push ⟨0⟩ ⟨0⟩]

/-- The body of the entry point carries the name of the other function. -/
theorem labels_runAll_sharedBody :
    let p := Program.new (Step.runAll sharedBody Graph.empty) ⟨0⟩
    (Step.runAll sharedBody Graph.empty).has (.block ⟨0⟩) ∧ (∃ c, p.check = .ok c) ∧
      p.at? [0, 0, 0] = some (.block ⟨1⟩) ∧ p.bodyOf? [0, 0, 0] = some "main__func__" ∧
      ∃ ws e, p.Printed ws ∧ ⟨[0, 0, 0], .block ⟨1⟩, .opened ⟨1⟩ e⟩ ∈ ws ∧
        ⟨[0, 0, 0], .block ⟨1⟩, .closed ⟨1⟩ e⟩ ∈ ws ∧
        ¬ (Piece.string (.opened ⟨1⟩ e) = openingText 1 (some "main__func__") ∧
          Piece.string (.closed ⟨1⟩ e) = closingText 1 (some "main__func__")) := by
  intro p
  have hroot : (Step.runAll sharedBody Graph.empty).has (.block ⟨0⟩) := by decide
  obtain ⟨c, hcheck⟩ : ∃ c, p.check = .ok c := ⟨_, rfl⟩
  have hpath : p.at? [0, 0, 0] = some (.block ⟨1⟩) := rfl
  have hbody : p.bodyOf? [0, 0, 0] = some "main__func__" := rfl
  obtain ⟨ws, hprinted, -, hblocks⟩ := labels_runAll sharedBody ⟨0⟩ hroot hcheck
  obtain ⟨e, hends, htrue⟩ := hblocks [0, 0, 0] ⟨1⟩ hpath (by decide)
  refine ⟨hroot, ⟨c, hcheck⟩, hpath, hbody, ws, e, hprinted, ((hends _).mpr (.inl rfl)).1,
    ((hends _).mpr (.inr rfl)).1, fun hright => ?_⟩
  have hlast : p.graph.IsLastWith ⟨1⟩ ⟨1⟩ := by
    refine ⟨⟨_, rfl, rfl⟩, fun f node hf _ => ?_⟩
    have hlt := (Array.getElem?_eq_some_iff.mp hf).1
    exact Nat.le_of_lt_succ hlt
  have hname : some "main__func__" = some "helper" := htrue.mp hright ⟨1⟩ hlast
  simp at hname

end ToyLang
