import ToyLang.Proofs.Halting

/-!
# What does not depend on how a program is stored

Two programs may store the same thing in different ways: under other numbers, with nodes that
nothing leads to, or with one expression where the other has several alike.  They are alike if their
roots are related by a relation under which related nodes are the same, apart from what they hold,
and hold related nodes in the same order.  The check then says the same of both, and they have the
same text.

What is wrong at a node, what it claims and how it is written are told by what it is and by what the
nodes are that it holds.  So a walk over one of the programs is a walk over the other one, and what
is written for them is equal piece by piece.

## Main definitions

* `Label`, `Graph.label?` — what a node is, apart from the nodes that it holds.
* `Alike` — the nodes of two graphs are related as described.
* `Program.SameAnswer` — the check and the text of two programs are the same.
* `Graph.Reached`, `Graph.Copies` — what is reached from a block, and what it is copied from.
* `Step.changes` — the old node that a step of building changes.

## Main results

* `Alike.walks`, `Alike.pieces_eq` — walks and texts in related graphs.
* `Program.Built.sameAnswer` — programs that are alike have the same answer.
* `Graph.Arena.keeps_runAll` — steps that change nothing that is reached keep all of it.
* `sameAnswer_runAll` — **the answer depends on what is reached, not on how it is stored**; so it is
  the same for copies, and after more steps that change nothing that is reached.
-/

namespace ToyLang

open ToyLang.Graph Program

/-! ### Labels -/

/-- What a node is, apart from the nodes that it holds: its kind and the data in it.  A block is
known by its number and by the name of the function that owns it. -/
inductive Label where
  | int (value : Int64)
  | float (value : Binary64)
  | bool (value : Bool)
  | ident (name : String)
  | call (callee : String)
  | arith (op : Operator ArithmeticOp)
  | compare (op : Operator ComparisonOp)
  | assign (target : String)
  | group
  | eval
  | ret
  | var
  | function
  | nested
  | cond
  | loop
  | count (counter : String)
  | declared (name type : String)
  | defined (name : String) (params : List Param) (result : String)
  | block (b : BlockRef) (owner : Option String)
  deriving DecidableEq

/-- What an expression is. -/
def ExprNode.label : ExprNode → Label
  | int value => .int value
  | float value => .float value
  | bool value => .bool value
  | ident name => .ident name
  | call callee _ => .call callee
  | arith _ op _ => .arith op
  | compare _ op _ => .compare op
  | assign target _ => .assign target
  | group _ => .group

/-- What a statement is.  Whether a condition has an `else` is told by the number of nodes that it
holds. -/
def StmtNode.label : StmtNode → Label
  | eval _ => .eval
  | ret _ => .ret
  | var _ => .var
  | function _ => .function
  | block _ => .nested
  | cond _ _ _ => .cond
  | loop _ _ => .loop
  | count counter _ _ _ => .count counter

namespace Graph

/-- What a node is; a number that no node has is nothing. -/
def label? (g : Graph) : Handle → Option Label
  | .expr e => (g.expr? e).map ExprNode.label
  | .stmt s => (g.stmt? s).map StmtNode.label
  | .block b => (g.block? b).map fun node => .block node.id (g.ownerName node)
  | .var v => (g.var? v).map fun node => .declared node.name node.type
  | .function f => (g.function? f).map fun node => .defined node.name node.params node.result

/-- What the nodes are that a node holds. -/
def labelsBelow (g : Graph) (h : Handle) : List (Option Label) := (g.children h).map g.label?

end Graph

/-! ### What the check asks of a node -/

namespace Label

/-- What a node with a label claims for itself, given what the nodes are that it holds. -/
def claim? : Label → List (Option Label) → Option Claim
  | function, [some (defined name _ _)] => some (.name name)
  | block b _, _ => some (.block b)
  | _, _ => none

/-- What is wrong at a node with a label so many levels below the root, given what the nodes are
that it holds. -/
def fault? (level : Nat) : Label → List (Option Label) → Option Error
  | float x, _ => if x.isFinite then none else some (.nonFiniteFloat x.text)
  | declared name _, [] => some (.missingInitializer name)
  | function, [some (defined name _ _)] =>
      if level = 1 then if Cpp.isBuiltinName name then some (.duplicateFunction name) else none
      else some (.nestedFunction name)
  | _, _ => none

end Label

namespace Graph

variable {g : Graph} {h : Handle} {l : Label}

theorem Ordered.labelsBelow_function (hg : g.Ordered) {s : StmtRef} {f : FunctionRef}
    (hs : g.stmt? s = some (.function f)) :
    g.labelsBelow (.stmt s) = [some (.defined (g.function f).name (g.function f).params
      (g.function f).result)] := by
  have hf : g.has (.function f) := hg.has_of_mem_references hs (.head _)
  rw [labelsBelow, children_stmt hs]
  simp [StmtNode.references, label?, function?_eq hf]

/-- The claim of a node is told by what it is and what it holds. -/
theorem Ordered.claim?_eq (hg : g.Ordered) (hnumbered : g.Numbered) (hl : g.label? h = some l) :
    g.claim? h = l.claim? (g.labelsBelow h) := by
  cases h with
  | expr e =>
    obtain ⟨node, -, rfl⟩ := Option.map_eq_some_iff.mp hl
    cases node <;> rfl
  | stmt s =>
    obtain ⟨node, hs, rfl⟩ := Option.map_eq_some_iff.mp hl
    rw [Graph.claim?, hs]
    cases node with
    | function f =>
      rw [hg.labelsBelow_function hs]
      rfl
    | _ => rfl
  | block b =>
    obtain ⟨node, hb, rfl⟩ := Option.map_eq_some_iff.mp hl
    rw [hnumbered b node hb]
    rfl
  | var v =>
    obtain ⟨node, -, rfl⟩ := Option.map_eq_some_iff.mp hl
    rfl
  | function f =>
    obtain ⟨node, -, rfl⟩ := Option.map_eq_some_iff.mp hl
    rfl

/-- What is wrong at a node is told by what it is and what it holds. -/
theorem Ordered.fault?_eq (hg : g.Ordered) (level : Nat) (hl : g.label? h = some l) :
    g.fault? level h = l.fault? level (g.labelsBelow h) := by
  cases h with
  | expr e =>
    obtain ⟨node, he, rfl⟩ := Option.map_eq_some_iff.mp hl
    rw [Graph.fault?, he]
    cases node <;> rfl
  | stmt s =>
    obtain ⟨node, hs, rfl⟩ := Option.map_eq_some_iff.mp hl
    rw [Graph.fault?, hs]
    cases node with
    | function f =>
      rw [hg.labelsBelow_function hs]
      rfl
    | _ => rfl
  | block b =>
    obtain ⟨node, -, rfl⟩ := Option.map_eq_some_iff.mp hl
    rfl
  | var v =>
    obtain ⟨node, hv, rfl⟩ := Option.map_eq_some_iff.mp hl
    have hnode : g.var v = node := by rw [Graph.var, hv, Option.getD_some]
    rw [Graph.fault?, labelsBelow, children_var, hnode]
    cases node.init <;> rfl
  | function f =>
    obtain ⟨node, -, rfl⟩ := Option.map_eq_some_iff.mp hl
    rfl

end Graph

/-! ### How a node is written -/

/-- The gaps for some arguments, each after a comma. -/
def moreArgGaps : Nat → List (Option Piece)
  | 0 => []
  | n + 1 => some (.text ", ") :: none :: moreArgGaps n

/-- The gaps for some arguments, with commas between them. -/
def argGaps : Nat → List (Option Piece)
  | 0 => []
  | n + 1 => none :: moreArgGaps n

/-- What a node with a label is written as, with gaps for the nodes that it holds, of which there
are so many; given the root, which alone stands without braces. -/
def Label.frame (root : BlockRef) : Label → Nat → List (Option Piece)
  | int value, _ => [some (.text (toString value.toInt))]
  | float value, _ => [some (.float value)]
  | bool value, _ => [some (.text (Cpp.boolText value))]
  | ident name, _ => [some (.text name)]
  | call callee, n => some (.text callee) :: some (.text "(") :: argGaps n ++ [some (.text ")")]
  | arith op, _ => [none, some (.text op.text), none]
  | compare op, _ => [none, some (.text op.text), none]
  | assign target, _ => [some (.text target), some (.text " = "), none]
  | group, _ => [some (.text "("), none, some (.text ")")]
  | eval, _ => [none, some (.text ";\n")]
  | ret, _ => [some (.text "return "), none, some (.text ";\n")]
  | var, _ => [none]
  | function, _ => [none]
  | nested, _ => [none]
  | cond, 3 =>
      [some (.text "\nif ("), none, some (.text ")"), none, some (.text "else"), none]
  | cond, _ => [some (.text "\nif ("), none, some (.text ")"), none]
  | loop, _ => [some (.text "while ("), none, some (.text ")"), none]
  | count counter, _ =>
      [some (.text "for (long long "), some (.text counter), some (.text " = "), none,
        some (.text "; "), some (.text counter), some (.text " < "), none, some (.text "; ++"),
        some (.text counter), some (.text ")"), none]
  | declared name type, _ =>
      [some (.text type), some (.text " "), some (.text name), some (.text " = "), none,
        some (.text ";\n")]
  | defined name params result, _ =>
      [some (.text result), some (.text " "), some (.defined name), some (.text "("),
        some (.text (Cpp.paramsText params)), some (.text ")"), none, some (.text "\n")]
  | block b owner, n =>
      let e := if b = root then .bare else .braces owner
      some (.opened b e) :: List.replicate n none ++ [some (.closed b e)]

theorem map_argParts (es : List ExprRef) :
    (argParts es).map Part.piece? = argGaps es.length := by
  have hmore (es : List ExprRef) : (moreArgParts es).map Part.piece? = moreArgGaps es.length := by
    induction es with
    | nil => rfl
    | cons e es ih => simp [moreArgParts, moreArgGaps, Part.piece?, ih]
  cases es with
  | nil => rfl
  | cons e es => simp [argParts, argGaps, Part.piece?, hmore]

/-- The pieces of a node and their places are told by what the node is and how many nodes it
holds. -/
theorem Program.Built.frame_eq {p : Program} (hp : p.Built) {h : Handle} {l : Label}
    {parts : List Part} (hl : p.graph.label? h = some l)
    (htemplate : p.graph.template h = .ok parts) :
    parts.map Part.piece? = l.frame p.root (p.graph.children h).length := by
  cases h with
  | expr e =>
    obtain ⟨node, he, rfl⟩ := template_expr_iff.mp htemplate
    rw [label?, he, Option.map_some, Option.some.injEq] at hl
    subst hl
    rw [children_expr he]
    cases node with
    | call callee args =>
      simp [ExprNode.template, ExprNode.label, ExprNode.references, Label.frame, Part.piece?,
        map_argParts]
    | _ => rfl
  | stmt s =>
    obtain ⟨node, hs, rfl⟩ := template_stmt_iff.mp htemplate
    rw [label?, hs, Option.map_some, Option.some.injEq] at hl
    subst hl
    rw [children_stmt hs]
    cases node with
    | cond test body otherwise => cases otherwise <;> rfl
    | _ => rfl
  | block b =>
    obtain ⟨node, hb, rfl⟩ := hp.of_template_block htemplate
    rw [label?, hb, Option.map_some, Option.some.injEq] at hl
    subst hl
    have hnode : p.graph.block b = node := by rw [Graph.block, hb, Option.getD_some]
    rw [children_block, hnode, hp.numbered b node hb]
    have hstmts : (node.stmts.map fun s => Part.node (.stmt s)).map Part.piece?
        = List.replicate node.stmts.length none := by
      rw [List.map_map, List.eq_replicate_iff]
      simp [Part.piece?]
    simp [BlockNode.template, Label.frame, Part.piece?, hstmts]
  | var v =>
    obtain ⟨node, init, hv, -, rfl⟩ := template_var_iff.mp htemplate
    rw [label?, hv, Option.map_some, Option.some.injEq] at hl
    subst hl
    rfl
  | function f =>
    obtain ⟨node, hf, rfl⟩ := template_function_iff.mp htemplate
    rw [label?, hf, Option.map_some, Option.some.injEq] at hl
    subst hl
    rfl

/-! ### Programs that are alike -/

/-- Related nodes of two graphs are the same apart from what they hold, and hold related nodes in
the same order. -/
structure Alike (g g' : Graph) (R : Handle → Handle → Prop) : Prop where
  same : ∀ {h h'}, R h h' → ∃ l, g.label? h = some l ∧ g'.label? h' = some l
  below : ∀ {h h'}, R h h' → List.Forall₂ R (g.children h) (g'.children h')

namespace Alike

section

variable {g g' : Graph} {R : Handle → Handle → Prop} (ha : Alike g g' R) {h h' : Handle}
  (hR : R h h')

include ha hR

/-- What related nodes hold is the same. -/
theorem labelsBelow_eq : g.labelsBelow h = g'.labelsBelow h' := by
  have hlabels {hs hs' : List Handle} (hrel : List.Forall₂ R hs hs') :
      hs.map g.label? = hs'.map g'.label? := by
    induction hrel with
    | nil => rfl
    | cons hhead htail ih =>
      obtain ⟨l, hl, hl'⟩ := ha.same hhead
      rw [List.map_cons, List.map_cons, hl, hl', ih]
  exact hlabels (ha.below hR)

theorem fault?_eq (hg : g.Ordered) (hg' : g'.Ordered) (level : Nat) :
    g.fault? level h = g'.fault? level h' := by
  obtain ⟨l, hl, hl'⟩ := ha.same hR
  rw [hg.fault?_eq level hl, hg'.fault?_eq level hl', ha.labelsBelow_eq hR]

theorem claim?_eq (hg : g.Ordered) (hg' : g'.Ordered) (hn : g.Numbered) (hn' : g'.Numbered) :
    g.claim? h = g'.claim? h' := by
  obtain ⟨l, hl, hl'⟩ := ha.same hR
  rw [hg.claim?_eq hn hl, hg'.claim?_eq hn' hl', ha.labelsBelow_eq hR]

end

/-- A walk over nodes of one graph is a walk over related nodes of the other one: at each step the
same is wrong, and the same is claimed. -/
theorem walks {g g' : Graph} {R : Handle → Handle → Prop} (ha : Alike g g' R) (hg : g.Ordered)
    (hg' : g'.Ordered) (hn : g.Numbered) (hn' : g'.Numbered) {level : Nat} {hs : List Handle}
    {v : Visited} {r : Except Error Visited} (hwalk : Walks g level hs v r) {hs' : List Handle}
    (hrel : List.Forall₂ R hs hs') : Walks g' level hs' v r := by
  induction hwalk generalizing hs' with
  | done =>
    cases hrel
    exact .done
  | fault hfault =>
    cases hrel with
    | cons hR hrest => exact .fault (ha.fault?_eq hR hg hg' _ ▸ hfault)
  | taken hfault hclaim htaken =>
    cases hrel with
    | cons hR hrest =>
      rw [ha.fault?_eq hR hg hg'] at hfault
      rw [ha.claim?_eq hR hg hg' hn hn'] at hclaim
      exact .taken hfault hclaim htaken
  | inside hfault hfree hbelow ih =>
    cases hrel with
    | cons hR hrest =>
      have hbelow' := ih (ha.below hR)
      rw [ha.fault?_eq hR hg hg'] at hfault
      rw [ha.claim?_eq hR hg hg' hn hn'] at hfree hbelow'
      exact .inside hfault hfree hbelow'
  | next hfault hfree hbelow hnext ihbelow ihnext =>
    cases hrel with
    | cons hR hrest =>
      have hbelow' := ihbelow (ha.below hR)
      rw [ha.fault?_eq hR hg hg'] at hfault
      rw [ha.claim?_eq hR hg hg' hn hn'] at hfree hbelow'
      exact .next hfault hfree hbelow' (ihnext hrest)

/-- What is written for parts with the same pieces at the same places, and with related nodes
between them, is the same. -/
theorem pieces_eq {p p' : Program} {R : Handle → Handle → Prop} (ha : Alike p.graph p'.graph R)
    (hp : p.Built) (hp' : p'.Built) (hroot : p.root = p'.root) {parts parts' : List Part}
    {ps ps' : List Piece} (hw : Writes p.graph parts ps) (hw' : Writes p'.graph parts' ps')
    (hframe : parts.map Part.piece? = parts'.map Part.piece?)
    (hheld : List.Forall₂ R (held parts) (held parts')) : ps = ps' := by
  induction hw generalizing parts' ps' with
  | nil =>
    cases hw' with
    | nil => rfl
    | piece hrest' => cases hframe
    | node htemplate' hinner' hrest' => cases hframe
  | @piece q parts ps hrest ih =>
    cases hw' with
    | nil => cases hframe
    | @piece q' parts' ps' hrest' =>
      obtain ⟨hq, hpieces⟩ := List.cons.inj hframe
      obtain rfl : q = q' := Option.some.inj hq
      rw [ih hrest' hpieces hheld]
    | node htemplate' hinner' hrest' => cases (List.cons.inj hframe).1
  | @node h inner first parts rest htemplate hinner hrest ihinner ihrest =>
    cases hw' with
    | nil => cases hframe
    | piece hrest' => cases (List.cons.inj hframe).1
    | @node h' inner' first' parts' rest' htemplate' hinner' hrest' =>
      rw [held_node, held_node, List.forall₂_cons] at hheld
      obtain ⟨hR, hheld⟩ := hheld
      obtain ⟨l, hl, hl'⟩ := ha.same hR
      have hbelow := ha.below hR
      -- Both nodes are written in the frame of their label, and the nodes in the gaps are related.
      have hsame : inner.map Part.piece? = inner'.map Part.piece? := by
        rw [hp.frame_eq hl htemplate, hp'.frame_eq hl' htemplate', hroot, hbelow.length_eq]
      rw [← held_template htemplate, ← held_template htemplate'] at hbelow
      rw [ihinner hinner' hsame hbelow, ihrest hrest' (List.cons.inj hframe).2 hheld]

end Alike

/-- The check says the same of two programs, and either both have no text or both have the same. -/
def Program.SameAnswer (p p' : Program) : Prop :=
  p.check.map Checked.counts = p'.check.map Checked.counts ∧ p.render = p'.render

/-- **Programs that are alike have the same answer.** -/
theorem Program.Built.sameAnswer {p p' : Program} (hp : p.Built) (hp' : p'.Built)
    {R : Handle → Handle → Prop} (ha : Alike p.graph p'.graph R)
    (hR : R (.block p.root) (.block p'.root)) : p.SameAnswer p' := by
  have hroot : p.root = p'.root := by
    have hclaim := ha.claim?_eq hR hp.ordered hp'.ordered hp.numbered hp'.numbered
    exact Claim.block.inj (Option.some.inj hclaim)
  have hroots : List.Forall₂ R [.block p.root] [.block p'.root] := .cons hR .nil
  obtain ⟨r, hwalk, hverdict⟩ := hp.ordered.exists_walk hp.has_root
  obtain ⟨r', hwalk', hverdict'⟩ := hp'.ordered.exists_walk hp'.has_root
  obtain rfl : r = r' :=
    (ha.walks hp.ordered hp'.ordered hp.numbered hp'.numbered hwalk hroots).unique hwalk'
  have hcounts : p.check.map Checked.counts = p'.check.map Checked.counts :=
    hverdict.trans hverdict'.symm
  refine ⟨hcounts, ?_⟩
  cases hcheck : p.check with
  | error e =>
    cases hcheck' : p'.check with
    | error e' =>
      rw [hcheck, hcheck'] at hcounts
      cases hcounts
      simp [render, checkLogged, hcheck, hcheck', Except.map]
    | ok c' =>
      rw [hcheck, hcheck'] at hcounts
      cases hcounts
  | ok c =>
    cases hcheck' : p'.check with
    | error e' =>
      rw [hcheck, hcheck'] at hcounts
      cases hcounts
    | ok c' =>
      obtain ⟨ps, hw, htext⟩ := hp.exists_writes (hp.valid_of_check hcheck).toSound hcheck
      obtain ⟨ps', hw', htext'⟩ := hp'.exists_writes (hp'.valid_of_check hcheck').toSound hcheck'
      obtain rfl := ha.pieces_eq hp hp' hroot hw hw' rfl hroots
      have hevents : p.render.events = p'.render.events := by
        rw [hcheck, hcheck'] at hcounts
        obtain ⟨hfunctions, hblocks⟩ := Prod.mk.inj (Except.ok.inj hcounts)
        simp [render, checkLogged, hcheck, hcheck', hfunctions, hblocks]
      have hlogged {x y : Logged String} (hresult : x.result = y.result)
          (hevents : x.events = y.events) : x = y := by
        cases x
        cases y
        congr
      exact hlogged (htext.trans htext'.symm) hevents

/-! ### The mark of the root -/

@[simp] theorem Graph.label?_markOutermost {g : Graph} (b : BlockRef) :
    (g.markOutermost b).label? = g.label? := by
  funext h
  cases h with
  | block b' =>
    simp only [label?, block?, markOutermost, Array.getElem?_modify]
    split
    · cases g.blocks[b'.index]? <;> rfl
    · rfl
  | _ => rfl

/-- The marks of the roots change nothing about what is alike. -/
theorem Alike.markOutermost {g g' : Graph} {R : Handle → Handle → Prop} (ha : Alike g g' R)
    (b b' : BlockRef) : Alike (g.markOutermost b) (g'.markOutermost b') R where
  same := fun hR => by
    rw [label?_markOutermost, label?_markOutermost]
    exact ha.same hR
  below := fun hR => by
    rw [children_markOutermost, children_markOutermost]
    exact ha.below hR

/-! ### Copies -/

namespace Graph

/-- A node is reached from a block. -/
def Reached (g : Graph) (root : BlockRef) (h : Handle) : Prop :=
  ∃ path, g.follow (.block root) path = some h

/-- What is reached from a block consists of copies of nodes of another graph, where the block has
the same number.  A node may have any number of copies. -/
structure Copies (g' g : Graph) (root : BlockRef) (origin : Handle → Handle) : Prop where
  origin_root : origin (.block root) = .block root
  same : ∀ {h}, g'.Reached root h →
    ∃ l, g'.label? h = some l ∧ g.label? (origin h) = some l
  below : ∀ {h}, g'.Reached root h → g.children (origin h) = (g'.children h).map origin

variable {g g' : Graph} {root : BlockRef} {h k : Handle}

theorem reached_root : g.Reached root (.block root) := ⟨[], rfl⟩

theorem Reached.child (hh : g.Reached root h) (hk : k ∈ g.children h) : g.Reached root k := by
  obtain ⟨path, hpath⟩ := hh
  obtain ⟨i, hi⟩ := List.mem_iff_getElem?.mp hk
  exact ⟨path ++ [i], follow_append.mpr ⟨h, hpath, follow_singleton.mpr hi⟩⟩

/-- Copies are like what they are copies of. -/
theorem Copies.alike {origin : Handle → Handle} (hc : g'.Copies g root origin) :
    Alike g g' fun h h' => g'.Reached root h' ∧ h = origin h' where
  same := by
    rintro _ h' ⟨hh', rfl⟩
    obtain ⟨l, hl', hl⟩ := hc.same hh'
    exact ⟨l, hl, hl'⟩
  below := by
    rintro _ h' ⟨hh', rfl⟩
    rw [hc.below hh', List.forall₂_map_left_iff, List.forall₂_same]
    exact fun k hk => ⟨hh'.child hk, rfl⟩

/-! ### Steps that change nothing that is reached -/

/-- A node is what it was and holds what it held. -/
def Keeps (g g' : Graph) (h : Handle) : Prop :=
  g'.label? h = g.label? h ∧ g'.children h = g.children h

/-- The numbers of nodes are those at which there is something. -/
theorem exists_label (hh : g.has h) : ∃ l, g.label? h = some l := by
  cases h with
  | expr e =>
    obtain ⟨node, he⟩ := exists_expr hh
    exact ⟨_, by rw [label?, he]; rfl⟩
  | stmt s =>
    obtain ⟨node, hs⟩ := exists_stmt hh
    exact ⟨_, by rw [label?, hs]; rfl⟩
  | block b => exact ⟨_, by rw [label?, block?_eq hh]; rfl⟩
  | var v => exact ⟨_, by rw [label?, var?_eq hh]; rfl⟩
  | function f => exact ⟨_, by rw [label?, function?_eq hh]; rfl⟩

theorem has_of_label {l : Label} (hl : g.label? h = some l) : g.has h := by
  cases h with
  | _ =>
    obtain ⟨node, hnode, -⟩ := Option.map_eq_some_iff.mp hl
    simpa [has] using (Array.getElem?_eq_some_iff.mp hnode).1

end Graph

namespace Step

/-- The old node that a step changes. -/
def changes : Step → Option Handle
  | push b _ => some (.block b)
  | setInit v _ => some (.var v)
  | function _ _ _ body => some (.block body)
  | _ => none

variable {s : Step} {g g' : Graph} {h : Handle}

theorem refilled_eq {b : BlockRef} (hs : s.changes ≠ some (.block b)) (node : BlockNode) :
    s.refilled g b node = node := by
  cases s with
  | push b' r => exact if_neg fun hb => hs (by rw [changes, hb])
  | function name params result body => exact if_neg fun hb => hs (by rw [changes, hb])
  | _ => rfl

theorem refitted_eq {v : VarRef} (hs : s.changes ≠ some (.var v)) (node : VarNode) :
    s.refitted v node = node := by
  cases s with
  | setInit v' init => exact if_neg fun hv => hs (by rw [changes, hv])
  | _ => rfl

/-- A step changes the node that it is said to change, and no other old node. -/
theorem keeps_of_run (hg : g.Arena) {k : Handle} (hrun : s.run g = some (k, g')) (hh : g.has h)
    (hs : s.changes ≠ some h) : g.Keeps g' h := by
  have heffect := effect_of_run hrun
  cases h with
  | expr e =>
    have hnode : g'.expr? e = g.expr? e := by
      rw [heffect.expr?, if_neg (Nat.ne_of_lt (by simpa [has] using hh))]
    exact ⟨by rw [label?, label?, hnode], by rw [children, children, hnode]⟩
  | stmt r =>
    have hnode : g'.stmt? r = g.stmt? r := by
      rw [heffect.stmt?, if_neg (Nat.ne_of_lt (by simpa [has] using hh))]
    exact ⟨by rw [label?, label?, hnode], by rw [children, children, hnode]⟩
  | block b =>
    have hnode : g'.block? b = some (g.block b) := by
      rw [heffect.block?, if_neg (Nat.ne_of_lt (by simpa [has] using hh)), block?_eq hh,
        Option.map_some, refilled_eq hs]
    -- The function that owns the block is an old one, and functions never change.
    have howner : g'.ownerName (g.block b) = g.ownerName (g.block b) := by
      rw [ownerName, ownerName]
      cases hf : (g.block b).owner with
      | none => rfl
      | some f =>
        have hb : g.owner? b = some f := by rw [owner?, block?_eq hh, Option.bind_some, hf]
        obtain ⟨node, hnode, -⟩ := hg.owned.body_eq hb
        have hlt := (Array.getElem?_eq_some_iff.mp hnode).1
        rw [Option.bind_some, Option.bind_some, heffect.function?, if_neg (Nat.ne_of_lt hlt)]
    refine ⟨?_, by rw [children, children, hnode, block?_eq hh]⟩
    rw [label?, label?, hnode, block?_eq hh, Option.map_some, Option.map_some, howner]
  | var v =>
    have hnode : g'.var? v = g.var? v := by
      rw [heffect.var?, if_neg (Nat.ne_of_lt (by simpa [has] using hh)), var?_eq hh,
        Option.map_some, refitted_eq hs]
    exact ⟨by rw [label?, label?, hnode], by rw [children, children, hnode]⟩
  | function f =>
    have hnode : g'.function? f = g.function? f := by
      rw [heffect.function?, if_neg (Nat.ne_of_lt (by simpa [has] using hh))]
    exact ⟨by rw [label?, label?, hnode], by rw [children, children, hnode]⟩

theorem runAll_append (steps more : List Step) (g : Graph) :
    runAll (steps ++ more) g = runAll more (runAll steps g) := List.foldl_append

/-- No step takes a node away. -/
theorem has_of_run {k : Handle} (hrun : s.run g = some (k, g')) (hh : g.has h) : g'.has h := by
  obtain ⟨held, -, hadds | ⟨-, hrefills⟩⟩ := run_changes hrun
  · exact (hadds.has_iff h).mpr (.inr hh)
  · exact (hrefills.has_iff h).mpr hh

end Step

/-- More steps that change nothing that was reached keep all of it. -/
theorem Graph.Arena.keeps_runAll {g₀ : Graph} {root : BlockRef} (more : List Step)
    (hmore : ∀ s ∈ more, ∀ h, s.changes = some h → ¬ g₀.Reached root h) {g : Graph} (hg : g.Arena)
    (hhas : ∀ h, g₀.Reached root h → g.has h) (hkeeps : ∀ h, g₀.Reached root h → g₀.Keeps g h) :
    ∀ h, g₀.Reached root h → g₀.Keeps (Step.runAll more g) h := by
  induction more generalizing g with
  | nil => exact hkeeps
  | cons s more ih =>
    have hrest := fun s' hs' => hmore s' (.tail _ hs')
    rw [Step.runAll, List.foldl_cons]
    cases hrun : s.run g with
    | none => exact ih hrest hg hhas hkeeps
    | some next =>
      obtain ⟨k, g'⟩ := next
      refine ih hrest (hg.run hrun) (fun h hh => Step.has_of_run hrun (hhas h hh)) fun h hh => ?_
      obtain ⟨hlabel, hchildren⟩ := hkeeps h hh
      obtain ⟨hlabel', hchildren'⟩ :=
        Step.keeps_of_run hg hrun (hhas h hh) fun hs => hmore s (.head _) h hs hh
      exact ⟨hlabel'.trans hlabel, hchildren'.trans hchildren⟩

/-- Two graphs are alike where all that is reached in the one is kept in the other. -/
theorem Graph.Ordered.alike_of_keeps {g g' : Graph} (hg : g.Ordered) {root : BlockRef}
    (hroot : g.has (.block root)) (hkeeps : ∀ h, g.Reached root h → g.Keeps g' h) :
    Alike g g' fun h h' => g.Reached root h ∧ h = h' where
  same := by
    rintro h _ ⟨hh, rfl⟩
    obtain ⟨path, hpath⟩ := hh
    obtain ⟨l, hl⟩ := exists_label (hg.has_of_follow hroot hpath)
    exact ⟨l, hl, (hkeeps h ⟨path, hpath⟩).1.trans hl⟩
  below := by
    rintro h _ ⟨hh, rfl⟩
    rw [(hkeeps h hh).2, List.forall₂_same]
    exact fun k hk => ⟨hh.child hk, rfl⟩

/-- **The answer depends on what is reached from the root, not on how it is stored.**  Two programs
that are built step by step have the same answer if their nodes are alike from the roots on.  This
is so if the nodes that are reached in the one are copies of nodes of the other, under whatever
numbers and in whatever number, and if the other one is built by further steps, none of which
changes a node that is reached. -/
theorem sameAnswer_runAll (steps : List Step) (root : BlockRef)
    (hroot : (Step.runAll steps Graph.empty).has (.block root)) :
    (∀ (steps' : List Step) (root' : BlockRef) (R : Handle → Handle → Prop),
      Alike (Step.runAll steps Graph.empty) (Step.runAll steps' Graph.empty) R →
      R (.block root) (.block root') →
      (Program.new (Step.runAll steps Graph.empty) root).SameAnswer
        (Program.new (Step.runAll steps' Graph.empty) root')) ∧
    (∀ (steps' : List Step) (origin : Handle → Handle),
      (Step.runAll steps' Graph.empty).Copies (Step.runAll steps Graph.empty) root origin →
      (Program.new (Step.runAll steps Graph.empty) root).SameAnswer
        (Program.new (Step.runAll steps' Graph.empty) root)) ∧
    ∀ more : List Step,
      (∀ s ∈ more, ∀ h, s.changes = some h → ¬ (Step.runAll steps Graph.empty).Reached root h) →
      (Program.new (Step.runAll steps Graph.empty) root).SameAnswer
        (Program.new (Step.runAll (steps ++ more) Graph.empty) root) := by
  have halike (steps' : List Step) (root' : BlockRef) (R : Handle → Handle → Prop)
      (ha : Alike (Step.runAll steps Graph.empty) (Step.runAll steps' Graph.empty) R)
      (hR : R (.block root) (.block root')) :
      (Program.new (Step.runAll steps Graph.empty) root).SameAnswer
        (Program.new (Step.runAll steps' Graph.empty) root') := by
    obtain ⟨l, -, hl⟩ := ha.same hR
    exact (built_runAll steps hroot).sameAnswer (built_runAll steps' (has_of_label hl))
      (ha.markOutermost root root') hR
  refine ⟨halike, fun steps' origin hc => ?_, fun more hmore => ?_⟩
  · exact halike steps' root _ hc.alike ⟨reached_root, hc.origin_root.symm⟩
  · have harena := arena_runAll steps
    have hkeeps := harena.keeps_runAll more hmore
      (fun h ⟨path, hpath⟩ => harena.ordered.has_of_follow hroot hpath) (fun h _ => ⟨rfl, rfl⟩)
    rw [← Step.runAll_append] at hkeeps
    exact halike (steps ++ more) root _ (harena.ordered.alike_of_keeps hroot hkeeps)
      ⟨reached_root, rfl⟩

/-- A function that adds a variable to itself, with one node for the variable. -/
def sharedName : List Step :=
  [.block, .block, .ident "x", .arith ⟨0⟩ "+" ⟨0⟩, .stmt (.ret ⟨1⟩), .push ⟨1⟩ ⟨0⟩,
    .function "main" [] "int" ⟨1⟩, .stmt (.function ⟨0⟩), .push ⟨0⟩ ⟨1⟩]

/-- The same function with two nodes for the variable, and with a node that nothing holds. -/
def copiedName : List Step :=
  [.block, .block, .int 7, .ident "x", .ident "x", .arith ⟨1⟩ "+" ⟨2⟩, .stmt (.ret ⟨3⟩),
    .push ⟨1⟩ ⟨0⟩, .function "main" [] "int" ⟨1⟩, .stmt (.function ⟨0⟩), .push ⟨0⟩ ⟨1⟩]

/-- The nodes of the two programs that belong together. -/
def sharedAndCopied : List (Handle × Handle) :=
  [(.block ⟨0⟩, .block ⟨0⟩), (.stmt ⟨1⟩, .stmt ⟨1⟩), (.function ⟨0⟩, .function ⟨0⟩),
    (.block ⟨1⟩, .block ⟨1⟩), (.stmt ⟨0⟩, .stmt ⟨0⟩), (.expr ⟨1⟩, .expr ⟨3⟩),
    (.expr ⟨0⟩, .expr ⟨1⟩), (.expr ⟨0⟩, .expr ⟨2⟩)]

/-- A shared name may be replaced by copies of it. -/
theorem sameAnswer_runAll_sharedName :
    (Step.runAll sharedName Graph.empty).has (.block ⟨0⟩) ∧
      Alike (Step.runAll sharedName Graph.empty) (Step.runAll copiedName Graph.empty)
        (fun h h' => (h, h') ∈ sharedAndCopied) ∧
      (Program.new (Step.runAll sharedName Graph.empty) ⟨0⟩).SameAnswer
        (Program.new (Step.runAll copiedName Graph.empty) ⟨0⟩) := by
  have hroot : (Step.runAll sharedName Graph.empty).has (.block ⟨0⟩) := by decide
  have hsame : ∀ k ∈ sharedAndCopied,
      ((Step.runAll sharedName Graph.empty).label? k.1).isSome ∧
        (Step.runAll copiedName Graph.empty).label? k.2
          = (Step.runAll sharedName Graph.empty).label? k.1 := by decide +kernel
  have hbelow : ∀ k ∈ sharedAndCopied,
      List.Forall₂ (fun h h' => (h, h') ∈ sharedAndCopied)
        ((Step.runAll sharedName Graph.empty).children k.1)
        ((Step.runAll copiedName Graph.empty).children k.2) := by decide
  have halike : Alike (Step.runAll sharedName Graph.empty) (Step.runAll copiedName Graph.empty)
      (fun h h' => (h, h') ∈ sharedAndCopied) :=
    { same := fun hR => by
        obtain ⟨hsome, heq⟩ := hsame _ hR
        obtain ⟨l, hl⟩ := Option.isSome_iff_exists.mp hsome
        exact ⟨l, hl, heq.trans hl⟩
      below := fun hR => hbelow _ hR }
  exact ⟨hroot, halike,
    (sameAnswer_runAll sharedName ⟨0⟩ hroot).1 copiedName ⟨0⟩ _ halike (.head _)⟩

end ToyLang
