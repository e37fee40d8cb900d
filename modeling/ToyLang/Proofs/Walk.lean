import ToyLang.Proofs.Lowered

/-!
# The check on a lowered program

The walk over the graph of a lowered program follows the tree.  It enters the blocks in
the order of their numbers, so where `n` blocks have opened it has entered exactly those
below `n`; it therefore never meets a block twice, and it finds every initial value.  What
is left to go wrong is a literal that is not finite, or the name of a function.

## Main definitions

* `Stmt.floats`, `Item.floats` — the floating-point literals of a part, in order.
* `outcome` — a walk as its first fault, if any, and its result.
* `Checkpoint` — a place of the tree where something can be wrong.

## Main results

* `Stmt.visit_eq`, `Item.visit_eq` — the walk of a part.
* `check_toProgram` — the check of a lowered program, as a function of the tree.
-/

namespace ToyLang

namespace Ast

open ToyLang.Graph

/-! ### Literals -/

mutual

/-- The floating-point literals of an expression, in order. -/
def Expr.floats : Expr → List Binary64
  | .int _ | .bool _ | .ident _ => []
  | .float value => [value]
  | .call _ args => floatsOfArgs args
  | .arith _ lhs rhs | .compare _ lhs rhs => lhs.floats ++ rhs.floats
  | .assign _ value => value.floats
  | .paren inner => inner.floats

/-- The floating-point literals of some expressions. -/
def floatsOfArgs : List Expr → List Binary64
  | [] => []
  | e :: es => e.floats ++ floatsOfArgs es

end

mutual

/-- The floating-point literals of a statement, in order. -/
def Stmt.floats : Stmt → List Binary64
  | .bind b => b.init.floats
  | .ret value | .eval value => value.floats
  | .cond test body otherwise => test.floats ++ floatsOfAll body ++ floatsOfElse otherwise
  | .loop test body => test.floats ++ floatsOfAll body
  | .count _ first bound body => first.floats ++ bound.floats ++ floatsOfAll body
  | .block body => floatsOfAll body

/-- The floating-point literals behind an `else`. -/
def floatsOfElse : Option Stmt → List Binary64
  | none => []
  | some s => s.floats

/-- The floating-point literals of some statements. -/
def floatsOfAll : List Stmt → List Binary64
  | [] => []
  | s :: ss => s.floats ++ floatsOfAll ss

end

/-- The floating-point literals of a declaration at the top level. -/
def Item.floats : Item → List Binary64
  | .function f => floatsOfAll f.body
  | .bind b => b.init.floats

mutual

/-- An expression keeps its literals. -/
theorem Expr.floats_target : (e : Expr) → e.target.floats = e.floats
  | .int _ | .float _ | .bool _ | .ident _ => rfl
  | .call _ args => floats_targetsOf args
  | .arith _ lhs rhs => by
    rw [Expr.target, Cpp.Expr.floats, lhs.floats_target, rhs.floats_target, Expr.floats]
  | .compare _ lhs rhs => by
    rw [Expr.target, Cpp.Expr.floats, lhs.floats_target, rhs.floats_target, Expr.floats]
  | .assign _ value => value.floats_target
  | .paren inner => inner.floats_target

theorem floats_targetsOf : (es : List Expr) → Cpp.floatsOfAll (targetsOf es) = floatsOfArgs es
  | [] => rfl
  | e :: es => by
    rw [targetsOf, Cpp.floatsOfAll, e.floats_target, floats_targetsOf es, floatsOfArgs]

end

/-- The fault of some literals: the first one that is not finite. -/
def literalFault (xs : List Binary64) : Option Error :=
  (xs.find? fun x => !x.isFinite).map fun x => .nonFiniteFloat x.text

theorem literalFault_append (xs ys : List Binary64) :
    literalFault (xs ++ ys) = (literalFault xs).or (literalFault ys) := by
  rw [literalFault, List.find?_append, Option.map_or]
  rfl

/-! ### Outcomes of a walk -/

/-- The outcome of a walk with a given fault, result and last state. -/
def outcome {α : Type} (fault : Option Error) (a : α) (v : Visited) :
    Except Error (α × Visited) :=
  match fault with
  | some e => .error e
  | none => .ok (a, v)

/-- Of two walks, the fault of the first one counts first. -/
theorem outcome_bind {α β : Type} {m : Visit α} {f : α → Visit β} {v v₁ v₂ : Visited}
    {a : α} {b : β} {fault fault' total : Option Error} (hm : m v = outcome fault a v₁)
    (hf : f a v₁ = outcome fault' b v₂) (htotal : total = fault.or fault') :
    (m >>= f) v = outcome total b v₂ := by
  subst htotal
  cases fault with
  | some e => simp [bind, StateT.bind, hm, outcome, Except.bind]
  | none => simpa [bind, StateT.bind, hm, outcome, Except.bind] using hf

/-- A walk without a fault goes on. -/
theorem outcome_next {α β : Type} {m : Visit α} {f : α → Visit β} {v v₁ : Visited} {a : α}
    (hm : m v = outcome none a v₁) : (m >>= f) v = f a v₁ := by
  simp [bind, StateT.bind, hm, outcome, Except.bind]

theorem outcome_map {α β : Type} {m : Visit α} {v v₁ : Visited} {a : α} {fault : Option Error}
    (f : α → β) (hm : m v = outcome fault a v₁) : (f <$> m) v = outcome fault (f a) v₁ := by
  cases fault with
  | some e => simp [Functor.map, StateT.map, bind, Except.bind, hm, outcome]
  | none => simp [Functor.map, StateT.map, bind, Except.bind, hm, outcome, pure, Except.pure]

/-- The blocks with a number below `n`, the last one first. -/
def entered : Nat → List BlockRef
  | 0 => []
  | n + 1 => ⟨n⟩ :: entered n

theorem mem_entered {n : Nat} {b : BlockRef} : b ∈ entered n ↔ b.index < n := by
  induction n with
  | zero => simp [entered]
  | succ n ih =>
    rw [entered, List.mem_cons, ih]
    constructor
    · rintro (rfl | h)
      · exact Nat.lt_succ_self n
      · omega
    · intro h
      rcases Nat.lt_succ_iff_lt_or_eq.mp h with h | h
      · exact .inr h
      · exact .inl (by cases b; simp_all)

@[simp] theorem length_entered (n : Nat) : (entered n).length = n := by
  induction n with
  | zero => rfl
  | succ n ih => simp [entered, ih]

theorem visit_enter (n : Nat) (names : List String) :
    Visit.enter ⟨n⟩ ⟨entered n, names⟩ = outcome none () ⟨entered (n + 1), names⟩ := by
  have hnew : (⟨n⟩ : BlockRef) ∉ entered n := by simp [mem_entered]
  change (if (⟨n⟩ : BlockRef) ∈ entered n then _ else _ : Visit Unit) _ = _
  rw [if_neg hnew]
  rfl

theorem visit_expr {g : Graph} {e : Expr} {r : ExprRef} (h : e.IsAt g r) (v : Visited) :
    Visit.expr (g.tree r) v = outcome (literalFault e.floats) e.target v := by
  rw [h.2, Visit.expr, Cpp.Expr.nonFinite?_eq, e.floats_target, literalFault]
  cases e.floats.find? fun x => !x.isFinite <;> rfl

/-! ### Statements -/

variable {g : Graph}

theorem visit_var {b : Binding} {v : VarRef} (h : b.IsAt g v) (seen : Visited) :
    Visit.var g.exprTrees (g.var v) seen
      = outcome (literalFault b.init.floats) b.target seen := by
  obtain ⟨init, hv, hinit⟩ := h
  have hnode : g.var v = ⟨b.name, b.type, some init⟩ := by
    rw [Graph.var, Graph.var?, hv, Option.getD_some]
  rw [hnode, Visit.var]
  simp only [bind_pure_comp]
  exact outcome_map _ (visit_expr hinit seen)

/-- The specification of walking some statements, to any depth that the blocks in them
need. -/
def VisitsAll (g : Graph) (ss : List Stmt) : Prop :=
  ∀ (n depth : Nat) (refs : List StmtRef) (names : List String), AreAt g n ss refs →
    blocksOfAll ss ≤ depth →
    (refs.map g.outline).mapM (g.spell.visitStmt (g.spell.visitBlock depth)) ⟨entered n, names⟩
      = outcome (literalFault (floatsOfAll ss)) (targetsOfAll n ss)
          ⟨entered (n + blocksOfAll ss), names⟩

theorem block_eq {n : Nat} {node : BlockNode} (h : g.blocks[n]? = some node) :
    g.block ⟨n⟩ = node := by
  rw [Graph.block, Graph.block?, h, Option.getD_some]

theorem spell_body {n : Nat} {refs : List StmtRef} {owner : Option FunctionRef} {outermost : Bool}
    (h : g.blocks[n]? = some ⟨⟨n⟩, refs, owner, outermost⟩) :
    g.spell.body ⟨n⟩ = refs.map g.outline := by
  rw [Spelled.body, Graph.spell, block_eq h]
  rfl

/-- A block is entered, and then its statements are walked. -/
theorem visit_block {body : List Stmt} (hall : VisitsAll g body) {n depth : Nat}
    {refs : List StmtRef} {owner : Option FunctionRef} (names : List String)
    (hblock : g.blocks[n]? = some ⟨⟨n⟩, refs, owner, false⟩) (hbody : AreAt g (n + 1) body refs)
    (hdepth : 1 + blocksOfAll body ≤ depth) :
    g.spell.visitBlock depth ⟨n⟩ ⟨entered n, names⟩
      = outcome (literalFault (floatsOfAll body))
          (.mk n (g.ownerName ⟨⟨n⟩, refs, owner, false⟩) (targetsOfAll (n + 1) body))
          ⟨entered (n + (1 + blocksOfAll body)), names⟩ := by
  obtain ⟨depth, rfl⟩ : ∃ d, depth = d + 1 := ⟨depth - 1, by omega⟩
  have hwalk := hall (n + 1) depth refs names hbody (by omega)
  rw [Nat.add_assoc n 1] at hwalk
  rw [Spelled.visitBlock, outcome_next (visit_enter n names), spell_body hblock, bind_pure_comp]
  have hnode : g.spell.graph.block ⟨n⟩ = ⟨⟨n⟩, refs, owner, false⟩ := block_eq hblock
  rw [hnode]
  exact outcome_map _ hwalk

/-- The statement that makes up a block is walked as the block. -/
theorem visit_nested {body : List Stmt} (hall : VisitsAll g body) {n depth : Nat}
    {refs : List StmtRef} {s : StmtRef} (names : List String)
    (hs : g.stmts[s.index]? = some (.block ⟨n⟩))
    (hblock : g.blocks[n]? = some ⟨⟨n⟩, refs, none, false⟩) (hbody : AreAt g (n + 1) body refs)
    (hdepth : 1 + blocksOfAll body ≤ depth) :
    g.spell.visitStmt (g.spell.visitBlock depth) (g.outline s) ⟨entered n, names⟩
      = outcome (literalFault (floatsOfAll body))
          (.block (.mk n none (targetsOfAll (n + 1) body)))
          ⟨entered (n + (1 + blocksOfAll body)), names⟩ := by
  rw [outline_eq hs (by simp [StmtNode.parts]), StmtNode.outline, Spelled.visitStmt]
  exact outcome_map _ (visit_block hall names hblock hbody hdepth)

/-- Without an `else` in the graph there is none in the tree. -/
theorem ElseIsAt.eq_none {n : Nat} {otherwise : Option Stmt} (h : ElseIsAt g n otherwise none) :
    otherwise = none := by
  cases otherwise with
  | none => rfl
  | some s =>
    obtain ⟨r, ho, -⟩ := h
    cases ho

/-- A condition, given the walks of its body and of what follows its `else`. -/
theorem visit_cond {test : Expr} {body : List Stmt} {otherwise : Option Stmt}
    (hall : VisitsAll g body) {n depth : Nat} {s : StmtRef} {names : List String}
    (helse : ∀ m o, ElseIsAt g m otherwise (some o) → blocksOfElse otherwise ≤ depth → ∃ t,
      targetOfElse m otherwise = some t ∧
      g.spell.visitStmt (g.spell.visitBlock depth) (g.outline o) ⟨entered m, names⟩
        = outcome (literalFault (floatsOfElse otherwise)) t
            ⟨entered (m + blocksOfElse otherwise), names⟩)
    (h : (Stmt.cond test body otherwise).IsAt g n s)
    (hdepth : (Stmt.cond test body otherwise).blocks ≤ depth) :
    g.spell.visitStmt (g.spell.visitBlock depth) (g.outline s) ⟨entered n, names⟩
      = outcome (literalFault (Stmt.cond test body otherwise).floats)
          ((Stmt.cond test body otherwise).target n)
          ⟨entered (n + (Stmt.cond test body otherwise).blocks), names⟩ := by
  obtain ⟨e, b, o, refs, hs, he, hlt, hb, hblock, hbody, ho⟩ := h
  simp only [Stmt.blocks] at hdepth ⊢
  have hbodyDepth : 1 + blocksOfAll body ≤ depth := by omega
  have hbranch := visit_nested hall names hb hblock hbody hbodyDepth
  cases o with
  | none =>
    have hparts : ∀ r ∈ (StmtNode.cond e b none).parts, r.index < s.index := by
      simpa [StmtNode.parts] using hlt
    obtain rfl := ho.eq_none
    rw [outline_eq hs hparts, StmtNode.outline, Spelled.visitStmt]
    simp only [bind_pure_comp]
    refine outcome_bind (visit_expr he _) (outcome_map _ hbranch) ?_
    simp [Stmt.floats, floatsOfElse, literalFault_append]
  | some o =>
    have hparts : ∀ r ∈ (StmtNode.cond e b (some o)).parts, r.index < s.index := by
      simpa [StmtNode.parts] using hlt
    obtain ⟨t, ht, hvisit⟩ := helse _ o ho (by omega)
    have htarget : (Stmt.cond test body otherwise).target n
        = .ifElse test.target (.block (.mk n none (targetsOfAll (n + 1) body))) t := by
      simp [Stmt.target, ht]
    rw [Nat.add_assoc n 1, Nat.add_assoc n] at hvisit
    rw [outline_eq hs hparts, StmtNode.outline, Spelled.visitStmt, htarget]
    simp only [bind_pure_comp]
    refine outcome_bind (visit_expr he _) (outcome_bind hbranch (outcome_map _ hvisit) rfl) ?_
    simp [Stmt.floats, literalFault_append]

mutual

/-- A lowered statement is walked without a fault other than its literals. -/
theorem Stmt.visit_eq {depth : Nat} {names : List String} : (s : Stmt) → {n : Nat} →
    {r : StmtRef} → s.IsAt g n r → s.blocks ≤ depth →
    g.spell.visitStmt (g.spell.visitBlock depth) (g.outline r) ⟨entered n, names⟩
      = outcome (literalFault s.floats) (s.target n) ⟨entered (n + s.blocks), names⟩
  | .bind b, n, r, ⟨v, hs, hb⟩, _ => by
    rw [outline_eq hs (by simp [StmtNode.parts])]
    exact visit_var hb _
  | .ret value, n, r, ⟨e, hs, he⟩, _ => by
    rw [outline_eq hs (by simp [StmtNode.parts])]
    exact outcome_map _ (visit_expr he _)
  | .cond test body otherwise, n, r, h, hdepth =>
    visit_cond (visitsAll body) (fun _ _ ho hdepth => visit_else otherwise ho hdepth) h hdepth
  | .loop test body, n, r, ⟨e, refs, hs, he, hblock, hbody⟩, hdepth => by
    rw [outline_eq hs (by simp [StmtNode.parts]), StmtNode.outline, Spelled.visitStmt]
    simp only [bind_pure_comp]
    have hwalk := visit_block (visitsAll body) names hblock hbody hdepth
    exact outcome_bind (visit_expr he _) (outcome_map _ hwalk) (literalFault_append _ _)
  | .count var first bound body, n, r, ⟨e, e', refs, hs, he, he', hblock, hbody⟩, hdepth => by
    rw [outline_eq hs (by simp [StmtNode.parts]), StmtNode.outline, Spelled.visitStmt]
    simp only [bind_pure_comp]
    have hwalk := visit_block (visitsAll body) names hblock hbody hdepth
    refine outcome_bind (visit_expr he _)
      (outcome_bind (visit_expr he' _) (outcome_map _ hwalk) rfl) ?_
    simp [Stmt.floats, literalFault_append]
  | .block body, n, r, ⟨refs, hs, hblock, hbody⟩, hdepth =>
    visit_nested (visitsAll body) names hs hblock hbody hdepth
  | .eval value, n, r, ⟨e, hs, he⟩, _ => by
    rw [outline_eq hs (by simp [StmtNode.parts])]
    exact outcome_map _ (visit_expr he _)

/-- What follows an `else` is walked as a statement. -/
theorem visit_else {depth : Nat} {names : List String} : (otherwise : Option Stmt) → {n : Nat} →
    {r : StmtRef} → ElseIsAt g n otherwise (some r) → blocksOfElse otherwise ≤ depth → ∃ t,
    targetOfElse n otherwise = some t ∧
    g.spell.visitStmt (g.spell.visitBlock depth) (g.outline r) ⟨entered n, names⟩
      = outcome (literalFault (floatsOfElse otherwise)) t
          ⟨entered (n + blocksOfElse otherwise), names⟩
  | none, n, r, h, _ => by cases h
  | some s, n, r, ⟨r', ho, hs⟩, hdepth => by
    cases ho
    exact ⟨s.target n, rfl, s.visit_eq hs hdepth⟩

/-- Lowered statements are walked one after the other. -/
theorem visitsAll : (ss : List Stmt) → VisitsAll g ss
  | [] => by
    rintro n depth _ names rfl _
    rfl
  | s :: ss => by
    rintro n depth _ names ⟨r, rs, rfl, hs, hss⟩ hdepth
    rw [blocksOfAll] at hdepth ⊢
    have hfirstDepth : s.blocks ≤ depth := by omega
    have hfirst :
        g.spell.visitStmt (g.spell.visitBlock depth) (g.outline r) ⟨entered n, names⟩ = _ :=
      s.visit_eq hs hfirstDepth
    have hrest := visitsAll ss (n + s.blocks) depth rs names hss (by omega)
    rw [List.map_cons, List.mapM_cons, ← Nat.add_assoc]
    simp only [bind_pure_comp]
    exact outcome_bind hfirst (outcome_map _ hrest) (literalFault_append _ _)

end

/-! ### Checkpoints -/

/-- A place of the tree where something can be wrong: the name of a function, as it is in
C++, or a floating-point literal. -/
inductive Checkpoint where
  | name (n : String)
  | literal (x : Binary64)
  deriving DecidableEq, Repr

/-- The checkpoints of a declaration, in order; a function's name comes before its body. -/
def Item.checkpoints : Item → List Checkpoint
  | .function f => .name (Cpp.mangle f.name) :: (floatsOfAll f.body).map .literal
  | .bind b => b.init.floats.map .literal

/-- The checkpoints of some declarations, in order. -/
def checkpoints (items : List Item) : List Checkpoint := items.flatMap Item.checkpoints

/-- The names in C++ of the function that a declaration declares, if it does. -/
def Item.names : Item → List String
  | .function f => [Cpp.mangle f.name]
  | .bind _ => []

/-- The names in C++ of the functions of a program, in order. -/
def functionNames (items : List Item) : List String := items.flatMap Item.names

/-- The first fault at some checkpoints, given the names that are taken. -/
def firstFault (names : List String) : List Checkpoint → Option Error
  | [] => none
  | .name n :: cs =>
      if Cpp.isBuiltinName n ∨ n ∈ names then some (.duplicateFunction n)
      else firstFault (n :: names) cs
  | .literal x :: cs =>
      if x.isFinite then firstFault names cs else some (.nonFiniteFloat x.text)

theorem firstFault_literals (names : List String) (xs : List Binary64) (cs : List Checkpoint) :
    firstFault names (xs.map .literal ++ cs) = (literalFault xs).or (firstFault names cs) := by
  induction xs with
  | nil => rfl
  | cons x xs ih =>
    cases hx : x.isFinite <;> simp [firstFault, literalFault, hx]
    simpa [literalFault] using ih

theorem firstFault_map_literal (names : List String) (xs : List Binary64) :
    firstFault names (xs.map .literal) = literalFault xs := by
  simpa [firstFault] using firstFault_literals names xs []

theorem firstFault_item (names : List String) (i : Item) (cs : List Checkpoint) :
    firstFault names (i.checkpoints ++ cs)
      = (firstFault names i.checkpoints).or (firstFault (i.names ++ names) cs) := by
  cases i with
  | bind b => simp [Item.checkpoints, Item.names, firstFault_literals, firstFault_map_literal]
  | function f =>
    simp only [Item.checkpoints, Item.names, List.cons_append, firstFault]
    split
    · rfl
    · simp [firstFault_literals, firstFault_map_literal]

/-! ### The walk of the top level -/

theorem visit_declare (name : String) (blocks : List BlockRef) (names : List String) :
    Visit.declare name ⟨blocks, names⟩
      = outcome (firstFault names [.name name]) () ⟨blocks, name :: names⟩ := by
  change (if Cpp.isBuiltinName name ∨ name ∈ names then _ else _ : Visit Unit) _ = _
  by_cases h : Cpp.isBuiltinName name ∨ name ∈ names
  · rw [if_pos h, firstFault, if_pos h]
    rfl
  · rw [if_neg h, firstFault, if_neg h]
    rfl

/-- A lowered declaration is walked with its checkpoints. -/
theorem Item.visit_eq {i : Item} {n depth : Nat} {r : StmtRef} (h : i.IsAt g n r)
    (hdepth : i.blocks ≤ depth) (names : List String) :
    g.spell.visitItem (g.spell.visitBlock depth) (g.outline r) ⟨entered n, names⟩
      = outcome (firstFault names i.checkpoints) (i.target n)
          ⟨entered (n + i.blocks), i.names ++ names⟩ := by
  cases i with
  | bind b =>
    obtain ⟨v, hs, hb⟩ := h
    rw [outline_eq hs (by simp [StmtNode.parts]), Item.checkpoints, firstFault_map_literal]
    exact outcome_map _ (visit_var hb _)
  | function f =>
    obtain ⟨r, refs, hs, hfunction, hblock, hbody⟩ := h
    have hnode : g.function r = ⟨Cpp.mangle f.name, f.params, f.result, ⟨n⟩⟩ := by
      rw [Graph.function, Graph.function?, hfunction, Option.getD_some]
    have howner : g.ownerName ⟨⟨n⟩, refs, some r, false⟩ = some (Cpp.mangle f.name) := by
      simp [Graph.ownerName, Graph.function?, hfunction]
    have hwalk := visit_block (visitsAll f.body) (Cpp.mangle f.name :: names) hblock hbody hdepth
    rw [howner] at hwalk
    rw [outline_eq hs (by simp [StmtNode.parts]), StmtNode.outline, Spelled.visitItem]
    simp only [bind_pure_comp, Graph.spell, hnode]
    refine outcome_bind (visit_declare _ _ names) (outcome_map _ hwalk) ?_
    rw [Item.checkpoints, firstFault, firstFault_map_literal]
    split
    · next hname => simp [firstFault, hname]
    · next hname => simp [firstFault, hname]

/-- Lowered declarations are walked one after the other. -/
theorem visit_items (is : List Item) {n depth : Nat} {refs : List StmtRef}
    (h : ItemsAreAt g n is refs) (hdepth : blocksOfItems is ≤ depth) (names : List String) :
    (refs.map g.outline).mapM (g.spell.visitItem (g.spell.visitBlock depth)) ⟨entered n, names⟩
      = outcome (firstFault names (checkpoints is)) (targetsOfItems n is)
          ⟨entered (n + blocksOfItems is), (functionNames is).reverse ++ names⟩ := by
  induction is generalizing n refs names with
  | nil =>
    obtain rfl := h
    rfl
  | cons i is ih =>
    obtain ⟨r, rs, rfl, hi, his⟩ := h
    rw [blocksOfItems] at hdepth ⊢
    have hfirstDepth : i.blocks ≤ depth := by omega
    have hfirst := Item.visit_eq hi hfirstDepth names
    have hrest := ih his (by omega) (i.names ++ names)
    have hnames : (functionNames (i :: is)).reverse ++ names
        = (functionNames is).reverse ++ (i.names ++ names) := by
      cases i <;> simp [functionNames, Item.names]
    rw [List.map_cons, List.mapM_cons, ← Nat.add_assoc, hnames]
    simp only [bind_pure_comp]
    exact outcome_bind hfirst (outcome_map _ hrest) (firstFault_item _ _ _)

/-! ### The check of a lowered program -/

theorem check_toProgram (items : List Item) : (toProgram items).check =
    match firstFault [] (checkpoints items) with
    | some e => .error e
    | none =>
      if "main__func__" ∈ functionNames items then
        .ok ⟨⟨targetsOfItems 1 items⟩, (functionNames items).length, 1 + blocksOfItems items⟩
      else .error (.missingEntryPoint "main") := by
  obtain ⟨refs, hroot, hblock, hitems, hsize⟩ := toProgram_isAt items
  have hdepth : blocksOfItems items ≤ (toProgram items).graph.blocks.size := by omega
  have hwalk := visit_items items hitems hdepth []
  have hvisit : ((toProgram items).graph.spell.visitRoot ⟨0⟩).run {}
      = outcome (firstFault [] (checkpoints items)) ⟨targetsOfItems 1 items⟩
          ⟨entered (1 + blocksOfItems items), (functionNames items).reverse ++ []⟩ := by
    rw [Spelled.visitRoot, StateT.run, spell_body hblock]
    exact (outcome_next (visit_enter 0 [])).trans (by
      simp only [bind_pure_comp]
      exact outcome_map _ hwalk)
  rw [Program.check, hroot, hvisit]
  cases firstFault [] (checkpoints items) with
  | some e => rfl
  | none =>
    have hentry : Cpp.mangle Cpp.entryPoint = "main__func__" := by decide
    simp only [outcome, bind, Except.bind, hentry, List.append_nil, List.mem_reverse,
      List.length_reverse, length_entered]
    rfl

end Ast

namespace Source

/-! ### Source files -/

/-- The floating-point literals of an expression, in order. -/
def Expr.floats (e : Expr) : List Binary64 := e.ast.floats

/-- The floating-point literals of some expressions. -/
def floatsOfArgs (es : List Expr) : List Binary64 := Ast.floatsOfArgs (astsOf es)

theorem Expr.floats_call (callee : String) (args : List Expr) :
    (Expr.call callee args).floats = floatsOfArgs args := rfl

theorem floatsOfArgs_cons (e : Expr) (es : List Expr) :
    floatsOfArgs (e :: es) = e.floats ++ floatsOfArgs es := rfl

/-- The floating-point literals of a statement, in order. -/
def Stmt.floats (s : Stmt) : List Binary64 := s.ast.floats

/-- The floating-point literals behind an `else`. -/
def Else.floats (o : Else) : List Binary64 := Ast.floatsOfElse o.ast

/-- The floating-point literals of some statements. -/
def floatsOfAll (ss : List Stmt) : List Binary64 := Ast.floatsOfAll (astsOfAll ss)

/-- The floating-point literals of a declaration at the top level. -/
def Item.floats (i : Item) : List Binary64 := i.ast.floats

/-- The checkpoints of some declarations, in order. -/
def checkpoints (items : List Item) : List Ast.Checkpoint := Ast.checkpoints (items.map Item.ast)

/-- The names in C++ of the functions of a program, in order. -/
def functionNames (items : List Item) : List String := Ast.functionNames (items.map Item.ast)

theorem functionNames_eq_flatMap (items : List Item) :
    functionNames items = items.flatMap fun i => i.ast.names := by
  rw [functionNames, Ast.functionNames, List.flatMap_map]

end Source

end ToyLang
