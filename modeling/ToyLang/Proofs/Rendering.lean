import ToyLang.Proofs.Arena
import ToyLang.Proofs.Validity
import ToyLang.Proofs.Writing

/-!
# Rendering writes the graph

The check of a program spells out a tree, and the text of a file is the text of this tree.  The
graph of an accepted program can also be written directly: this comes to an end, never meets a
variable without initial value, and gives the same text.  Where the check goes, writing goes as
well, so the proof follows the actions of the check and takes each of them as writing the nodes that
it walks.

## Main definitions

* `Visit.Yields` — an action of the check may come to this result.
* `Renders` — some parts are written with this text.

## Main results

* `renders_expr`, `renders_stmt`, `renders_block`, `renders_item` — each kind of node is written
  with the text of what the check makes of it.
* `Program.Built.exists_writes` — an accepted program is written, with the text of its file.
-/

namespace ToyLang

open ToyLang.Graph

/-! ### Results of the check -/

namespace Visit

/-- An action of the check comes to a result, whatever has been met before and after. -/
def Yields {α : Type} (m : Visit α) (a : α) : Prop := ∃ v v', m v = .ok (a, v')

namespace Yields

variable {α β : Type} {m : Visit α} {a a' : α} {b : β}

theorem bind {f : α → Visit β} (h : Yields (m >>= f) b) : ∃ a, Yields m a ∧ Yields (f a) b := by
  obtain ⟨v, v', h⟩ := h
  have hrun : (m v).bind (fun out => f out.1 out.2) = .ok (b, v') := h
  cases hm : m v with
  | error e =>
    rw [hm] at hrun
    cases hrun
  | ok out =>
    rw [hm] at hrun
    exact ⟨out.1, ⟨v, out.2, hm⟩, out.2, v', hrun⟩

theorem pure (h : Yields (Pure.pure a) a') : a = a' := by
  obtain ⟨v, v', h⟩ := h
  cases h
  rfl

theorem map {f : α → β} (h : Yields (f <$> m) b) : ∃ a, Yields m a ∧ f a = b := by
  rw [← bind_pure_comp] at h
  obtain ⟨a, ha, hb⟩ := h.bind
  exact ⟨a, ha, hb.pure⟩

theorem not_throw {e : Error} : ¬ Yields (throw e : Visit α) a := by
  rintro ⟨v, v', h⟩
  cases h

/-- The check leaves expressions as they are. -/
theorem expr {e e' : Cpp.Expr} (h : Yields (Visit.expr e) e') : e = e' := by
  rw [Visit.expr] at h
  split at h
  · exact absurd h not_throw
  · exact h.pure

theorem bind_expr {e : Cpp.Expr} {f : Cpp.Expr → Visit β} (h : Yields (Visit.expr e >>= f) b) :
    Yields (f e) b := by
  obtain ⟨e', he, h⟩ := h.bind
  rwa [he.expr]

theorem map_expr {e : Cpp.Expr} {f : Cpp.Expr → β} (h : Yields (f <$> Visit.expr e) b) :
    f e = b := by
  obtain ⟨e', he, h⟩ := h.map
  rwa [he.expr]

end Yields

end Visit

open Visit (Yields)

/-! ### Parts and their text -/

/-- Some parts are written, and the text of the pieces is this one. -/
def Renders (g : Graph) (parts : List Part) (text : String) : Prop :=
  ∃ ps, Writes g parts ps ∧ piecesText ps = text

namespace Renders

variable {g : Graph} {parts parts' inner : List Part} {h : Handle} {t t' : String}

theorem nil : Renders g [] "" := ⟨[], .nil, rfl⟩

theorem piece (p : Piece) (hrest : Renders g parts t) :
    Renders g (.piece p :: parts) (p.string ++ t) := by
  obtain ⟨ps, hw, rfl⟩ := hrest
  exact ⟨p :: ps, .piece hw, rfl⟩

theorem text (s : String) (hrest : Renders g parts t) : Renders g (.text s :: parts) (s ++ t) :=
  hrest.piece (.text s)

/-- A piece behind which nothing follows. -/
theorem last (p : Piece) : Renders g [.piece p] p.string := by
  simpa using nil.piece p

theorem append (hfirst : Renders g parts t) (hrest : Renders g parts' t') :
    Renders g (parts ++ parts') (t ++ t') := by
  obtain ⟨ps, hw, rfl⟩ := hfirst
  obtain ⟨ps', hw', rfl⟩ := hrest
  exact ⟨ps ++ ps', hw.append hw', piecesText_append ps ps'⟩

theorem node (hfirst : Renders g [.node h] t) (hrest : Renders g parts t') :
    Renders g (.node h :: parts) (t ++ t') := hfirst.append hrest

/-- A node has the text of its parts. -/
theorem of_template (htemplate : g.template h = .ok inner) (hinner : Renders g inner t) :
    Renders g [.node h] t := by
  obtain ⟨ps, hw, rfl⟩ := hinner
  refine ⟨ps, ?_, rfl⟩
  simpa using Writes.node htemplate hw .nil

end Renders

/-! ### Expressions -/

section

variable {g : Graph}

theorem renders_moreArgs {es : List ExprRef}
    (hes : ∀ e ∈ es, Renders g [.node (.expr e)] (g.tree e).text) :
    Renders g (moreArgParts es) (Cpp.moreArgsText (es.map g.tree)) := by
  induction es with
  | nil => exact .nil
  | cons e es ih =>
    have hrest := ih fun e' he' => hes e' (.tail _ he')
    simpa [moreArgParts, Cpp.moreArgsText, String.append_assoc]
      using Renders.text ", " ((hes e (.head _)).node hrest)

theorem renders_args {es : List ExprRef}
    (hes : ∀ e ∈ es, Renders g [.node (.expr e)] (g.tree e).text) :
    Renders g (argParts es) (Cpp.argsText (es.map g.tree)) := by
  cases es with
  | nil => exact .nil
  | cons e es =>
    exact (hes e (.head _)).node (renders_moreArgs fun e' he' => hes e' (.tail _ he'))

/-- Expressions hold earlier ones only, so every expression is written with the text of its tree, by
induction on its number. -/
theorem renders_expr (hg : g.Ordered) (e : ExprRef) (he : g.has (.expr e)) :
    Renders g [.node (.expr e)] (g.tree e).text := by
  obtain ⟨i⟩ := e
  induction i using Nat.strongRecOn with
  | _ i ih =>
    obtain ⟨node, hnode⟩ := exists_expr he
    have hbelow {e' : ExprRef} (he' : e' ∈ node.references) :
        Renders g [.node (.expr e')] (g.tree e').text := by
      have hmem : .expr e' ∈ g.children (.expr ⟨i⟩) := by
        rw [children_expr hnode]
        exact List.mem_map_of_mem he'
      exact ih e'.index (hg.expr_lt hmem) (hg.has_of_mem hmem)
    refine .of_template (template_expr_iff.mpr ⟨node, hnode, rfl⟩) ?_
    rw [hg.tree_eq hnode]
    cases node with
    | int value => exact .last _
    | float value => exact .last _
    | bool value => exact .last _
    | ident name => exact .last _
    | call callee args =>
      have hargs : Renders g (argParts args) (Cpp.argsText (args.map g.tree)) :=
        renders_args fun e' he' => hbelow he'
      simpa [ExprNode.tree, ExprNode.template, Cpp.Expr.text, Piece.string, String.append_assoc]
        using Renders.text callee (.text "(" (hargs.append (.last (.text ")"))))
    | arith lhs op rhs =>
      simpa [ExprNode.tree, ExprNode.template, Cpp.Expr.text, String.append_assoc]
        using (hbelow (.head _)).node (.text op.text (hbelow (.tail _ (.head _))))
    | compare lhs op rhs =>
      simpa [ExprNode.tree, ExprNode.template, Cpp.Expr.text, String.append_assoc]
        using (hbelow (.head _)).node (.text op.text (hbelow (.tail _ (.head _))))
    | assign target value =>
      simpa [ExprNode.tree, ExprNode.template, Cpp.Expr.text, String.append_assoc]
        using Renders.text target (.text " = " (hbelow (.head _)))
    | group inner =>
      simpa [ExprNode.tree, ExprNode.template, Cpp.Expr.text, Piece.string, String.append_assoc]
        using Renders.text "(" ((hbelow (.head _)).node (.last (.text ")")))

end

/-! ### Below the root -/

namespace Program

/-- A node is reached from the root block along a path that is not empty. -/
def Below (p : Program) (h : Handle) : Prop := ∃ i path, p.at? (i :: path) = some h

namespace Below

variable {p : Program} {h k : Handle}

theorem of_root (hk : k ∈ p.graph.children (.block p.root)) : p.Below k := by
  obtain ⟨i, hi⟩ := List.mem_iff_getElem?.mp hk
  exact ⟨i, [], follow_singleton.mpr hi⟩

theorem child (hh : p.Below h) (hk : k ∈ p.graph.children h) : p.Below k := by
  obtain ⟨i, path, hpath⟩ := hh
  obtain ⟨j, hj⟩ := List.mem_iff_getElem?.mp hk
  exact ⟨i, path ++ [j], follow_append.mpr ⟨h, hpath, follow_singleton.mpr hj⟩⟩

theorem has (hp : p.Built) (hh : p.Below h) : p.graph.has h := by
  obtain ⟨i, path, hpath⟩ := hh
  exact hp.ordered.has_of_follow hp.has_root hpath

end Below

/-- The root block is held by no block that is reached, as it would be reached along two paths. -/
theorem Sound.not_below_root {p : Program} (hp : p.Sound) : ¬ p.Below (.block p.root) := by
  rintro ⟨i, path, hpath⟩
  have hempty : p.at? [] = some (.block p.root) := rfl
  have hsame := hp.onePath hempty hpath
  cases hsame

/-- The root alone stands without braces, and the name in the braces of another block is the one
that the check puts there. -/
theorem Built.enclosure_eq {p : Program} (hp : p.Built) (b : BlockRef) :
    p.graph.enclosure (p.graph.block b) = .ok (if b = p.root then .bare
      else .braces (p.graph.ownerName (p.graph.block b))) := by
  have hmark : (p.graph.block b).outermost = true ↔ b = p.root := by
    rw [← hp.outermost_iff b, IsOutermost, Graph.block]
    cases p.graph.block? b <;> simp
  have howner : p.graph.owner? b = (p.graph.block b).owner := by
    rw [owner?, Graph.block]
    cases p.graph.block? b <;> simp
  rw [enclosure]
  by_cases hb : b = p.root
  · rw [if_pos (hmark.mpr hb), if_pos hb]
  · rw [if_neg (fun h => hb (hmark.mp h)), if_neg hb, ownerName]
    cases hf : (p.graph.block b).owner with
    | none => rfl
    | some f =>
      have hhas : p.graph.has (.function f) := hp.owned (howner.trans hf)
      simp [function?_eq hhas, Stop.found, Except.map]

/-- The parts of a block that exists. -/
theorem Built.template_block {p : Program} (hp : p.Built) {b : BlockRef}
    (hb : p.graph.has (.block b)) : p.graph.template (.block b) = .ok
      ((p.graph.block b).template b
        (if b = p.root then .bare else .braces (p.graph.ownerName (p.graph.block b)))) := by
  exact template_block_iff.mpr ⟨_, _, block?_eq hb, hp.enclosure_eq b, rfl⟩

/-- The parts of a block are those of its node, with what stands around it. -/
theorem Built.of_template_block {p : Program} (hp : p.Built) {b : BlockRef} {parts : List Part}
    (htemplate : p.graph.template (.block b) = .ok parts) :
    ∃ node, p.graph.block? b = some node ∧
      parts = node.template b (if b = p.root then .bare
        else .braces (p.graph.ownerName node)) := by
  obtain ⟨node, e, hb, henclosure, rfl⟩ := template_block_iff.mp htemplate
  have hnode : p.graph.block b = node := by rw [Graph.block, hb, Option.getD_some]
  have he := hp.enclosure_eq b
  rw [hnode, henclosure, Except.ok.injEq] at he
  exact ⟨node, hb, by rw [he]⟩

end Program

open Program

/-! ### Statements and blocks -/

@[simp] theorem Graph.spell_graph (g : Graph) : g.spell.graph = g := rfl

section

variable {p : Program} (hp : p.Built)

include hp

theorem renders_var {v : VarRef} {t : Cpp.Stmt} (hv : p.Below (.var v))
    (hyields : Yields (Visit.var p.graph.exprTrees (p.graph.var v)) t) :
    Renders p.graph [.node (.var v)] t.text := by
  have hhas : p.graph.has (.var v) := hv.has hp
  rw [Visit.var] at hyields
  cases hinit : (p.graph.var v).init with
  | none =>
    rw [hinit] at hyields
    exact absurd hyields Yields.not_throw
  | some init =>
    rw [hinit] at hyields
    obtain rfl := hyields.bind_expr.pure
    have hmem : .expr init ∈ p.graph.children (.var v) := by simp [children_var, hinit]
    have hexpr := renders_expr hp.ordered init (hp.ordered.has_of_mem hmem)
    refine .of_template (template_var_iff.mpr ⟨_, init, var?_eq hhas, hinit, rfl⟩) ?_
    simpa [VarNode.template, Graph.tree, Piece.string, String.append_assoc]
      using Renders.text (p.graph.var v).type (.text " " (.text (p.graph.var v).name
        (.text " = " (hexpr.node (.last (.text ";\n"))))))

/-- What the check makes of a block below the root is how the block is written. -/
def RendersBlocks (p : Program) (visitBlock : BlockRef → Visit Cpp.Block) : Prop :=
  ∀ b t, p.Below (.block b) → Yields (visitBlock b) t →
    Renders p.graph [.node (.block b)] t.text

/-- Statements are made of earlier ones, so the text of a statement is described by induction on its
number. -/
theorem renders_stmt {visitBlock : BlockRef → Visit Cpp.Block}
    (hblocks : RendersBlocks p visitBlock) {s : StmtRef} {t : Cpp.Stmt} (hs : p.Below (.stmt s))
    (hyields : Yields (p.graph.spell.visitStmt visitBlock (p.graph.outline s)) t) :
    Renders p.graph [.node (.stmt s)] t.text := by
  obtain ⟨i⟩ := s
  induction i using Nat.strongRecOn generalizing t with
  | _ i ih =>
    have hhas : p.graph.has (.stmt ⟨i⟩) := hs.has hp
    obtain ⟨node, hnode⟩ := exists_stmt hhas
    have hbelow {k : Handle} (hk : k ∈ node.references) : p.Below k :=
      hs.child (by rwa [children_stmt hnode])
    have hexpr {e : ExprRef} (hk : .expr e ∈ node.references) :
        Renders p.graph [.node (.expr e)] (p.graph.tree e).text :=
      renders_expr hp.ordered e ((hbelow hk).has hp)
    have hpart {r : StmtRef} {t : Cpp.Stmt} (hk : .stmt r ∈ node.references)
        (ht : Yields (p.graph.spell.visitStmt visitBlock (p.graph.outline r)) t) :
        Renders p.graph [.node (.stmt r)] t.text :=
      ih r.index (hp.ordered.part_lt hnode hk) (hbelow hk) ht
    refine .of_template (template_stmt_iff.mpr ⟨node, hnode, rfl⟩) ?_
    rw [hp.ordered.outline_eq hnode] at hyields
    cases node with
    | eval value =>
      obtain rfl := hyields.map_expr
      exact (hexpr (.head _)).node (.last (.text ";\n"))
    | ret value =>
      obtain rfl := hyields.map_expr
      simpa [StmtNode.template, Piece.string, String.append_assoc]
        using Renders.text "return " ((hexpr (.head _)).node (.last (.text ";\n")))
    | var v => exact renders_var hp (hbelow (.head _)) hyields
    | function f =>
      -- Below the top level the check stops at a function, so there is no text to compare with.
      exact absurd hyields Yields.not_throw
    | block body =>
      obtain ⟨b, hb, rfl⟩ := hyields.map
      exact hblocks body b (hbelow (.head _)) hb
    | cond test body otherwise =>
      cases otherwise with
      | none =>
        obtain ⟨t₁, ht₁, hyields⟩ := hyields.bind_expr.bind
        obtain rfl := hyields.pure
        simpa [StmtNode.template, String.append_assoc]
          using Renders.text "\nif (" ((hexpr (.head _)).node (.text ")"
            (hpart (.tail _ (.head _)) ht₁)))
      | some otherwise =>
        obtain ⟨t₁, ht₁, hyields⟩ := hyields.bind_expr.bind
        obtain ⟨t₂, ht₂, hyields⟩ := hyields.bind
        obtain rfl := hyields.pure
        simpa [StmtNode.template, String.append_assoc]
          using Renders.text "\nif (" ((hexpr (.head _)).node (.text ")"
            ((hpart (.tail _ (.head _)) ht₁).node (.text "else"
              (hpart (.tail _ (.tail _ (.head _))) ht₂)))))
    | loop test body =>
      obtain ⟨b, hb, hyields⟩ := hyields.bind_expr.bind
      obtain rfl := hyields.pure
      simpa [StmtNode.template, String.append_assoc]
        using Renders.text "while (" ((hexpr (.head _)).node (.text ")"
          (hblocks body b (hbelow (.tail _ (.head _))) hb)))
    | count counter first bound body =>
      obtain ⟨b, hb, hyields⟩ := hyields.bind_expr.bind_expr.bind
      obtain rfl := hyields.pure
      have hbody := hblocks body b (hbelow (.tail _ (.tail _ (.head _)))) hb
      simpa [StmtNode.template, String.append_assoc]
        using Renders.text "for (long long " (.text counter (.text " = " ((hexpr (.head _)).node
          (.text "; " (.text counter (.text " < " ((hexpr (.tail _ (.head _))).node
            (.text "; ++" (.text counter (.text ")" hbody))))))))))

omit hp in
/-- The statements of a block are written one after the other. -/
theorem renders_body {τ : Type} {visit : Outline → Visit τ} (one : τ → String)
    (all : List τ → String) (hnil : all [] = "") (hcons : ∀ t ts, all (t :: ts) = one t ++ all ts)
    {ss : List StmtRef} {ts : List τ} (hone : ∀ s ∈ ss, ∀ t, Yields (visit (p.graph.outline s)) t →
      Renders p.graph [.node (.stmt s)] (one t))
    (hyields : Yields ((ss.map p.graph.outline).mapM visit) ts) :
    Renders p.graph (ss.map fun s => .node (.stmt s)) (all ts) := by
  induction ss generalizing ts with
  | nil =>
    rw [List.map_nil, List.mapM_nil] at hyields
    obtain rfl := hyields.pure
    rw [hnil]
    exact .nil
  | cons s ss ih =>
    rw [List.map_cons, List.mapM_cons] at hyields
    obtain ⟨t, ht, hyields⟩ := hyields.bind
    obtain ⟨ts', hts', hyields⟩ := hyields.bind
    obtain rfl := hyields.pure
    rw [hcons]
    exact (hone s (.head _) t ht).node (ih (fun s' hs' => hone s' (.tail _ hs')) hts')

/-- Blocks below the root, by induction on how deep they may be nested. -/
theorem renders_block (hsound : p.Sound) (depth : Nat) :
    RendersBlocks p (p.graph.spell.visitBlock depth) := by
  induction depth with
  | zero =>
    intro b t hb hyields
    exact absurd hyields Yields.not_throw
  | succ depth ih =>
    intro b t hb hyields
    have hroot : b ≠ p.root := by
      rintro rfl
      exact hsound.not_below_root hb
    rw [Spelled.visitBlock] at hyields
    obtain ⟨-, -, hyields⟩ := hyields.bind
    obtain ⟨ts, hts, hyields⟩ := hyields.bind
    obtain rfl := hyields.pure
    have hbody := renders_body Cpp.Stmt.text Cpp.stmtsText rfl (fun _ _ => rfl)
      (fun s hs t ht => renders_stmt hp ih (hb.child (mem_children_block hs)) ht) hts
    refine .of_template (hp.template_block (hb.has hp)) ?_
    -- Only the mark of the root leaves braces out, and the root is not below itself.
    rw [if_neg hroot, Graph.spell_graph, hp.numbered b _ (block?_eq (hb.has hp))]
    simpa [BlockNode.template, Cpp.Block.text_mk, Piece.string, String.append_assoc]
      using Renders.piece (.opened b (.braces (p.graph.ownerName (p.graph.block b))))
        (hbody.append (.last (.closed b (.braces (p.graph.ownerName (p.graph.block b))))))

/-! ### The top level -/

theorem renders_item {visitBlock : BlockRef → Visit Cpp.Block}
    (hblocks : RendersBlocks p visitBlock) {s : StmtRef} {t : Cpp.Item} (hs : p.Below (.stmt s))
    (hyields : Yields (p.graph.spell.visitItem visitBlock (p.graph.outline s)) t) :
    Renders p.graph [.node (.stmt s)] t.text := by
  have hhas : p.graph.has (.stmt s) := hs.has hp
  obtain ⟨node, hnode⟩ := exists_stmt hhas
  by_cases hfunction : ∃ f, node = .function f
  · obtain ⟨f, rfl⟩ := hfunction
    have hf : p.Below (.function f) := hs.child (by simp [children_stmt hnode, StmtNode.references])
    have hfhas : p.graph.has (.function f) := hf.has hp
    have hbody : p.Below (.block (p.graph.function f).body) :=
      hf.child (by simp [children_function hfhas])
    rw [hp.ordered.outline_eq hnode] at hyields
    obtain ⟨-, -, hyields⟩ := hyields.bind
    obtain ⟨b, hb, hyields⟩ := hyields.bind
    obtain rfl := hyields.pure
    -- The statement is written as its function, and this as a head with the body behind it.
    refine .of_template (template_stmt_iff.mpr ⟨_, hnode, rfl⟩) ?_
    refine .of_template (template_function_iff.mpr ⟨_, function?_eq hfhas, rfl⟩) ?_
    have hblock := hblocks _ b hbody hb
    simpa [FunctionNode.template, Cpp.Item.text, Cpp.Function.text, Piece.string,
      String.append_assoc]
      using Renders.text (p.graph.function f).result (.text " "
        (.piece (.defined (p.graph.function f).name) (.text "("
          (.text (Cpp.paramsText (p.graph.function f).params) (.text ")"
            (hblock.node (.last (.text "\n"))))))))
  · rw [visitItem_of_not_function hp.ordered hnode fun f hf => hfunction ⟨f, hf⟩] at hyields
    obtain ⟨t, ht, rfl⟩ := hyields.map
    exact renders_stmt hp hblocks hs ht

theorem renders_root (hsound : p.Sound) {file : Cpp.File}
    (hyields : Yields (p.graph.spell.visitRoot p.root) file) :
    Renders p.graph [.node (.block p.root)] ("\n\n" ++ Cpp.itemsText file.items ++ "\n") := by
  rw [Spelled.visitRoot] at hyields
  obtain ⟨-, -, hyields⟩ := hyields.bind
  obtain ⟨ts, hts, hyields⟩ := hyields.bind
  obtain rfl := hyields.pure
  have hbody := renders_body Cpp.Item.text Cpp.itemsText rfl (fun _ _ => rfl)
    (fun s hs t ht =>
      renders_item hp (renders_block hp hsound _) (.of_root (mem_children_block hs)) ht) hts
  refine .of_template (hp.template_block hp.has_root) ?_
  rw [if_pos rfl]
  simpa [BlockNode.template, Piece.string, String.append_assoc]
    using Renders.piece (.opened p.root .bare) (hbody.append (.last (.closed p.root .bare)))

omit hp in
theorem yields_of_check {c : Checked} (hcheck : p.check = .ok c) :
    Yields (p.graph.spell.visitRoot p.root) c.file := by
  rw [Program.check, StateT.run] at hcheck
  cases hvisit : p.graph.spell.visitRoot p.root {} with
  | error e =>
    rw [hvisit] at hcheck
    cases hcheck
  | ok out =>
    rw [hvisit] at hcheck
    simp only [bind, Except.bind] at hcheck
    split at hcheck
    · cases hcheck
      exact ⟨{}, out.2, hvisit⟩
    · cases hcheck

theorem Program.Built.valid_of_check {c : Checked} (hcheck : p.check = .ok c) : p.Valid := by
  rcases hp.ordered.check_cases hp.has_root with ⟨e, herror, -⟩ | ⟨c', -, hvalid, -⟩
  · rw [herror] at hcheck
    cases hcheck
  · exact hvalid

/-- A program that is accepted is written, and the text is that of the file that the check makes. -/
theorem Program.Built.exists_writes (hsound : p.Sound) {c : Checked} (hcheck : p.check = .ok c) :
    ∃ ps, Writes p.graph [.node (.block p.root)] ps ∧
      p.render.result = .ok (piecesText (Cpp.openingPieces ++ ps ++ Cpp.closingPieces)) := by
  obtain ⟨ps, hw, htext⟩ := renders_root hp hsound (yields_of_check hcheck)
  refine ⟨ps, hw, ?_⟩
  rw [Program.render, Program.checkLogged, hcheck, piecesText_append, piecesText_append, htext,
    Cpp.piecesText_openingPieces, Cpp.piecesText_closingPieces]
  simp [Cpp.File.text, Except.map, String.append_assoc]

end

end ToyLang
