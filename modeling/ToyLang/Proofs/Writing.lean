import ToyLang.Cpp.Render
import ToyLang.Proofs.Preorder

/-!
# Writing a graph directly

A program can be written from its graph alone, with no check before it.  A node is written as pieces
of text with the nodes that it holds between them, and each of these nodes is written in its place.
Nothing keeps such a writer from a block that holds itself, from a variable without initial value or
from a number that no node has; so it is given a budget of levels, and it may stop.

## Main definitions

* `Piece` — what is written at once: among other things the braces of a block and the name of a
  function that is defined.
* `Graph.template` — the pieces and the nodes that a node is written as.
* `Graph.write`, `Program.write` — the pieces of a node and of a file, within a budget.
* `Writes` — the same without a budget.

## Main results

* `Writes.exists_budget` — what is written is written within every budget that is large enough.
* `Writes.mem_iff` — what is written is what the nodes at the ends of paths are written as.
* `Writes.nodup` — what is written at the end of one path only is written once.
* `Writes.once_node` — both together, for what a node has one of at most.
-/

namespace ToyLang

/-! ### Pieces -/

/-- What stands around the statements of a block: empty lines, or braces that carry the name of the
function whose body the block is. -/
inductive Enclosure where
  | bare
  | braces (owner : Option String)
  deriving DecidableEq

/-- What is written at once.  A floating-point literal, the name of a function where it is defined,
the name of the function that the generated entry point calls and the two ends of a block are
pieces of their own. -/
inductive Piece where
  | text (s : String)
  | float (x : Binary64)
  | defined (name : String)
  | started (name : String)
  | opened (b : BlockRef) (e : Enclosure)
  | closed (b : BlockRef) (e : Enclosure)
  deriving DecidableEq

namespace Piece

/-- The text of a piece. -/
def string : Piece → String
  | text s => s
  | float x => x.text
  | defined name => name
  | started name => name
  | opened _ .bare => "\n\n"
  | opened b (.braces owner) => "\n" ++ Cpp.openBrace b.index owner ++ "\n"
  | closed _ .bare => "\n"
  | closed b (.braces owner) => Cpp.closeBrace b.index owner ++ "\n"

/-! The root has no braces, only line breaks.  The braces of any other block stand in lines of their
own; the closing one is labelled with the owner if there is one, and otherwise both are labelled
with the number of the block. -/

section

variable (b : BlockRef) (owner : String)

@[simp] theorem string_opened_bare : (opened b .bare).string = "\n\n" := rfl

@[simp] theorem string_closed_bare : (closed b .bare).string = "\n" := rfl

@[simp] theorem string_opened_numbered :
    (opened b (.braces none)).string = "\n\x7b // start: " ++ toString b.index ++ "\n" := by
  rw [string, Cpp.openBrace, ← String.append_assoc]
  rfl

@[simp] theorem string_closed_numbered :
    (closed b (.braces none)).string = "\x7d // end: " ++ toString b.index ++ "\n" := rfl

@[simp] theorem string_opened_owned : (opened b (.braces (some owner))).string = "\n\x7b\n" := rfl

@[simp] theorem string_closed_owned :
    (closed b (.braces (some owner))).string = "\x7d // end: " ++ owner ++ "\n" := rfl

end

/-- The literal that a piece is. -/
def float? : Piece → Option Binary64
  | float x => some x
  | _ => none

/-- The name of the function that a piece begins to define. -/
def defined? : Piece → Option String
  | defined name => some name
  | _ => none

/-- The name of the function that the generated entry point calls. -/
def started? : Piece → Option String
  | started name => some name
  | _ => none

/-- The block that a piece opens. -/
def opened? : Piece → Option BlockRef
  | opened b _ => some b
  | _ => none

/-- The block that a piece closes. -/
def closed? : Piece → Option BlockRef
  | closed b _ => some b
  | _ => none

/-- The block that a piece opens or closes, and what stands around it. -/
def enclosed? : Piece → Option (BlockRef × Enclosure)
  | opened b e => some (b, e)
  | closed b e => some (b, e)
  | _ => none

end Piece

/-- The text of some pieces. -/
def piecesText : List Piece → String
  | [] => ""
  | p :: ps => p.string ++ piecesText ps

@[simp] theorem piecesText_nil : piecesText [] = "" := rfl

@[simp] theorem piecesText_cons (p : Piece) (ps : List Piece) :
    piecesText (p :: ps) = p.string ++ piecesText ps := rfl

@[simp] theorem piecesText_append (ps ps' : List Piece) :
    piecesText (ps ++ ps') = piecesText ps ++ piecesText ps' := by
  induction ps with
  | nil => simp
  | cons p ps ih => simp [ih, String.append_assoc]

/-! ### Templates -/

/-- A part of what a node is written as: a piece, or a node that is written in its place. -/
inductive Part where
  | piece (p : Piece)
  | node (h : Handle)

namespace Part

/-- A part that is plain text. -/
abbrev text (s : String) : Part := .piece (.text s)

/-- The piece that a part is. -/
def piece? : Part → Option Piece
  | piece p => some p
  | node _ => none

/-- The node that a part is. -/
def node? : Part → Option Handle
  | piece _ => none
  | node h => some h

end Part

/-- The pieces among some parts. -/
def own (parts : List Part) : List Piece := parts.filterMap Part.piece?

/-- The nodes among some parts. -/
def held (parts : List Part) : List Handle := parts.filterMap Part.node?

section

variable (p : Piece) (h : Handle) (parts parts' : List Part)

@[simp] theorem own_nil : own [] = [] := rfl

@[simp] theorem own_piece : own (.piece p :: parts) = p :: own parts := rfl

@[simp] theorem own_node : own (.node h :: parts) = own parts := rfl

@[simp] theorem own_append : own (parts ++ parts') = own parts ++ own parts' :=
  List.filterMap_append

@[simp] theorem held_nil : held [] = [] := rfl

@[simp] theorem held_piece : held (.piece p :: parts) = held parts := rfl

@[simp] theorem held_node : held (.node h :: parts) = h :: held parts := rfl

@[simp] theorem held_append : held (parts ++ parts') = held parts ++ held parts' :=
  List.filterMap_append

end

/-- Arguments, each after a comma. -/
def moreArgParts : List ExprRef → List Part
  | [] => []
  | e :: es => .text ", " :: .node (.expr e) :: moreArgParts es

/-- Arguments with commas between them. -/
def argParts : List ExprRef → List Part
  | [] => []
  | e :: es => .node (.expr e) :: moreArgParts es

/-- The parts of an expression. -/
def ExprNode.template : ExprNode → List Part
  | int value => [.text (toString value.toInt)]
  | float value => [.piece (.float value)]
  | bool value => [.text (Cpp.boolText value)]
  | ident name => [.text name]
  | call callee args => .text callee :: .text "(" :: argParts args ++ [.text ")"]
  | arith lhs op rhs => [.node (.expr lhs), .text op.text, .node (.expr rhs)]
  | compare lhs op rhs => [.node (.expr lhs), .text op.text, .node (.expr rhs)]
  | assign target value => [.text target, .text " = ", .node (.expr value)]
  | group inner => [.text "(", .node (.expr inner), .text ")"]

/-- The parts of a statement. -/
def StmtNode.template : StmtNode → List Part
  | eval value => [.node (.expr value), .text ";\n"]
  | ret value => [.text "return ", .node (.expr value), .text ";\n"]
  | var v => [.node (.var v)]
  | function f => [.node (.function f)]
  | block body => [.node (.block body)]
  | cond test body none =>
      [.text "\nif (", .node (.expr test), .text ")", .node (.stmt body)]
  | cond test body (some otherwise) =>
      [.text "\nif (", .node (.expr test), .text ")", .node (.stmt body), .text "else",
        .node (.stmt otherwise)]
  | loop test body => [.text "while (", .node (.expr test), .text ")", .node (.block body)]
  | count counter first bound body =>
      [.text "for (long long ", .text counter, .text " = ", .node (.expr first), .text "; ",
        .text counter, .text " < ", .node (.expr bound), .text "; ++", .text counter, .text ")",
        .node (.block body)]

/-- The parts of a variable with an initial value. -/
def VarNode.template (node : VarNode) (init : ExprRef) : List Part :=
  [.text node.type, .text " ", .text node.name, .text " = ", .node (.expr init), .text ";\n"]

/-- The parts of a function. -/
def FunctionNode.template (node : FunctionNode) : List Part :=
  [.text node.result, .text " ", .piece (.defined node.name), .text "(",
    .text (Cpp.paramsText node.params), .text ")", .node (.block node.body), .text "\n"]

/-- The parts of a block. -/
def BlockNode.template (node : BlockNode) (b : BlockRef) (e : Enclosure) : List Part :=
  .piece (.opened b e) :: node.stmts.map (fun s => .node (.stmt s)) ++ [.piece (.closed b e)]

/-- Why writing stops. -/
inductive Stop where
  /-- The budget of levels is used up. -/
  | deep
  /-- No node has this number. -/
  | absent (h : Handle)
  /-- A variable has no initial value. -/
  | uninitialised (v : VarRef)
  deriving DecidableEq

/-- The outcome of looking a node up. -/
def Stop.found {α : Type} (h : Handle) : Option α → Except Stop α
  | none => .error (.absent h)
  | some node => .ok node

namespace Graph

/-- What stands around a block.  The function that owns it is looked up for its name. -/
def enclosure (g : Graph) (node : BlockNode) : Except Stop Enclosure :=
  if node.outermost then .ok .bare
  else
    match node.owner with
    | none => .ok (.braces none)
    | some f =>
        (Stop.found (.function f) (g.function? f)).map fun owner => .braces (some owner.name)

/-- The parts of a node. -/
def template (g : Graph) : Handle → Except Stop (List Part)
  | .expr e => (Stop.found (.expr e) (g.expr? e)).map ExprNode.template
  | .stmt s => (Stop.found (.stmt s) (g.stmt? s)).map StmtNode.template
  | .block b => do
      let node ← Stop.found (.block b) (g.block? b)
      let e ← g.enclosure node
      pure (node.template b e)
  | .var v => do
      let node ← Stop.found (.var v) (g.var? v)
      match node.init with
      | none => throw (.uninitialised v)
      | some init => pure (node.template init)
  | .function f => (Stop.found (.function f) (g.function? f)).map FunctionNode.template

end Graph

/-! ### Writing -/

/-- The pieces of some parts, given the pieces of a node. -/
def writeParts (node : Handle → Except Stop (List Piece)) : List Part → Except Stop (List Piece)
  | [] => .ok []
  | .piece p :: parts => do
      let rest ← writeParts node parts
      pure (p :: rest)
  | .node h :: parts => do
      let first ← node h
      let rest ← writeParts node parts
      pure (first ++ rest)

/-- The pieces of a node, with nodes nested no deeper than the budget. -/
def Graph.write (g : Graph) : (budget : Nat) → Handle → Except Stop (List Piece)
  | 0, _ => .error .deep
  | budget + 1, h => do
      let parts ← g.template h
      writeParts (g.write budget) parts

/-- The definition of a builtin function in pieces. -/
def Cpp.Builtin.pieces (b : Builtin) : List Piece :=
  [.text "void ", .defined b.name, .text "(", .text b.argumentType, .text " arg) \x7b\n",
    .text "std::cout << arg << std::endl;\n", .text "\x7d\n"]

/-- What every file begins with, in pieces. -/
def Cpp.openingPieces : List Piece :=
  .text "#include <iostream>\n\n" :: [.text "\n"].intercalate (Builtin.all.map Builtin.pieces)

/-- What every file ends with, in pieces. -/
def Cpp.closingPieces : List Piece :=
  [.text "int ", .defined "main", .text "(int argc, char** argv) \x7b\n",
    .started (mangle entryPoint), .text "();\n", .text "return 0;\n", .text "\x7d\n"]

/-- The pieces of a file: its root block between what every file begins and ends with. -/
def Program.write (p : Program) (budget : Nat) : Except Stop (List Piece) :=
  (p.graph.write budget (.block p.root)).map fun ps =>
    Cpp.openingPieces ++ ps ++ Cpp.closingPieces

theorem Cpp.piecesText_openingPieces : piecesText openingPieces = opening := by
  rfl

theorem Cpp.piecesText_closingPieces : piecesText closingPieces = closing := by
  decide

/-! ### Templates and what a node holds -/

namespace Graph

variable {g : Graph} {parts : List Part}

theorem template_expr_iff {e : ExprRef} : g.template (.expr e) = .ok parts ↔
    ∃ node, g.expr? e = some node ∧ node.template = parts := by
  rw [template]
  cases g.expr? e <;> simp [Stop.found, Except.map]

theorem template_stmt_iff {s : StmtRef} : g.template (.stmt s) = .ok parts ↔
    ∃ node, g.stmt? s = some node ∧ node.template = parts := by
  rw [template]
  cases g.stmt? s <;> simp [Stop.found, Except.map]

theorem template_function_iff {f : FunctionRef} : g.template (.function f) = .ok parts ↔
    ∃ node, g.function? f = some node ∧ node.template = parts := by
  rw [template]
  cases g.function? f <;> simp [Stop.found, Except.map]

theorem template_var_iff {v : VarRef} : g.template (.var v) = .ok parts ↔
    ∃ node init, g.var? v = some node ∧ node.init = some init ∧ node.template init = parts := by
  rw [template]
  cases g.var? v with
  | none => simp [Stop.found, bind, Except.bind]
  | some node =>
    cases hinit : node.init <;>
      simp [Stop.found, bind, Except.bind, hinit, pure, Except.pure, throw, throwThe,
        MonadExceptOf.throw]

theorem template_block_iff {b : BlockRef} : g.template (.block b) = .ok parts ↔
    ∃ node e, g.block? b = some node ∧ g.enclosure node = .ok e ∧ node.template b e = parts := by
  rw [template]
  cases g.block? b with
  | none => simp [Stop.found, bind, Except.bind]
  | some node =>
    cases henclosure : g.enclosure node <;>
      simp [Stop.found, bind, Except.bind, henclosure, pure, Except.pure]

theorem held_moreArgParts (es : List ExprRef) : held (moreArgParts es) = es.map .expr := by
  induction es with
  | nil => rfl
  | cons e es ih => simp [moreArgParts, ih]

theorem held_argParts (es : List ExprRef) : held (argParts es) = es.map .expr := by
  cases es with
  | nil => rfl
  | cons e es => simp [argParts, held_moreArgParts]

theorem held_stmts (ss : List StmtRef) :
    held (ss.map fun s => .node (.stmt s)) = ss.map .stmt := by
  induction ss with
  | nil => rfl
  | cons s ss ih => simp [ih]

/-- The nodes of a template are what the node holds. -/
theorem held_template {h : Handle} (htemplate : g.template h = .ok parts) :
    held parts = g.children h := by
  cases h with
  | expr e =>
    obtain ⟨node, hnode, rfl⟩ := template_expr_iff.mp htemplate
    rw [children_expr hnode]
    cases node <;> simp [ExprNode.template, ExprNode.references, held_argParts]
  | stmt s =>
    obtain ⟨node, hnode, rfl⟩ := template_stmt_iff.mp htemplate
    rw [children_stmt hnode]
    cases node with
    | cond test body otherwise =>
      cases otherwise <;> simp [StmtNode.template, StmtNode.references]
    | _ => simp [StmtNode.template, StmtNode.references]
  | block b =>
    obtain ⟨node, e, hnode, -, rfl⟩ := template_block_iff.mp htemplate
    simp [children, hnode, BlockNode.template, held_stmts]
  | var v =>
    obtain ⟨node, init, hnode, hinit, rfl⟩ := template_var_iff.mp htemplate
    simp [children, hnode, hinit, VarNode.template]
  | function f =>
    obtain ⟨node, hnode, rfl⟩ := template_function_iff.mp htemplate
    simp [children, hnode, FunctionNode.template]

/-! ### Marks -/

/-- The pieces of a node that are not plain text. -/
def marks (g : Graph) : Handle → List Piece
  | .expr e =>
      match g.expr? e with
      | some (.float x) => [.float x]
      | _ => []
  | .block b =>
      match g.enclosure (g.block b) with
      | .ok e => [.opened b e, .closed b e]
      | .error _ => []
  | .function f => [.defined (g.function f).name]
  | .stmt _ | .var _ => []

/-- Which pieces a node can have that are not plain text. -/
theorem marks_cases {h : Handle} {a : Piece} (ha : a ∈ g.marks h) :
    (∃ e x, h = .expr e ∧ g.expr? e = some (.float x) ∧ a = .float x) ∨
    (∃ f, h = .function f ∧ a = .defined (g.function f).name) ∨
    ∃ b e, h = .block b ∧ g.enclosure (g.block b) = .ok e ∧
      (a = .opened b e ∨ a = .closed b e) := by
  cases h with
  | expr e =>
    rw [marks] at ha
    split at ha
    · next x hx => exact .inl ⟨e, x, rfl, hx, List.mem_singleton.mp ha⟩
    · cases ha
  | function f => exact .inr (.inl ⟨f, rfl, List.mem_singleton.mp ha⟩)
  | block b =>
    rw [marks] at ha
    split at ha
    · next e he => exact .inr (.inr ⟨b, e, rfl, he, by simpa using ha⟩)
    · cases ha
  | stmt s => cases ha
  | var v => cases ha

end Graph

open ToyLang.Graph

section

variable {g : Graph} {α : Type} {sel : Piece → Option α} (hsel : ∀ s, sel (.text s) = none)

include hsel

theorem selected_argParts (es : List ExprRef) : (own (argParts es)).filterMap sel = [] := by
  have hmore (es : List ExprRef) : (own (moreArgParts es)).filterMap sel = [] := by
    induction es with
    | nil => rfl
    | cons e es ih => simp [moreArgParts, hsel, ih]
  cases es with
  | nil => rfl
  | cons e es => simp [argParts, hmore]

/-- Apart from plain text, the pieces of a template are the marks of the node. -/
theorem selected_template {h : Handle} {parts : List Part} (htemplate : g.template h = .ok parts) :
    (own parts).filterMap sel = (g.marks h).filterMap sel := by
  cases h with
  | expr e =>
    obtain ⟨node, hnode, rfl⟩ := template_expr_iff.mp htemplate
    cases node <;> simp [marks, hnode, ExprNode.template, hsel, selected_argParts hsel]
  | stmt s =>
    obtain ⟨node, -, rfl⟩ := template_stmt_iff.mp htemplate
    cases node with
    | cond test body otherwise => cases otherwise <;> simp [marks, StmtNode.template, hsel]
    | _ => simp [marks, StmtNode.template, hsel]
  | block b =>
    obtain ⟨node, e, hnode, henclosure, rfl⟩ := template_block_iff.mp htemplate
    have hstmts : own (node.stmts.map fun s => .node (.stmt s)) = [] := by
      rw [own, List.filterMap_map]
      exact List.filterMap_eq_nil_iff.mpr fun _ _ => rfl
    simp [marks, Graph.block, hnode, henclosure, BlockNode.template, hstmts]
  | var v =>
    obtain ⟨node, init, -, -, rfl⟩ := template_var_iff.mp htemplate
    simp [marks, VarNode.template, hsel]
  | function f =>
    obtain ⟨node, hnode, rfl⟩ := template_function_iff.mp htemplate
    simp [marks, Graph.function, hnode, FunctionNode.template, hsel, List.filterMap_cons]

end

/-! ### Writing without a budget -/

/-- Some parts are written as some pieces. -/
inductive Writes (g : Graph) : List Part → List Piece → Prop
  /-- Nothing is left. -/
  | nil : Writes g [] []
  /-- A piece stands for itself. -/
  | piece {p parts ps} (hrest : Writes g parts ps) : Writes g (.piece p :: parts) (p :: ps)
  /-- A node is written as its parts are. -/
  | node {h inner first parts rest} (htemplate : g.template h = .ok inner)
      (hinner : Writes g inner first) (hrest : Writes g parts rest) :
      Writes g (.node h :: parts) (first ++ rest)

namespace Writes

variable {g : Graph} {parts parts' : List Part} {ps ps' : List Piece}

theorem append (hw : Writes g parts ps) (hw' : Writes g parts' ps') :
    Writes g (parts ++ parts') (ps ++ ps') := by
  induction hw with
  | nil => exact hw'
  | piece hrest ih => exact .piece ih
  | node htemplate hinner hrest ihinner ihrest =>
    rw [List.append_assoc]
    exact .node htemplate hinner ihrest

/-- Whatever is written needs finitely many levels, and more of them change nothing. -/
theorem exists_budget (hw : Writes g parts ps) :
    ∃ least, ∀ budget ≥ least, writeParts (g.write budget) parts = .ok ps := by
  induction hw with
  | nil => exact ⟨0, fun _ _ => rfl⟩
  | piece hrest ih =>
    obtain ⟨least, hleast⟩ := ih
    refine ⟨least, fun budget hbudget => ?_⟩
    rw [writeParts, hleast budget hbudget]
    rfl
  | @node h inner first parts rest htemplate hinner hrest ihinner ihrest =>
    obtain ⟨below, hbelow⟩ := ihinner
    obtain ⟨beside, hbeside⟩ := ihrest
    -- The node takes a level of its own, and what stands beside it has the whole budget again.
    refine ⟨max (below + 1) beside, fun budget hbudget => ?_⟩
    obtain ⟨budget, rfl⟩ : ∃ n, budget = n + 1 := ⟨budget - 1, by omega⟩
    have hfirst : g.write (budget + 1) h = .ok first := by
      rw [write, htemplate]
      exact hbelow budget (by omega)
    rw [writeParts, hfirst, hbeside _ (by omega)]
    rfl

/-- A node that is written. -/
theorem exists_write {h : Handle} (hw : Writes g [.node h] ps) :
    ∃ least, ∀ budget ≥ least, g.write budget h = .ok ps := by
  cases hw with
  | node htemplate hinner hrest =>
    cases hrest
    obtain ⟨least, hleast⟩ := hinner.exists_budget
    refine ⟨least + 1, fun budget hbudget => ?_⟩
    obtain ⟨budget, rfl⟩ : ∃ n, budget = n + 1 := ⟨budget - 1, by omega⟩
    rw [write, htemplate, List.append_nil]
    exact hleast budget (by omega)

end Writes

/-! ### What is written -/

/-- What is selected at the end of a path: on the empty path from some parts themselves, on any
other from the marks of the node that it leads to. -/
def Graph.selected (g : Graph) {α : Type} (sel : Piece → Option α) (parts : List Part) :
    List Nat → List α
  | [] => (own parts).filterMap sel
  | i :: path =>
      (g.among (held parts) (i :: path)).elim [] fun h => (g.marks h).filterMap sel

/-- A path that passes over the first node. -/
def skip : List Nat → List Nat
  | [] => []
  | i :: path => (i + 1) :: path

theorem skip_inj {path path' : List Nat} (h : skip path = skip path') : path = path' := by
  cases path <;> cases path' <;> simp_all [skip]

theorem zero_cons_or_skip (path : List Nat) :
    (∃ below, path = 0 :: below) ∨ ∃ beside, path = skip beside := by
  rcases path with _ | ⟨_ | i, path⟩
  · exact .inr ⟨[], rfl⟩
  · exact .inl ⟨path, rfl⟩
  · exact .inr ⟨i :: path, rfl⟩

section

variable {g : Graph} {α : Type} {sel : Piece → Option α} {parts inner : List Part} {h : Handle}

theorem selected_piece_nil (p : Piece) : g.selected sel (.piece p :: parts) []
    = (sel p).toList ++ g.selected sel parts [] := by
  cases hp : sel p <;> simp [selected, hp]

theorem selected_skip (path : List Nat) :
    g.selected sel (.node h :: parts) (skip path) = g.selected sel parts path := by
  cases path <;> rfl

theorem selected_below (hsel : ∀ s, sel (.text s) = none) (htemplate : g.template h = .ok inner)
    (path : List Nat) :
    g.selected sel (.node h :: parts) (0 :: path) = g.selected sel inner path := by
  cases path with
  | nil => exact (selected_template hsel htemplate).symm
  | cons i path =>
    rw [selected, selected, held_template htemplate]
    rfl

end

namespace Writes

variable {g : Graph} {parts : List Part} {ps : List Piece} {α : Type} {sel : Piece → Option α}
  (hsel : ∀ s, sel (.text s) = none)

include hsel

/-- What is selected from the pieces is what is selected at the ends of paths. -/
theorem mem_iff (hw : Writes g parts ps) {x : α} :
    x ∈ ps.filterMap sel ↔ ∃ path, x ∈ g.selected sel parts path := by
  induction hw with
  | nil =>
    refine ⟨fun hx => absurd hx (by simp), ?_⟩
    rintro ⟨_ | ⟨i, path⟩, hx⟩ <;> simp [selected] at hx
  | @piece p parts ps hrest ih =>
    have hcons : x ∈ (p :: ps).filterMap sel ↔ sel p = some x ∨ x ∈ ps.filterMap sel := by
      cases hp : sel p <;> simp [hp, eq_comm]
    rw [hcons, ih]
    constructor
    · rintro (hp | ⟨_ | ⟨i, path⟩, hx⟩)
      · exact ⟨[], by simp [selected_piece_nil, hp]⟩
      · exact ⟨[], by simp [selected_piece_nil, hx]⟩
      · exact ⟨i :: path, hx⟩
    · rintro ⟨_ | ⟨i, path⟩, hx⟩
      · rw [selected_piece_nil, List.mem_append, Option.mem_toList] at hx
        exact hx.imp id fun hx => ⟨[], hx⟩
      · exact .inr ⟨i :: path, hx⟩
  | node htemplate hinner hrest ihinner ihrest =>
    rw [List.filterMap_append, List.mem_append, ihinner, ihrest]
    constructor
    · rintro (⟨path, hx⟩ | ⟨path, hx⟩)
      · exact ⟨0 :: path, by rwa [selected_below hsel htemplate]⟩
      · exact ⟨skip path, by rwa [selected_skip]⟩
    · rintro ⟨path, hx⟩
      rcases zero_cons_or_skip path with ⟨below, rfl⟩ | ⟨beside, rfl⟩
      · exact .inl ⟨below, by rwa [selected_below hsel htemplate] at hx⟩
      · exact .inr ⟨beside, by rwa [selected_skip] at hx⟩

/-- If nothing is selected twice at one path, and nothing at two paths, nothing is selected twice
from the pieces. -/
theorem nodup (hw : Writes g parts ps) (hone : ∀ path, (g.selected sel parts path).Nodup)
    (honce : ∀ path path' x, x ∈ g.selected sel parts path → x ∈ g.selected sel parts path' →
      path = path') : (ps.filterMap sel).Nodup := by
  induction hw with
  | nil => exact .nil
  | @piece p parts ps hrest ih =>
    have hnil := hone []
    rw [selected_piece_nil, List.nodup_append] at hnil
    -- What the other parts select they select together with the piece.
    have hmore {path : List Nat} {x : α} (hx : x ∈ g.selected sel parts path) :
        x ∈ g.selected sel (.piece p :: parts) path := by
      cases path with
      | nil => exact selected_piece_nil p ▸ List.mem_append_right _ hx
      | cons i path => exact hx
    have hrest_nodup : (ps.filterMap sel).Nodup := by
      refine ih (fun path => ?_) fun path path' x hx hx' =>
        honce path path' x (hmore hx) (hmore hx')
      cases path with
      | nil => exact hnil.2.1
      | cons i path => exact hone (i :: path)
    cases hp : sel p with
    | none => rwa [List.filterMap_cons_none hp]
    | some x =>
      rw [List.filterMap_cons_some hp, List.nodup_cons]
      refine ⟨fun hx => ?_, hrest_nodup⟩
      have hown : x ∈ (sel p).toList := by simp [hp]
      obtain ⟨path, hx⟩ := (hrest.mem_iff hsel).mp hx
      obtain rfl := honce [] path x (selected_piece_nil p ▸ List.mem_append_left _ hown) (hmore hx)
      exact hnil.2.2 x hown x hx rfl
  | @node h inner first parts rest htemplate hinner hrest ihinner ihrest =>
    have hbelow (path : List Nat) :
        g.selected sel (.node h :: parts) (0 :: path) = g.selected sel inner path :=
      selected_below hsel htemplate path
    rw [List.filterMap_append]
    refine List.nodup_append.mpr ⟨?_, ?_, ?_⟩
    · refine ihinner (fun path => hbelow path ▸ hone (0 :: path)) fun path path' x hx hx' => ?_
      rw [← hbelow] at hx hx'
      exact (List.cons.inj (honce _ _ x hx hx')).2
    · refine ihrest (fun path => selected_skip path ▸ hone (skip path))
        fun path path' x hx hx' => ?_
      rw [← selected_skip] at hx hx'
      exact skip_inj (honce _ _ x hx hx')
    · rintro x hx _ hx' rfl
      obtain ⟨path, hx⟩ := (hinner.mem_iff hsel).mp hx
      obtain ⟨path', hx'⟩ := (hrest.mem_iff hsel).mp hx'
      rw [← hbelow] at hx
      rw [← selected_skip] at hx'
      have hsame := honce _ _ x hx hx'
      cases path' <;> simp [skip] at hsame

/-! ### What is written for a node -/

omit hsel in
theorem mem_selected_node {h : Handle} {path : List Nat} {x : α} :
    x ∈ g.selected sel [.node h] path ↔
      ∃ below k, path = 0 :: below ∧ g.follow h below = some k ∧ x ∈ (g.marks k).filterMap sel := by
  rcases path with _ | ⟨_ | i, path⟩
  · simp [selected]
  · cases hat : g.follow h path <;> simp [selected, hat]
  · simp [selected, among]

/-- What is selected from the pieces of a node is what is selected from the marks at the ends of
paths from this node. -/
theorem mem_node_iff {h : Handle} (hw : Writes g [.node h] ps) {x : α} : x ∈ ps.filterMap sel ↔
    ∃ path k, g.follow h path = some k ∧ x ∈ (g.marks k).filterMap sel := by
  rw [hw.mem_iff hsel]
  simp only [mem_selected_node]
  constructor
  · rintro ⟨_, path, k, rfl, hat, hx⟩
    exact ⟨path, k, hat, hx⟩
  · rintro ⟨path, k, hat, hx⟩
    exact ⟨_, path, k, rfl, hat, hx⟩

/-- If nothing is selected twice at one node, and nothing along two paths, nothing is selected twice
from the pieces of a node. -/
theorem nodup_node {h : Handle} (hw : Writes g [.node h] ps)
    (hone : ∀ k, ((g.marks k).filterMap sel).Nodup)
    (honce : ∀ path path' k k' x, g.follow h path = some k → g.follow h path' = some k' →
      x ∈ (g.marks k).filterMap sel → x ∈ (g.marks k').filterMap sel → path = path') :
    (ps.filterMap sel).Nodup := by
  refine hw.nodup hsel (fun path => ?_) fun path path' x hx hx' => ?_
  · rcases path with _ | ⟨_ | i, path⟩
    · exact .nil
    · cases hat : g.follow h path with
      | none => simp [selected, hat]
      | some k => simpa [selected, hat] using hone k
    · simp [selected, among]
  · obtain ⟨below, k, rfl, hat, hx⟩ := mem_selected_node.mp hx
    obtain ⟨below', k', rfl, hat', hx'⟩ := mem_selected_node.mp hx'
    rw [honce below below' k k' x hat hat' hx hx']

/-- If one thing at most is selected at each node, and nothing along two paths, what is selected
from the pieces of a node is what is selected at the ends of paths, each once. -/
theorem once_node {h : Handle} (hw : Writes g [.node h] ps) {value : Handle → Option α}
    (hvalue : ∀ k, (g.marks k).filterMap sel = (value k).toList)
    (honce : ∀ path path' k k' x, g.follow h path = some k → g.follow h path' = some k' →
      value k = some x → value k' = some x → path = path') :
    (ps.filterMap sel).Nodup ∧
      ∀ x, x ∈ ps.filterMap sel ↔ ∃ path k, g.follow h path = some k ∧ value k = some x := by
  have hmem {k : Handle} {x : α} : x ∈ (g.marks k).filterMap sel ↔ value k = some x := by
    rw [hvalue, Option.mem_toList]
  refine ⟨hw.nodup_node hsel (fun k => ?_) fun path path' k k' x hat hat' hx hx' => ?_, fun x => ?_⟩
  · rw [hvalue]
    cases value k <;> simp
  · exact honce path path' k k' x hat hat' (hmem.mp hx) (hmem.mp hx')
  · simp only [hw.mem_node_iff hsel, hmem]

end Writes

end ToyLang
