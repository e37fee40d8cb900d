import ToyLang.Proofs.Numerals
import ToyLang.Proofs.Prints

/-!
# Keywords that stand by themselves

The keywords of a statement are printed with what stands around them, a blank or a bracket, so that
the text behind them cannot be read as part of the word.  Only `else` has nothing of its own behind
it: the branch follows at once.  Blocks and conditions begin with a line break, but any statement
may stand there, and most begin with a word or with a digit.

## Main definitions

* `WordPiece`, `StmtNode.words` — the pieces of a statement that have a keyword in them.
* `Apart`, `Graph.Separate` — what follows a keyword is no part of a word.
* `Graph.WordFirst` — a node whose text begins with a character of words.

## Main results

* `Program.Sound.stands` — how the text of a node begins, and when its keywords stand apart.
* `keywords_runAll` — **which programs have all their keywords apart from what follows them.**
-/

namespace ToyLang

open ToyLang.Graph Program Text

/-! ### The words of a statement -/

/-- A piece with a keyword in it, and what the piece has before and behind the keyword. -/
structure WordPiece where
  lead : String
  word : Keyword
  behind : String
  deriving DecidableEq

/-- The text of such a piece. -/
def WordPiece.text (q : WordPiece) : String := q.lead ++ q.word.spelling ++ q.behind

/-- The pieces of a statement that have a keyword in them. -/
def StmtNode.words : StmtNode → List WordPiece
  | eval _ | var _ | function _ | block _ => []
  | ret _ => [⟨"", .returnWord, " "⟩]
  | cond _ _ none => [⟨"\n", .ifWord, " ("⟩]
  | cond _ _ (some _) => [⟨"\n", .ifWord, " ("⟩, ⟨"", .elseWord, ""⟩]
  | loop _ _ => [⟨"", .whileWord, " ("⟩]
  | count _ _ _ _ => [⟨"", .forWord, " (long long "⟩]

/-- These are pieces of the statement. -/
theorem StmtNode.mem_own_of_mem_words {node : StmtNode} {q : WordPiece} (hq : q ∈ node.words) :
    .text q.text ∈ own node.template := by
  cases node with
  | cond test body otherwise =>
    cases otherwise with
    | none =>
      obtain rfl := List.mem_singleton.mp hq
      exact .head _
    | some otherwise =>
      rcases List.mem_pair.mp hq with rfl | rfl
      · exact .head _
      · exact .tail _ (.tail _ (.head _))
  | ret _ | loop _ _ | count _ _ _ _ =>
    obtain rfl := List.mem_singleton.mp hq
    exact .head _
  | _ => cases hq

/-- Only an `else` has no blank of its own behind it. -/
theorem StmtNode.behind_of_mem_words {node : StmtNode} {q : WordPiece} (hq : q ∈ node.words) :
    q.behind.toList.head? = some ' ' ∨ q.text = "else" ∧
      ∃ test body otherwise, node = .cond test body (some otherwise) := by
  cases node with
  | cond test body otherwise =>
    cases otherwise with
    | none =>
      obtain rfl := List.mem_singleton.mp hq
      exact .inl rfl
    | some otherwise =>
      rcases List.mem_pair.mp hq with rfl | rfl
      · exact .inl rfl
      · exact .inr ⟨rfl, test, body, otherwise, rfl⟩
  | ret _ | loop _ _ | count _ _ _ _ =>
    obtain rfl := List.mem_singleton.mp hq
    exact .inl rfl
  | _ => cases hq

/-- A text that does not go on with a word. -/
def Apart (text : String) : Prop := ∀ c ∈ text.toList.head?, isContinue c = false

/-- What begins with a blank does not go on with a word. -/
theorem apart_append {s t : String} (hs : s.toList.head? = some ' ') : Apart (s ++ t) := by
  intro c hc
  rw [String.toList_append, List.head?_append, hs, Option.some_or, Option.mem_some_iff] at hc
  rw [← hc]
  decide +kernel

namespace Graph

/-- The pieces of a node that have a keyword in them. -/
def words (g : Graph) : Handle → List WordPiece
  | .stmt s => (g.stmt? s).elim [] StmtNode.words
  | _ => []

/-- A printed piece that has a keyword in it. -/
def IsWord (g : Graph) (w : Print) (q : WordPiece) : Prop :=
  q ∈ g.words w.node ∧ w.piece = .text q.text

/-- Among printed pieces with a text behind them, what follows a keyword does not go on with a
word. -/
def Separate (g : Graph) (ws : List Print) (after : String) : Prop :=
  ∀ front w back q, ws = front ++ w :: back → g.IsWord w q →
    Apart (q.behind ++ (piecesText (back.map Print.piece) ++ after))

theorem mem_words_iff {g : Graph} {h : Handle} {q : WordPiece} :
    q ∈ g.words h ↔ ∃ s node, h = .stmt s ∧ g.stmt? s = some node ∧ q ∈ node.words := by
  cases h with
  | stmt s => cases hs : g.stmt? s <;> simp [words, hs]
  | _ => simp [words]

end Graph

section

variable {g : Graph} {ws ws' : List Print} {w : Print} {after : String}

theorem separate_nil : g.Separate [] after := by
  intro front w back q hws
  simp at hws

theorem separate_cons_iff : g.Separate (w :: ws) after ↔
    (∀ q, g.IsWord w q → Apart (q.behind ++ (piecesText (ws.map Print.piece) ++ after))) ∧
      g.Separate ws after := by
  constructor
  · intro h
    refine ⟨fun q hq => h [] w ws q rfl hq, fun front w' back q hws hq => ?_⟩
    exact h (w :: front) w' back q (congrArg (w :: ·) hws) hq
  · rintro ⟨hfirst, hrest⟩ front w' back q hws hq
    cases front with
    | nil =>
      obtain ⟨rfl, rfl⟩ := List.cons.inj hws
      exact hfirst q hq
    | cons w'' front =>
      obtain ⟨-, hws⟩ := List.cons.inj hws
      exact hrest front w' back q hws hq

theorem separate_append_iff : g.Separate (ws ++ ws') after ↔
    g.Separate ws (piecesText (ws'.map Print.piece) ++ after) ∧ g.Separate ws' after := by
  induction ws with
  | nil => exact (and_iff_right separate_nil).symm
  | cons w ws ih =>
    rw [List.cons_append, separate_cons_iff, separate_cons_iff, ih, List.map_append,
      piecesText_append, String.append_assoc, and_assoc]

end

/-! ### How the text of a node begins -/

/-- What stands first in a node: a character, which may be one of words, or another node. -/
inductive Front where
  | char (ofWords : Bool)
  | node (k : Handle)

/-- What stands first in an expression. -/
def ExprNode.front : ExprNode → Front
  | int value => .char (0 ≤ value.toInt)
  | float value => .char (!value.isNegative)
  | bool _ | group _ => .char false
  | ident _ | call _ _ | assign _ _ => .char true
  | arith lhs _ _ => .node (.expr lhs)
  | compare lhs _ _ => .node (.expr lhs)

/-- What stands first in a statement. -/
def StmtNode.front : StmtNode → Front
  | eval value => .node (.expr value)
  | ret _ | loop _ _ | count _ _ _ _ => .char true
  | var v => .node (.var v)
  | function f => .node (.function f)
  | block body => .node (.block body)
  | cond _ _ _ => .char false

namespace Graph

/-- What stands first in a node. -/
def front (g : Graph) : Handle → Front
  | .expr e => (g.expr? e).elim (.char false) ExprNode.front
  | .stmt s => (g.stmt? s).elim (.char false) StmtNode.front
  | .block _ => .char false
  | .var _ | .function _ => .char true

/-- The text of a node begins with a character of words: it is one with a word or a number without
sign first, or with such a node first. -/
inductive WordFirst (g : Graph) : Handle → Prop
  | char {h} (hh : g.front h = .char true) : WordFirst g h
  | node {h k} (hh : g.front h = .node k) (hk : WordFirst g k) : WordFirst g h

variable {g : Graph} {h k : Handle}

theorem wordFirst_iff_of_char {b : Bool} (hh : g.front h = .char b) :
    g.WordFirst h ↔ b = true := by
  constructor
  · rintro (hh' | ⟨hh', -⟩)
    · rw [hh] at hh'
      injection hh'
    · rw [hh] at hh'
      cases hh'
  · rintro rfl
    exact .char hh

theorem wordFirst_iff_of_node (hh : g.front h = .node k) : g.WordFirst h ↔ g.WordFirst k := by
  constructor
  · rintro (hh' | ⟨hh', hk⟩)
    · rw [hh] at hh'
      cases hh'
    · rw [hh] at hh'
      cases hh'
      exact hk
  · exact .node hh

end Graph

/-! ### Names -/

/-- The names in an expression itself. -/
def ExprNode.names : ExprNode → List String
  | ident name => [name]
  | call callee _ => [callee]
  | assign target _ => [target]
  | _ => []

/-- The names in a statement itself. -/
def StmtNode.names : StmtNode → List String
  | count counter _ _ _ => [counter]
  | _ => []

/-- The names in a variable. -/
def VarNode.names (node : VarNode) : List String := [node.type, node.name]

/-- The names in a function, those of its parameters as well. -/
def FunctionNode.names (node : FunctionNode) : List String :=
  node.result :: node.name :: node.params.flatMap fun q => [q.type, q.name]

/-- The names in a node itself. -/
def Graph.names (g : Graph) : Handle → List String
  | .expr e => (g.expr? e).elim [] ExprNode.names
  | .stmt s => (g.stmt? s).elim [] StmtNode.names
  | .block _ => []
  | .var v => (g.var? v).elim [] VarNode.names
  | .function f => (g.function? f).elim [] FunctionNode.names

/-- What holds of the names in all nodes of each kind holds of those in every node. -/
theorem Graph.forall_names {g : Graph} {P : String → Prop}
    (hexprs : ∀ node ∈ g.exprs, ∀ n ∈ node.names, P n)
    (hstmts : ∀ node ∈ g.stmts, ∀ n ∈ node.names, P n)
    (hvars : ∀ node ∈ g.vars, ∀ n ∈ node.names, P n)
    (hfunctions : ∀ node ∈ g.functions, ∀ n ∈ node.names, P n) (h : Handle) :
    ∀ n ∈ g.names h, P n := by
  have helim {α : Type} {xs : Array α} {f : α → List String} (hxs : ∀ x ∈ xs, ∀ n ∈ f x, P n)
      (i : Nat) : ∀ n ∈ xs[i]?.elim [] f, P n := by
    cases hi : xs[i]? with
    | none => exact fun n hn => absurd hn List.not_mem_nil
    | some x => exact hxs x (Array.mem_of_getElem? hi)
  cases h with
  | expr e => exact helim hexprs e.index
  | stmt s => exact helim hstmts s.index
  | block b => exact fun n hn => absurd hn List.not_mem_nil
  | var v => exact helim hvars v.index
  | function f => exact helim hfunctions f.index

/-! ### The first character -/

/-- What stands first stands first among the parts of the node. -/
def Front.Heads : Front → List Part → Prop
  | char b, parts => ∃ q rest c cs, parts = .piece q :: rest ∧ q.string.toList = c :: cs ∧
      isContinue c = b
  | node k, parts => ∃ rest, parts = .node k :: rest

theorem exists_first_of_isName {n : String} (hn : isName n = true) :
    ∃ c cs, n.toList = c :: cs ∧ isContinue c = true := by
  obtain ⟨c, cs, hcs, hc, -⟩ := isWord_iff.mp (isWord_of_isName hn)
  exact ⟨c, cs, hcs, isContinue_of_isStart hc⟩

/-- A number begins with its sign, or else with a digit. -/
theorem exists_first_of_signChars {negative : Bool} {ds : List Char}
    (hds : ∃ c cs, ds = c :: cs ∧ c.isDigit = true) :
    ∃ c cs, Source.signChars negative ++ ds = c :: cs ∧ isContinue c = !negative := by
  obtain ⟨c, cs, rfl, hc⟩ := hds
  cases negative with
  | false => exact ⟨c, cs, rfl, isContinue_of_isDigit hc⟩
  | true => exact ⟨'-', c :: cs, rfl, by decide +kernel⟩

theorem ExprNode.heads_front {node : ExprNode} (hnames : ∀ n ∈ node.names, isName n = true)
    (hfinite : ∀ x, node = .float x → x.isFinite = true) : node.front.Heads node.template := by
  have hname {n : String} {rest : List Part} (hn : n ∈ node.names) :
      (Front.char true).Heads (.text n :: rest) := by
    obtain ⟨c, cs, hcs, hc⟩ := exists_first_of_isName (hnames n hn)
    exact ⟨_, rest, c, cs, rfl, hcs, hc⟩
  cases node with
  | int value =>
    have hdigits : ∃ c cs, Nat.toDigits 10 value.toInt.natAbs = c :: cs ∧ c.isDigit = true := by
      have hfirst := Source.exists_first_digit Nat.toDigits_ne_nil
        (Source.isDigit_toDigits value.toInt.natAbs) []
      rwa [List.append_nil] at hfirst
    obtain ⟨c, cs, hcs, hc⟩ := exists_first_of_signChars hdigits
    refine ⟨_, [], c, cs, rfl, (Source.toList_toString_int _).trans hcs, hc.trans ?_⟩
    rw [← decide_not, decide_eq_decide, Int.not_lt]
  | float x =>
    have hx := hfinite x rfl
    have hlt : x.magnitude < Binary64.infiniteMagnitude := by simpa [Binary64.isFinite] using hx
    obtain ⟨c, cs, hcs, hc⟩ := exists_first_of_signChars
      (Source.looksPositive_magnitudeText hlt).first
    exact ⟨_, [], c, cs, rfl, (Source.toList_text hx).trans hcs, hc⟩
  | bool value =>
    cases value with
    | false => exact ⟨_, [], ' ', "false".toList, rfl, rfl, by decide +kernel⟩
    | true => exact ⟨_, [], ' ', "true".toList, rfl, rfl, by decide +kernel⟩
  | ident _ | call _ _ | assign _ _ => exact hname (.head _)
  | arith _ _ _ | compare _ _ _ => exact ⟨_, rfl⟩
  | group inner => exact ⟨_, _, '(', [], rfl, rfl, by decide +kernel⟩

theorem StmtNode.heads_front (node : StmtNode) : node.front.Heads node.template := by
  cases node with
  | eval _ | var _ | function _ | block _ => exact ⟨_, rfl⟩
  | ret _ => exact ⟨_, _, 'r', "eturn ".toList, rfl, rfl, by decide +kernel⟩
  | loop _ _ => exact ⟨_, _, 'w', "hile (".toList, rfl, rfl, by decide +kernel⟩
  | count _ _ _ _ => exact ⟨_, _, 'f', "or (long long ".toList, rfl, rfl, by decide +kernel⟩
  | cond _ _ otherwise =>
    cases otherwise with
    | none => exact ⟨_, _, '\n', "if (".toList, rfl, rfl, by decide +kernel⟩
    | some _ => exact ⟨_, _, '\n', "if (".toList, rfl, rfl, by decide +kernel⟩

/-- What stands first in a node stands first among its parts, if the names are names and the numbers
are finite. -/
theorem Graph.heads_front {g : Graph} {h : Handle} {parts : List Part}
    (hnames : ∀ n ∈ g.names h, isName n = true)
    (hfinite : ∀ e x, h = .expr e → g.expr? e = some (.float x) → x.isFinite = true)
    (htemplate : g.template h = .ok parts) : (g.front h).Heads parts := by
  cases h with
  | expr e =>
    obtain ⟨node, he, rfl⟩ := template_expr_iff.mp htemplate
    rw [front, he, Option.elim_some]
    refine node.heads_front ?_ fun x hx => hfinite e x rfl (he.trans (congrArg some hx))
    simpa [names, he] using hnames
  | stmt s =>
    obtain ⟨node, hs, rfl⟩ := template_stmt_iff.mp htemplate
    rw [front, hs, Option.elim_some]
    exact node.heads_front
  | block b =>
    obtain ⟨node, e, hb, -, rfl⟩ := template_block_iff.mp htemplate
    cases e with
    | bare => exact ⟨_, _, '\n', ['\n'], rfl, by simp [Piece.string], by decide +kernel⟩
    | braces owner =>
      refine ⟨_, _, '\n', (Cpp.openBrace b.index owner ++ "\n").toList, rfl, ?_, by decide +kernel⟩
      simp [Piece.string]
  | var v =>
    obtain ⟨node, init, hv, -, rfl⟩ := template_var_iff.mp htemplate
    have htype : node.type ∈ g.names (.var v) := by simp [names, hv, VarNode.names]
    obtain ⟨c, cs, hcs, hc⟩ := exists_first_of_isName (hnames _ htype)
    exact ⟨_, _, c, cs, rfl, hcs, hc⟩
  | function f =>
    obtain ⟨node, hf, rfl⟩ := template_function_iff.mp htemplate
    have hresult : node.result ∈ g.names (.function f) := by
      simp [names, hf, FunctionNode.names]
    obtain ⟨c, cs, hcs, hc⟩ := exists_first_of_isName (hnames _ hresult)
    exact ⟨_, _, c, cs, rfl, hcs, hc⟩

/-! ### What is printed for a node -/

/-- No branch behind an `else`, at a node or below it, begins with a character of words. -/
def Graph.Unfused (g : Graph) : Handle → Prop :=
  g.EachElse fun _ otherwise => ¬ g.WordFirst (.stmt otherwise)

/-- The text of a node begins with a character of words exactly if the node says so, and its
keywords stand apart from what follows them, whatever follows the node, exactly if no branch is
fused with its `else`. -/
structure Graph.Stands (g : Graph) (h : Handle) (ws : List Print) : Prop where
  begins : ∃ c cs, (piecesText (ws.map Print.piece)).toList = c :: cs ∧
    (isContinue c = true ↔ g.WordFirst h)
  separate_iff : ∀ after, g.Separate ws after ↔ g.Unfused h

section

variable {g : Graph} {path : List Nat} {h : Handle} {i : Nat} {parts : List Part} {ws : List Print}

/-- A text does not go on with a word if its node does not begin with one. -/
theorem Graph.Stands.apart_iff (hstands : g.Stands h ws) (after : String) :
    Apart (piecesText (ws.map Print.piece) ++ after) ↔ ¬ g.WordFirst h := by
  obtain ⟨c, cs, hcs, hc⟩ := hstands.begins
  rw [← hc, Bool.not_eq_true, Apart, String.toList_append, hcs]
  simp

/-- A node begins as the first of its parts does. -/
theorem Spread.exists_begin (hspread : Spread (fun _ => g.Stands) path h i parts ws)
    (hheads : (g.front h).Heads parts) :
    ∃ c cs, (piecesText (ws.map Print.piece)).toList = c :: cs ∧
      (isContinue c = true ↔ g.WordFirst h) := by
  cases hfront : g.front h with
  | char b =>
    rw [hfront] at hheads
    obtain ⟨q, rest, c, cs, rfl, hcs, hc⟩ := hheads
    obtain ⟨ws, -, rfl⟩ := spread_piece_iff.mp hspread
    refine ⟨c, cs ++ (piecesText (ws.map Print.piece)).toList, ?_, ?_⟩
    · rw [List.map_cons, piecesText_cons, String.toList_append, hcs, List.cons_append]
    · rw [wordFirst_iff_of_char hfront, hc]
  | node k =>
    rw [hfront] at hheads
    obtain ⟨rest, rfl⟩ := hheads
    obtain ⟨first, ws, hfirst, -, rfl⟩ := spread_node_iff.mp hspread
    obtain ⟨c, cs, hcs, hc⟩ := hfirst.begins
    refine ⟨c, cs ++ (piecesText (ws.map Print.piece)).toList, ?_, ?_⟩
    · rw [List.map_append, piecesText_append, String.toList_append, hcs, List.cons_append]
    · rw [wordFirst_iff_of_node hfront, hc]

/-- Among pieces whose keywords have blanks behind them, the keywords of the nodes stand apart from
what follows them. -/
theorem Spread.separate_iff (hspread : Spread (fun _ => g.Stands) path h i parts ws)
    (hown : ∀ q ∈ own parts, ∀ r, g.IsWord ⟨path, h, q⟩ r → r.behind.toList.head? = some ' ')
    (after : String) : g.Separate ws after ↔ ∀ k ∈ held parts, g.Unfused k := by
  induction hspread generalizing after with
  | nil => simp [separate_nil]
  | piece hrest ih =>
    rw [separate_cons_iff, held_piece, ih fun q hq => hown q (.tail _ hq)]
    exact and_iff_right fun r hr => apart_append (hown _ (.head _) r hr)
  | node hfirst hrest ih =>
    rw [separate_append_iff, held_node, List.forall_mem_cons, hfirst.separate_iff, ih hown]

/-- A node that is no condition with an `else`. -/
theorem Graph.separate_iff_of_not_else
    (hh : ∀ s test body otherwise, h = .stmt s →
      g.stmt? s ≠ some (.cond test body (some otherwise)))
    (htemplate : g.template h = .ok parts) (hspread : Spread (fun _ => g.Stands) path h 0 parts ws)
    (after : String) : g.Separate ws after ↔ g.Unfused h := by
  rw [hspread.separate_iff fun q _ r hr => ?_, held_template htemplate]
  · exact (eachElse_iff_of_not_else hh).symm
  · obtain ⟨s, node, rfl, hs, hr⟩ := mem_words_iff.mp hr.1
    rcases StmtNode.behind_of_mem_words hr with hblank | ⟨-, test, body, otherwise, rfl⟩
    · exact hblank
    · exact absurd hs (hh s test body otherwise rfl)

/-- A condition with an `else`, which is followed by the text of the branch. -/
theorem Graph.separate_iff_of_ifElse {s body otherwise : StmtRef} {test : ExprRef}
    (hs : g.stmt? s = some (.cond test body (some otherwise)))
    (hspread : Spread (fun _ => g.Stands) path (.stmt s) 0
      (StmtNode.cond test body (some otherwise)).template ws)
    (after : String) : g.Separate ws after ↔ g.Unfused (.stmt s) := by
  have hparts : (StmtNode.cond test body (some otherwise)).template
      = [.text "\nif (", .node (.expr test), .text ")", .node (.stmt body)]
        ++ [.text "else", .node (.stmt otherwise)] := rfl
  rw [hparts] at hspread
  obtain ⟨j, first, rest, hfirst, hrest, rfl⟩ := hspread.exists_append
  simp only [spread_piece_iff, spread_node_iff, spread_nil_iff] at hrest
  obtain ⟨_, ⟨branch, _, hbranch, rfl, rfl⟩, rfl⟩ := hrest
  have hwords {q : WordPiece} : q ∈ g.words (.stmt s) ↔
      q = ⟨"\n", .ifWord, " ("⟩ ∨ q = ⟨"", .elseWord, ""⟩ := by
    simp [words, hs, StmtNode.words]
  rw [List.append_nil, separate_append_iff, separate_cons_iff, hbranch.separate_iff,
    hfirst.separate_iff fun q hq r hr => ?_]
  · have helse : (∀ q, g.IsWord ⟨path, .stmt s, .text "else"⟩ q →
        Apart (q.behind ++ (piecesText (branch.map Print.piece) ++ after)))
        ↔ ¬ g.WordFirst (.stmt otherwise) := by
      rw [← hbranch.apart_iff after]
      constructor
      · intro h
        simpa using h ⟨"", .elseWord, ""⟩ ⟨hwords.mpr (.inr rfl), rfl⟩
      · rintro hapart q ⟨hq, htext⟩
        rcases hwords.mp hq with rfl | rfl
        · exact absurd (Piece.text.inj htext) (by decide)
        · simpa using hapart
    rw [helse, Unfused, eachElse_iff_of_ifElse hs]
    simp [and_assoc, and_left_comm]
  · -- the pieces before the `else` are no `else`
    rcases hwords.mp hr.1 with rfl | rfl
    · rfl
    · rcases List.mem_pair.mp hq with rfl | rfl
      · exact absurd (Piece.text.inj hr.2) (by decide)
      · exact absurd (Piece.text.inj hr.2) (by decide)

end

/-! ### Programs -/

section

variable {p : Program} (hsound : p.Sound)
  (hnames : ∀ path h, p.at? path = some h → ∀ n ∈ p.graph.names h, isName n = true)
  {path : List Nat} {h : Handle} {parts : List Part} {ws : List Print}

include hsound hnames

/-- What is printed for a node, given what is printed for the nodes in it. -/
theorem Program.Sound.stands (hpath : p.at? path = some h)
    (htemplate : p.graph.template h = .ok parts)
    (hspread : Spread (fun _ => p.graph.Stands) path h 0 parts ws) : p.graph.Stands h ws where
  begins := by
    refine hspread.exists_begin (heads_front (hnames path h hpath) ?_ htemplate)
    rintro e x rfl he
    exact hsound.finite hpath he
  separate_iff := by
    by_cases helse : ∃ s test body otherwise, h = .stmt s ∧
        p.graph.stmt? s = some (.cond test body (some otherwise))
    · obtain ⟨s, test, body, otherwise, rfl, hs⟩ := helse
      obtain ⟨node, hnode, rfl⟩ := template_stmt_iff.mp htemplate
      obtain rfl := Option.some.inj (hs.symm.trans hnode)
      exact separate_iff_of_ifElse hs hspread
    · refine separate_iff_of_not_else (fun s test body otherwise hs hnode => ?_) htemplate hspread
      exact helse ⟨s, test, body, otherwise, hs, hnode⟩

/-- The keywords of a program all stand apart from what follows them exactly if no branch is fused
with its `else`. -/
theorem Program.Sound.separate_iff (hprinted : p.Printed ws) (after : String) :
    p.graph.Separate ws after ↔ p.graph.Unfused (.block p.root) := by
  obtain ⟨parts, htemplate, hprints⟩ := hprinted
  have hspread : Spread (fun _ => p.graph.Stands) [] (.block p.root) 0 parts ws :=
    hprints.spread (fun _ _ _ _ hpath _ => hsound.stands hnames hpath) rfl
      (held_template htemplate).symm
  exact (hsound.stands hnames rfl htemplate hspread).separate_iff after

end

/-- **Which keywords stand apart.**  Whatever steps build a graph, and whichever of its blocks is
the root, if the check accepts the program and the names in the nodes that are reached are names of
the source language, then all keywords of the statements that are reached are printed, and no
character of words follows any of them if and only if no condition has a branch behind its `else`
that begins with such a character. -/
theorem keywords_runAll (steps : List Step) (root : BlockRef)
    (hroot : (Step.runAll steps Graph.empty).has (.block root)) {c : Checked}
    (hcheck : (Program.new (Step.runAll steps Graph.empty) root).check = .ok c)
    (hnames : ∀ path h, (Program.new (Step.runAll steps Graph.empty) root).at? path = some h →
      ∀ n ∈ (Program.new (Step.runAll steps Graph.empty) root).graph.names h, isName n = true) :
    let p := Program.new (Step.runAll steps Graph.empty) root
    ∃ ws, p.Printed ws ∧
      p.render.result = .ok (piecesText (Cpp.openingPieces ++ ws.map Print.piece
        ++ Cpp.closingPieces)) ∧
      (∀ path s node, p.at? path = some (.stmt s) → p.graph.stmt? s = some node →
        ∀ q ∈ node.words, ⟨path, .stmt s, .text q.text⟩ ∈ ws) ∧
      (p.graph.Separate ws (piecesText Cpp.closingPieces) ↔
        ∀ path s test body otherwise, p.at? path = some (.stmt s) →
          p.graph.stmt? s = some (.cond test body (some otherwise)) →
          ¬ p.graph.WordFirst (.stmt otherwise)) := by
  intro p
  have hp : p.Built := built_runAll steps hroot
  have hsound := (hp.valid_of_check hcheck).toSound
  obtain ⟨ws, hprinted, hrender⟩ := hp.exists_printed hsound hcheck
  refine ⟨ws, hprinted, hrender, fun path s node hpath hs q hq => ?_,
    hsound.separate_iff hnames hprinted _⟩
  exact hprinted.mem_iff.mpr ⟨hpath, node.template, template_stmt_iff.mpr ⟨node, hs, rfl⟩,
    StmtNode.mem_own_of_mem_words hq⟩

/-- A function with a condition that returns a value behind its `else`. -/
def fusedElse : List Step :=
  [.block, .block, .block, .bool true, .ident "x", .stmt (.block ⟨2⟩), .stmt (.ret ⟨1⟩),
    .stmt (.cond ⟨0⟩ ⟨0⟩ (some ⟨1⟩)), .push ⟨1⟩ ⟨2⟩, .function "main" [] "int" ⟨1⟩,
    .stmt (.function ⟨0⟩), .push ⟨0⟩ ⟨3⟩]

/-- The `else` is fused with the `return` behind it. -/
theorem keywords_runAll_fusedElse :
    let p := Program.new (Step.runAll fusedElse Graph.empty) ⟨0⟩
    (Step.runAll fusedElse Graph.empty).has (.block ⟨0⟩) ∧ (∃ c, p.check = .ok c) ∧
      (∀ path h, p.at? path = some h → ∀ n ∈ p.graph.names h, isName n = true) ∧
      ∃ ws, p.Printed ws ∧ ¬ p.graph.Separate ws (piecesText Cpp.closingPieces) := by
  intro p
  have hroot : (Step.runAll fusedElse Graph.empty).has (.block ⟨0⟩) := by decide
  obtain ⟨c, hcheck⟩ : ∃ c, p.check = .ok c := ⟨_, rfl⟩
  have hnames : ∀ path h, p.at? path = some h → ∀ n ∈ p.graph.names h, isName n = true :=
    fun _ h _ => forall_names (by decide +kernel) (by decide +kernel) (by decide +kernel)
      (by decide +kernel) h
  obtain ⟨ws, hprinted, -, -, hiff⟩ := keywords_runAll fusedElse ⟨0⟩ hroot hcheck hnames
  refine ⟨hroot, ⟨c, hcheck⟩, hnames, ws, hprinted, fun hseparate => ?_⟩
  have hpath : p.at? [0, 0, 0, 0] = some (.stmt ⟨2⟩) := rfl
  exact hiff.mp hseparate [0, 0, 0, 0] ⟨2⟩ ⟨0⟩ ⟨0⟩ ⟨1⟩ hpath rfl (.char rfl)

end ToyLang
