import ToyLang.Proofs.Lexical
import ToyLang.Proofs.Soundness

/-!
# Reading ends

The readers of expressions and of statements take themselves as an argument, and a budget bounds how
often; a failed alternative starts again where it began.  That this is no restriction is seen from
the grammar as rules: no rule asks for a notion of its own rank or a higher one before it has taken
a character, and no repetition has an empty round.  This holds of every text, also where nothing is
read.

The readers of the language are these rules, with a budget for the depth and for the rounds.  A
budget that exceeds the length of the text is as good as none.

## Main definitions

* `Notion`, `Notion.rank` — what the grammar has rules for, and in which order they ask for each
  other.
* `Notion.rule`, `grammar` — the rules.
* `Notion.reader` — the readers of the language.
* `Notion.IsReadBy` — a reader that reads a notion in texts up to some size.

## Main results

* `Notion.guarded_rule` — calls at the same place are for lower ranks, and rounds are not empty.
* `Notion.isReadBy_reader`, `file_eq` — **what is read does not depend on the budget.**
* `reading_descends` — **reading descends**, by the text and then by the rank.
-/

namespace ToyLang.Source

open Reader Text

variable {α : Type}

/-! ### The rules of the language -/

/-- What the grammar has a rule for. -/
inductive Notion where
  | atom | product | sum | comparison | expr | binding | block | branch | stmt | function | item
  deriving DecidableEq

namespace Notion

/-- What a notion is read as. -/
abbrev Value : Notion → Type
  | atom | product | sum | comparison | expr => Expr
  | binding => Binding
  | block => List Stmt
  | branch => Branch
  | stmt => Stmt
  | function => Function
  | item => Item

/-- At one place, a notion is only asked for by notions of higher ranks. -/
def rank : Notion → Nat
  | atom | binding | block | branch | function => 0
  | product | item => 1
  | sum => 2
  | comparison => 3
  | expr => 4
  | stmt => 5

end Notion

namespace Rule

variable {N : Type} {V : N → Type}

/-- A mark. -/
abbrev mark (m : Mark) : Rule V Unit := .token (symbol m.text) (consumes_symbol m)

/-- A keyword. -/
abbrev keyword (k : Keyword) : Rule V Unit := .token (Reader.keyword k) (consumes_keyword k)

/-- A name. -/
abbrev name : Rule V String := .token Reader.name consumes_name

/-- Things with commas between them, and maybe one more comma. -/
def commas (p : Rule V α) : Rule V (List α) :=
  (do
    let first ← p
    let others ← .repeated (do mark .comma; p)
    mark .comma <|> pure ()
    pure (first :: others))
  <|> pure []

/-- Operands with operators of one rank between them. -/
def chain (choices : List ArithmeticOp) (operand : Rule V Expr) : Rule V Expr := do
  let first ← operand
  let others ← .repeated do
    let op ← .token (arithmeticOp choices) (consumes_arithmeticOp choices)
    let rhs ← operand
    pure (op, rhs)
  pure (others.foldl (fun lhs r => .arith r.1 lhs r.2) first)

/-- The arguments of a call. -/
def arguments : Rule Notion.Value (List Expr) := do
  mark .leftParen
  let args ← commas (notion Notion.expr)
  mark .rightParen
  pure args

/-- A call. -/
def call : Rule Notion.Value Expr := do
  let callee ← name
  mark .leftParen
  let args ← commas (notion Notion.expr)
  mark .rightParen
  pure (.call callee args)

/-- An expression in parentheses. -/
def paren : Rule Notion.Value Expr := do
  mark .leftParen
  let inner ← notion Notion.expr
  mark .rightParen
  pure (.paren inner)

/-- An assignment. -/
def assign : Rule Notion.Value Expr := do
  let target ← name
  mark .equals
  let value ← notion Notion.expr
  pure (.assign target value)

/-- The statement that leaves a function. -/
def giveBack : Rule Notion.Value Stmt := do
  keyword .returnWord
  let value ← notion Notion.expr
  mark .semicolon
  pure (.ret value)

/-- A loop with a test. -/
def loop : Rule Notion.Value Stmt := do
  keyword .whileWord
  let test ← notion Notion.expr
  let block ← notion Notion.block
  pure (.loop test block)

/-- A loop that counts. -/
def count : Rule Notion.Value Stmt := do
  keyword .forWord
  let var ← name
  keyword .inWord
  let first ← notion Notion.expr
  mark .dots
  let bound ← notion Notion.expr
  let block ← notion Notion.block
  pure (.count var first bound block)

/-- An expression for its effect. -/
def evaluation : Rule Notion.Value Stmt := do
  let value ← notion Notion.expr
  mark .semicolon
  pure (.eval value)

/-- An `else` with what follows it, or nothing. -/
def elsePart : Rule Notion.Value Else :=
  (do
    keyword .elseWord
    (do
      let next ← notion Notion.branch
      pure (Else.cond next.test next.body next.otherwise))
    <|> (Else.block <$> notion Notion.block))
  <|> pure Else.none

/-- A parameter. -/
def param : Rule V Param := do
  let ident ← name
  mark .colon
  let type ← name
  pure ⟨ident, type⟩

/-- Declarations, as many as there are. -/
def items : Rule Notion.Value (List Item) := .repeated (notion Notion.item)

end Rule

/-- The rule of a notion. -/
def Notion.rule : (n : Notion) → Rule Notion.Value n.Value
  | atom =>
      (Expr.float <$> .token fractional consumes_fractional)
      <|> (Expr.int <$> .token whole consumes_whole)
      <|> (do Rule.keyword .trueWord; pure (.bool true))
      <|> (do Rule.keyword .falseWord; pure (.bool false))
      <|> Rule.call
      <|> (Expr.ident <$> Rule.name)
      <|> Rule.paren
  | product => Rule.chain [.mul, .div] (.notion atom)
  | sum => Rule.chain [.add, .sub] (.notion product)
  | comparison => do
      let lhs ← .notion sum
      (do
        let op ← .token comparisonOp consumes_comparisonOp
        let rhs ← .notion sum
        pure (.compare op lhs rhs))
      <|> pure lhs
  | expr => Rule.assign <|> .notion comparison
  | binding => do
      Rule.keyword .letWord
      let ident ← Rule.name
      Rule.mark .colon
      let type ← Rule.name
      Rule.mark .equals
      let init ← .notion expr
      Rule.mark .semicolon
      pure ⟨ident, type, init⟩
  | block => do
      Rule.mark .leftBrace
      let body ← .repeated (.notion stmt)
      Rule.mark .rightBrace
      pure body
  | branch => do
      Rule.keyword .ifWord
      let test ← .notion expr
      let block ← .notion block
      let otherwise ← Rule.elsePart
      pure ⟨test, block, otherwise⟩
  | stmt =>
      (Stmt.bind <$> .notion binding)
      <|> Rule.giveBack
      <|> (do
            let b ← .notion branch
            pure (.cond b.test b.body b.otherwise))
      <|> Rule.loop
      <|> Rule.count
      <|> (Stmt.block <$> .notion block)
      <|> Rule.evaluation
  | function => do
      Rule.keyword .fnWord
      let callee ← Rule.name
      Rule.mark .leftParen
      let params ← Rule.commas Rule.param
      Rule.mark .rightParen
      Rule.mark .arrow
      let result ← Rule.name
      let body ← .notion block
      pure ⟨callee, params, result, body⟩
  | item => (Item.function <$> .notion function) <|> (Item.bind <$> .notion binding)

/-- Every rule takes something. -/
theorem Notion.advances_rule (n : Notion) : n.rule.Advances := by
  cases n <;> simp [rule, Rule.chain, Rule.call, Rule.paren, Rule.assign, Rule.giveBack, Rule.loop,
    Rule.count, Rule.evaluation]

/-- Before it takes something, a rule asks for notions of lower ranks only, and what it repeats
takes something in each round. -/
theorem Notion.guarded_rule (n : Notion) : n.rule.Guarded fun m => m.rank < n.rank := by
  cases n <;> simp [rule, rank, Rule.chain, Rule.commas, Rule.call, Rule.paren, Rule.assign,
    Rule.giveBack, Rule.loop, Rule.count, Rule.evaluation, Rule.elsePart, Rule.param]

theorem Rule.guarded_items : items.Guarded fun _ => True := ⟨trivial, trivial⟩

/-- The grammar of the language. -/
def grammar : Grammar Notion.Value where
  rule := Notion.rule
  rank := Notion.rank
  height := 6
  rank_lt n := by cases n <;> decide
  advances := Notion.advances_rule
  guarded := Notion.guarded_rule

/-! ### Readers of notions -/

/-- A reader of a notion: it takes at least one character, and in texts of fewer than `size`
characters it reads what the grammar says. -/
structure Notion.IsReadBy (n : Notion) (size : Nat) (p : Reader n.Value) : Prop where
  consumes : Consumes p
  eq_read : ∀ cs, cs.length < size → p cs = grammar.read n cs

namespace Notion

variable {size rounds : Nat}

theorem isReadBy_read (n : Notion) (size : Nat) : n.IsReadBy size (grammar.read n) :=
  ⟨grammar.consumes_read n, fun _ _ => rfl⟩

theorem IsReadBy.mono {n : Notion} {p : Reader n.Value} (h : n.IsReadBy size p) {size' : Nat}
    (hle : size' ≤ size) : n.IsReadBy size' p :=
  ⟨h.consumes, fun cs hcs => h.eq_read cs (Nat.lt_of_lt_of_le hcs hle)⟩

/-- A reader that takes something reads nothing of an empty text, like every notion. -/
theorem isReadBy_one {n : Notion} {p : Reader n.Value} (hp : Consumes p) : n.IsReadBy 1 p := by
  refine ⟨hp, fun cs hcs => ?_⟩
  obtain rfl := List.length_eq_zero_iff.mp (Nat.lt_one_iff.mp hcs)
  rw [hp.at_end, (grammar.consumes_read n).at_end]

/-- A rule is read right, with as many rounds as there are characters, if notions of lower ranks
are, and all notions are in shorter texts. -/
theorem isReadBy_run (n : Notion) {ρ : (m : Notion) → Reader m.Value} (hrounds : size ≤ rounds)
    (hlater : ∀ m : Notion, m.IsReadBy size (ρ m))
    (hfront : ∀ m : Notion, m.rank < n.rank → m.IsReadBy (size + 1) (ρ m)) :
    n.IsReadBy (size + 1) (n.rule.run (fun _ => rounds) ρ) := by
  refine ⟨Rule.consumes_run (fun m => (hlater m).consumes) (Notion.advances_rule n),
    fun cs hcs => ?_⟩
  have hle : cs.length ≤ size := Nat.le_of_lt_succ hcs
  rw [Grammar.read_eq]
  refine Rule.run_congr grammar.consumes_read (Notion.guarded_rule n) (fun m ds hcall => ?_)
    fun ds hds => Nat.le_trans (Nat.le_trans hds.length_le hle) hrounds
  rcases hcall.descends grammar.consumes_read (Notion.guarded_rule n) with hds | ⟨rfl, hrank⟩
  · exact (hlater m).eq_read ds (Nat.lt_of_lt_of_le hds.2 hle)
  · exact (hfront m hrank).eq_read ds hcs

/-- A rule that asks for nothing at its front is read right if all notions are in shorter texts. -/
theorem isReadBy_run_of_rank {n : Notion} (hn : n.rank = 0) {ρ : (m : Notion) → Reader m.Value}
    (hrounds : size ≤ rounds) (hlater : ∀ m : Notion, m.IsReadBy size (ρ m)) :
    n.IsReadBy (size + 1) (n.rule.run (fun _ => rounds) ρ) :=
  n.isReadBy_run hrounds hlater fun m hm => absurd (hn ▸ hm) (Nat.not_lt_zero m.rank)

/-- A rule is read right if all notions are. -/
theorem isReadBy_run_of_forall (n : Notion) {ρ : (m : Notion) → Reader m.Value}
    (hrounds : size ≤ rounds) (h : ∀ m : Notion, m.IsReadBy (size + 1) (ρ m)) :
    n.IsReadBy (size + 1) (n.rule.run (fun _ => rounds) ρ) :=
  n.isReadBy_run hrounds (fun m => (h m).mono (Nat.le_succ size)) fun m _ => h m

/-- One reader among others. -/
theorem IsReadBy.update {n : Notion} {p : Reader n.Value} (hp : n.IsReadBy size p)
    {ρ : (m : Notion) → Reader m.Value} (hρ : ∀ m : Notion, m.IsReadBy size (ρ m)) (m : Notion) :
    m.IsReadBy size (Function.update ρ n p m) := by
  by_cases h : m = n
  · subst h
    rwa [Function.update_self]
  · rw [Function.update_of_ne h]
    exact hρ m

/-- The reader of one notion, and the others as the grammar says. -/
theorem IsReadBy.only {n : Notion} {p : Reader n.Value} (hp : n.IsReadBy size p) (m : Notion) :
    m.IsReadBy size (Function.update grammar.read n p m) :=
  hp.update (fun m => m.isReadBy_read size) m

/-! ### The rules are the readers -/

section

variable {ρ : (m : Notion) → Reader m.Value}

theorem run_atom : atom.rule.run (fun _ => size) ρ = Source.atom size (ρ expr) := rfl

theorem run_product {self : Reader Expr} (hatom : ρ atom = Source.atom size self) :
    product.rule.run (fun _ => size) ρ = Source.product size self := by
  rw [Source.product, ← hatom]
  rfl

theorem run_sum {self : Reader Expr} (hproduct : ρ product = Source.product size self) :
    sum.rule.run (fun _ => size) ρ = Source.sum size self := by
  rw [Source.sum, ← hproduct]
  rfl

theorem run_comparison {self : Reader Expr} (hsum : ρ sum = Source.sum size self) :
    comparison.rule.run (fun _ => size) ρ = Source.comparison size self := by
  rw [Source.comparison, ← hsum]
  rfl

theorem run_expr (hcomparison : ρ comparison = Source.comparison size (ρ expr)) :
    expr.rule.run (fun _ => size) ρ = exprOf size (ρ expr) := by
  rw [exprOf, ← hcomparison]
  rfl

theorem run_binding (hexpr : ρ expr = Source.expr size) :
    binding.rule.run (fun _ => size) ρ = Source.binding size := by
  rw [Source.binding, ← hexpr]
  rfl

theorem run_block : block.rule.run (fun _ => size) ρ = braced size (ρ stmt) := rfl

theorem run_branch {budget : Nat} (depth : Nat) (hexpr : ρ expr = Source.expr budget)
    (hbranch : ρ branch = Source.branch budget (ρ block) depth) :
    branch.rule.run (fun _ => size) ρ = Source.branch budget (ρ block) (depth + 1) := by
  rw [branch_succ, ← hexpr, ← hbranch]
  rfl

theorem run_stmt (self : Reader Stmt) (hexpr : ρ expr = Source.expr size)
    (hbinding : ρ binding = Source.binding size) (hblock : ρ block = braced size self)
    (hbranch : ρ branch = Source.branch size (braced size self) size) :
    stmt.rule.run (fun _ => size) ρ = stmtOf size self := by
  rw [stmtOf, Source.giveBack, Source.loop, Source.count, Source.evaluation, ← hbranch, ← hblock,
    ← hbinding, ← hexpr]
  rfl

theorem run_function (hblock : ρ block = braced size (Source.stmt size)) :
    function.rule.run (fun _ => size) ρ = Source.function size := by
  rw [Source.function, ← hblock]
  rfl

theorem run_item (hfunction : ρ function = Source.function size)
    (hbinding : ρ binding = Source.binding size) :
    item.rule.run (fun _ => size) ρ = Source.item size := by
  rw [Source.item, ← hfunction, ← hbinding]
  rfl

end

/-! ### The readers of the language -/

section

variable {self : Reader Expr}

theorem isReadBy_atom (hself : expr.IsReadBy size self) :
    atom.IsReadBy (size + 1) (Source.atom size self) := by
  have h := isReadBy_run_of_rank (n := atom) rfl (Nat.le_refl size) hself.only
  rwa [run_atom, Function.update_self] at h

theorem isReadBy_product (hself : expr.IsReadBy size self) :
    product.IsReadBy (size + 1) (Source.product size self) := by
  have h := product.isReadBy_run_of_forall (Nat.le_refl size) (isReadBy_atom hself).only
  rwa [run_product (Function.update_self ..)] at h

theorem isReadBy_sum (hself : expr.IsReadBy size self) :
    sum.IsReadBy (size + 1) (Source.sum size self) := by
  have h := sum.isReadBy_run_of_forall (Nat.le_refl size) (isReadBy_product hself).only
  rwa [run_sum (Function.update_self ..)] at h

theorem isReadBy_comparison (hself : expr.IsReadBy size self) :
    comparison.IsReadBy (size + 1) (Source.comparison size self) := by
  have h := comparison.isReadBy_run_of_forall (Nat.le_refl size) (isReadBy_sum hself).only
  rwa [run_comparison (Function.update_self ..)] at h

theorem isReadBy_exprOf (hself : expr.IsReadBy size self) :
    expr.IsReadBy (size + 1) (exprOf size self) := by
  have hcomparison := isReadBy_comparison hself
  -- the expression inside an assignment comes later; only the comparison may stand at the front
  have hlater := hself.update (hcomparison.mono (Nat.le_succ size)).only
  have h := expr.isReadBy_run (Nat.le_refl size) hlater fun m hm => by
    have hne : m ≠ expr := by
      rintro rfl
      exact absurd hm (Nat.lt_irrefl _)
    rw [Function.update_of_ne hne]
    exact hcomparison.only m
  rwa [run_expr, Function.update_self] at h
  rw [Function.update_self, Function.update_of_ne (by decide), Function.update_self]

end

/-- A reader that always refuses. -/
theorem consumes_failure : Consumes (failure : Reader α) := by
  intro cs r hr
  cases hr

/-- An expression is read right if the budget exceeds the length of the text. -/
theorem isReadBy_expr (budget : Nat) : expr.IsReadBy budget (Source.expr budget) := by
  induction budget with
  | zero => exact (isReadBy_one consumes_failure).mono (Nat.zero_le 1)
  | succ budget ih => exact isReadBy_exprOf ih

theorem isReadBy_binding (budget : Nat) :
    binding.IsReadBy (budget + 1) (Source.binding budget) := by
  have h := isReadBy_run_of_rank (n := binding) rfl (Nat.le_refl budget) (isReadBy_expr budget).only
  rwa [run_binding (Function.update_self ..)] at h

theorem isReadBy_block {self : Reader Stmt} (hself : stmt.IsReadBy size self)
    (hrounds : size ≤ rounds) : block.IsReadBy (size + 1) (braced rounds self) := by
  have h := isReadBy_run_of_rank (n := block) rfl hrounds hself.only
  rwa [run_block, Function.update_self] at h

/-- Conditions are chained less often than the text has characters. -/
theorem isReadBy_branch {budget depth : Nat} {body : Reader (List Stmt)}
    (hexpr : expr.IsReadBy size (Source.expr budget)) (hbody : block.IsReadBy size body)
    (hdepth : size ≤ depth) : branch.IsReadBy (size + 1) (Source.branch budget body depth) := by
  induction depth generalizing size with
  | zero =>
    obtain rfl := Nat.le_zero.mp hdepth
    exact isReadBy_one consumes_failure
  | succ depth ih =>
    -- a condition behind `else` has one character less, and one depth less will do for it
    have hpred : size - 1 ≤ size := Nat.sub_le size 1
    have hbranch := ih (hexpr.mono hpred) (hbody.mono hpred) (by omega)
    have hlater := hexpr.update (hbody.update (hbranch.mono (by omega : size ≤ size - 1 + 1)).only)
    have h := isReadBy_run_of_rank (n := branch) rfl (Nat.le_refl size) hlater
    rwa [run_branch depth (Function.update_self ..) (by simp), Function.update_of_ne (by decide),
      Function.update_self] at h

theorem isReadBy_stmtOf (budget : Nat) (ih : stmt.IsReadBy budget (Source.stmt budget)) :
    stmt.IsReadBy (budget + 1) (stmtOf (budget + 1) (Source.stmt budget)) := by
  have hexpr := isReadBy_expr (budget + 1)
  have hblock := isReadBy_block ih (Nat.le_succ budget)
  have hbinding := (isReadBy_binding (budget + 1)).mono (Nat.le_succ (budget + 1))
  have hbranch := isReadBy_branch (hexpr.mono (Nat.le_succ budget))
    (hblock.mono (Nat.le_succ budget)) (Nat.le_succ budget)
  have h := stmt.isReadBy_run_of_forall (Nat.le_succ budget)
    (hexpr.update (hblock.update (hbranch.update hbinding.only)))
  rwa [run_stmt (Source.stmt budget) (Function.update_self ..) (by simp) (by simp) (by simp)] at h

/-- A statement is read right if the budget exceeds the length of the text. -/
theorem isReadBy_stmt (budget : Nat) : stmt.IsReadBy budget (Source.stmt budget) := by
  induction budget with
  | zero => exact (isReadBy_one consumes_failure).mono (Nat.zero_le 1)
  | succ budget ih => exact isReadBy_stmtOf budget ih

theorem isReadBy_function (budget : Nat) :
    function.IsReadBy (budget + 1) (Source.function budget) := by
  have hblock := isReadBy_block (isReadBy_stmt budget) (Nat.le_refl budget)
  have h := isReadBy_run_of_rank (n := function) rfl (Nat.le_refl budget)
    (hblock.mono (Nat.le_succ budget)).only
  rwa [run_function (Function.update_self ..)] at h

theorem isReadBy_item (budget : Nat) : item.IsReadBy (budget + 1) (Source.item budget) := by
  have h := item.isReadBy_run_of_forall (Nat.le_refl budget)
    ((isReadBy_function budget).update (isReadBy_binding budget).only)
  rwa [run_item] at h
  · exact Function.update_self ..
  · rw [Function.update_of_ne (by decide), Function.update_self]

/-- The reader of a notion that a budget gives. -/
def reader (budget : Nat) : (n : Notion) → Reader n.Value
  | atom => Source.atom budget (Source.expr budget)
  | product => Source.product budget (Source.expr budget)
  | sum => Source.sum budget (Source.expr budget)
  | comparison => Source.comparison budget (Source.expr budget)
  | expr => Source.expr budget
  | binding => Source.binding budget
  | block => braced budget (Source.stmt budget)
  | branch => Source.branch budget (braced budget (Source.stmt budget)) budget
  | stmt => Source.stmt budget
  | function => Source.function budget
  | item => Source.item budget

/-- **Every notion is read right if the budget exceeds the length of the text.** -/
theorem isReadBy_reader (budget : Nat) (n : Notion) : n.IsReadBy budget (n.reader budget) := by
  have hexpr := isReadBy_expr budget
  have hstmt := isReadBy_stmt budget
  have hblock := (isReadBy_block hstmt (Nat.le_refl budget)).mono (Nat.le_succ budget)
  have hle := Nat.le_succ budget
  cases n with
  | atom => exact (isReadBy_atom hexpr).mono hle
  | product => exact (isReadBy_product hexpr).mono hle
  | sum => exact (isReadBy_sum hexpr).mono hle
  | comparison => exact (isReadBy_comparison hexpr).mono hle
  | expr => exact hexpr
  | binding => exact (isReadBy_binding budget).mono hle
  | block => exact hblock
  | branch => exact (isReadBy_branch hexpr hblock (Nat.le_refl budget)).mono hle
  | stmt => exact hstmt
  | function => exact (isReadBy_function budget).mono hle
  | item => exact (isReadBy_item budget).mono hle

end Notion

/-! ### The arguments of a call -/

theorem pure_bind_eq {β : Type} (a : α) (f : α → Reader β) : pure a >>= f = f a := by
  funext cs
  cases h : f a cs with
  | none => exact bind_of_none_right (p := pure a) rfl h
  | some r => exact bind_of_some (p := pure a) rfl h

theorem bind_bind_eq {β γ : Type} (p : Reader α) (f : α → Reader β) (g : β → Reader γ) :
    p >>= f >>= g = p >>= fun a => f a >>= g := by
  funext cs
  cases hp : p cs with
  | none => rw [bind_of_none (bind_of_none hp f), bind_of_none hp]
  | some r =>
    cases hf : f r.value r.rest with
    | none =>
      rw [bind_of_none (bind_of_none_right hp hf), bind_of_none_right hp (bind_of_none hf g)]
    | some s =>
      cases hg : g s.value s.rest with
      | none =>
        rw [bind_of_none_right (bind_of_some hp hf) hg,
          bind_of_none_right hp (bind_of_none_right hf hg)]
      | some t =>
        rw [bind_of_some (bind_of_some hp hf) hg, bind_of_some hp (bind_of_some hf hg),
          List.append_assoc]

instance : LawfulMonad Reader := by
  refine LawfulMonad.mk' Reader (fun p => ?_) pure_bind_eq bind_bind_eq
  funext cs
  cases h : p cs with
  | none => exact map_of_none h id
  | some r => exact map_of_some h id

/-- The arguments of a call, in parentheses. -/
def arguments (budget : Nat) (self : Reader Expr) : Reader (List Expr) := do
  symbol "("
  let args ← commaList self budget
  symbol ")"
  pure args

/-- A call is a name with arguments. -/
theorem call_eq (budget : Nat) (self : Reader Expr) :
    call budget self = (do
      let callee ← name
      let args ← arguments budget self
      pure (.call callee args)) := by
  simp only [call, arguments, bind_assoc, pure_bind]

theorem consumes_arguments (budget : Nat) {self : Reader Expr} (hself : Consumes self) :
    Consumes (arguments budget self) := by
  have hρ := fun m => ((Notion.isReadBy_one (n := .expr) hself).only m).consumes
  have hrule : Rule.arguments.Advances := .inl trivial
  have h : Consumes (Rule.arguments.run (fun _ => budget) _) := Rule.consumes_run hρ hrule
  change Consumes (arguments budget (Function.update grammar.read .expr self .expr)) at h
  rwa [Function.update_self] at h

/-! ### Whole texts -/

theorem many_item_eq {budget : Nat} {cs : List Char} (h : cs.length ≤ budget) :
    many (item budget) budget cs = Rule.items.read grammar.read cs := by
  have hitems := (Notion.isReadBy_item budget).only
  have hrun : Rule.items.run (fun _ => budget) (Function.update grammar.read .item (item budget))
      = many (item budget) budget := by
    change many (Function.update grammar.read .item (item budget) .item) budget = _
    rw [Function.update_self]
  rw [← hrun]
  refine Rule.run_congr grammar.consumes_read Rule.guarded_items (fun m ds hcall => ?_)
    fun ds hds => Nat.le_trans hds.length_le h
  have hle : ds.length ≤ cs.length := by
    rcases hcall.descends grammar.consumes_read Rule.guarded_items with hds | ⟨rfl, -⟩
    · exact hds.1.length_le
    · exact Nat.le_refl _
  exact (hitems m).eq_read ds (Nat.lt_succ_of_le (Nat.le_trans hle h))

/-- Declarations are read right if the budget is as large as the text is long. -/
theorem file_eq {budget : Nat} {cs : List Char} (h : cs.length ≤ budget) :
    file budget cs = Rule.items.read grammar.read (skipTrivia cs) := by
  have hskip : (skipTrivia cs).length ≤ budget :=
    Nat.le_trans (length_skipTriviaFrom_le false cs) h
  have htrivia : trivia cs = some ⟨(), [], skipTrivia cs⟩ := rfl
  obtain ⟨r, hr⟩ := exists_many (item budget) budget (skipTrivia cs)
  rw [← many_item_eq hskip, hr]
  exact bind_of_some htrivia hr

/-! ### Reading descends -/

/-- A rule says how a reader reads, and its calls and its rounds descend. -/
def Rule.Describes (p : Rule Notion.Value α) (allowed : Notion → Prop) (q : Reader α) : Prop :=
  p.read grammar.read = q ∧ ∀ cs e, p.Does grammar.read cs e → e.Descends allowed cs

theorem Rule.Guarded.describes {p : Rule Notion.Value α} {allowed : Notion → Prop}
    (h : p.Guarded allowed) {q : Reader α} (hq : p.read grammar.read = q) :
    p.Describes allowed q :=
  ⟨hq, fun _ _ he => he.descends grammar.consumes_read h⟩

/-- **Reading descends.**  Every notion takes at least one character where it is read, and so does
every round of every repetition; every call is made later in the text or for a notion of a lower
rank; so calls are nested no more deeply than the text allows.  No greater depth and no larger
budget changes what is read, whether anything is read or not. -/
theorem reading_descends :
    ((∀ (n : Notion) budget, Consumes (n.reader budget)) ∧
      (∀ budget self, call budget self = (do
        let callee ← name
        let args ← arguments budget self
        pure (.call callee args))) ∧
      (∀ budget depth, Consumes (arguments budget (expr depth))) ∧
      Consumes (Rule.comment.read grammar.read)) ∧
    ((∀ n : Notion, n.rule.Describes (fun m => m.rank < n.rank) (grammar.read n)) ∧
      (∀ cs e, Rule.items.Does grammar.read cs e → e.Descends (fun _ => True) cs) ∧
      Rule.trivia.Describes (fun _ => False) trivia ∧
      Rule.word.Describes (fun _ => False) (scan takeWord?) ∧
      Rule.digits.Describes (fun _ => False) (scan takeDigits?) ∧
      Rule.fraction.Describes (fun _ => False) (scan takeFraction?)) ∧
    ((∀ n cs calls, List.IsChain grammar.Calls ((n, cs) :: calls) →
        calls.length ≤ cs.length * 6 + n.rank) ∧
      (∀ n cs depth, cs.length * 6 + n.rank < depth →
        grammar.unroll depth n cs = grammar.read n cs) ∧
      ∀ ρ, ρ = grammar.read ↔ ∀ n, ρ n = n.rule.read ρ) ∧
    (∀ (n : Notion) cs budget, cs.length < budget → n.reader budget cs = grammar.read n cs) ∧
    ∀ cs budget, cs.length ≤ budget →
      file budget cs = Rule.items.read grammar.read (skipTrivia cs) := by
  refine ⟨⟨fun n budget => (n.isReadBy_reader budget).consumes, call_eq,
      fun budget depth => ?_, ?_⟩,
    ⟨fun n => (Notion.guarded_rule n).describes (Grammar.read_eq n).symm, fun cs e he => ?_,
      Rule.guarded_trivia.describes Rule.read_trivia, Rule.guarded_word.describes Rule.read_word,
      Rule.guarded_digits.describes Rule.read_digits,
      Rule.guarded_fraction.describes Rule.read_fraction⟩,
    ⟨fun n cs calls h => ?_, fun n cs depth h => ?_, fun ρ => Grammar.eq_read_iff⟩,
    fun n cs budget h => (n.isReadBy_reader budget).eq_read cs h, fun cs budget h => file_eq h⟩
  · exact consumes_arguments budget (Notion.isReadBy_expr depth).consumes
  · exact Rule.consumes_run grammar.consumes_read (.inl trivial)
  · exact he.descends grammar.consumes_read Rule.guarded_items
  · exact Nat.le_of_lt_succ (Grammar.length_lt_bound h)
  · exact Grammar.unroll_eq_read h

theorem reading_descends_truncatedCall :
    (List.IsChain grammar.Calls [(.sum, ['1']), (.product, ['1']), (.atom, ['1'])] ∧
      2 ≤ 1 * 6 + Notion.sum.rank) ∧
    (Event.call .atom ['1']).Descends (fun m : Notion => m.rank < 1) ['1'] ∧
    (3 < 100 ∧ grammar.unroll 100 .expr ['f', '(', '1'] = some ⟨.ident "f", [], ['(', '1']⟩ ∧
      expr 100 ['f', '(', '1'] = some ⟨.ident "f", [], ['(', '1']⟩) ∧
    (4 ≤ 100 ∧ file 100 ['l', 'e', 't', ' '] = some ⟨[], [], ['l', 'e', 't', ' ']⟩) := by
  obtain ⟨-, ⟨hrule, -⟩, ⟨hchain, hdepth, -⟩, hreader, hfile⟩ := reading_descends
  have hsum : grammar.Calls (.sum, ['1']) (.product, ['1']) := .first .notion
  have hproduct : grammar.Calls (.product, ['1']) (.atom, ['1']) := .first .notion
  have hcalls : List.IsChain grammar.Calls [(.sum, ['1']), (.product, ['1']), (.atom, ['1'])] :=
    .cons_cons hsum (.cons_cons hproduct (.singleton _))
  have hsmall : expr 4 ['f', '(', '1'] = some ⟨.ident "f", [], ['(', '1']⟩ := by decide +kernel
  have hread : grammar.read .expr ['f', '(', '1'] = some ⟨.ident "f", [], ['(', '1']⟩ :=
    (hreader .expr ['f', '(', '1'] 4 (by decide)).symm.trans hsmall
  have hend : file 4 ['l', 'e', 't', ' '] = some ⟨[], [], ['l', 'e', 't', ' ']⟩ := by decide +kernel
  refine ⟨⟨hcalls, hchain _ _ _ hcalls⟩, (hrule .product).2 _ _ hproduct, ⟨by decide, ?_, ?_⟩,
    by decide, ?_⟩
  · exact (hdepth .expr _ 100 (by decide)).trans hread
  · exact (hreader .expr _ 100 (by decide)).trans hread
  · exact (hfile _ 100 (by decide)).trans ((hfile _ 4 (by decide)).symm.trans hend)

end ToyLang.Source
