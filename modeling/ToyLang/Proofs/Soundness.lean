import ToyLang.Proofs.Readers
import ToyLang.Source.Equality
import ToyLang.Source.Grammar

/-!
# What the parser reads is there

A program that the parser returns is well formed, and the text is a layout of its tokens:
nothing of the text outside the trivia is left out, and nothing is used twice.

The readers take themselves as an argument; each is sound if the one inside is, and the
budget is what the induction is on.

## Main definitions

* `Expr.Fits` — a well-formed expression of some rank and its tokens.

## Main results

* `expr_yields`, `stmt_yields`, `item_yields` — the readers of the three levels.
* `parse_sound` — **the text of a program is a layout of its tokens.**
-/

namespace ToyLang.Source

open Reader Text

/-! ### Expressions -/

/-- A well-formed expression that is bound together at least as tightly as the rank says,
and its tokens. -/
structure Expr.Fits (rank : Nat) (e : Expr) (ts : List Token) : Prop where
  wellFormed : e.WellFormed
  rank_le : e.rank ≤ rank
  tokens : e.Tokens ts

theorem Expr.Fits.mono {m n : Nat} {e : Expr} {ts : List Token} (h : e.Fits m ts) (hle : m ≤ n) :
    e.Fits n ts := ⟨h.wellFormed, Nat.le_trans h.rank_le hle, h.tokens⟩

theorem Expr.rank_le_three (e : Expr) : e.rank ≤ 3 := by
  cases e with
  | arith op lhs rhs => cases op <;> simp [rank, ArithmeticOp.rank]
  | _ => simp [rank]

variable {α : Type} {self : Reader Expr} {budget : Nat}

/-- One of the two kinds of numerals, or something else. -/
theorem numeral_yields {q : Reader Expr} (hq : Yields q (Expr.Fits 0)) :
    Yields ((.float <$> fractional) <|> (.int <$> whole) <|> q) (Expr.Fits 0) := by
  intro cs r hcs hr
  cases hfractional : fractional cs with
  | some f =>
    have hfloat : Yields (Expr.float <$> fractional) (Expr.Fits 0) := by
      refine fractional_yields.map ?_
      rintro _ _ ⟨n, valid, rfl, rfl⟩
      exact ⟨.float n valid.1 valid.2, Nat.le_refl _, .float n valid⟩
    have hread := map_of_some hfractional Expr.float
    rw [orElse_of_some hread] at hr
    obtain rfl := Option.some.inj hr
    exact hfloat hcs hread
  | none =>
    rw [orElse_of_none (map_of_none hfractional _)] at hr
    cases hwhole : whole cs with
    | some i =>
      rw [orElse_of_some (map_of_some hwhole Expr.int)] at hr
      obtain rfl := Option.some.inj hr
      obtain ⟨n, valid, hlaid, hvalue⟩ := whole_yields hcs hfractional hwhole
      rw [hvalue]
      exact ⟨_, hlaid, .int, Nat.le_refl _, .int n valid⟩
    | none =>
      rw [orElse_of_none (map_of_none hwhole _)] at hr
      exact hq hcs hr

theorem call_yields (hself : Yields self (Expr.Fits 3)) :
    Yields (call budget self) (Expr.Fits 0) := by
  refine .bind name_yields ?_
  rintro callee _ ⟨valid, rfl⟩
  refine .bind (symbol_yields .leftParen) ?_
  rintro _ _ rfl
  refine .bind (hself.commaList budget) fun args ts hargs => .bind (symbol_yields .rightParen) ?_
  rintro _ _ rfl
  have hwell : ∀ a ∈ args, a.WellFormed := hargs.forall_mem fun _ _ h => h.wellFormed
  have htokens : Commas Expr.Tokens args ts := hargs.imp fun _ _ _ _ h => h.tokens
  exact .pure ⟨.call valid hwell, Nat.le_refl _, .call valid htokens⟩

theorem paren_yields (hself : Yields self (Expr.Fits 3)) : Yields (paren self) (Expr.Fits 0) := by
  refine .bind (symbol_yields .leftParen) ?_
  rintro _ _ rfl
  refine .bind hself fun inner ts hinner => .bind (symbol_yields .rightParen) ?_
  rintro _ _ rfl
  exact .pure ⟨.paren hinner.wellFormed, Nat.le_refl _, .paren hinner.tokens⟩

theorem atom_yields (hself : Yields self (Expr.Fits 3)) :
    Yields (atom budget self) (Expr.Fits 0) := by
  refine numeral_yields (.orElse ?_ (.orElse ?_ (.orElse (call_yields hself) (.orElse ?_
    (paren_yields hself)))))
  · refine .bind (keyword_yields .trueWord) ?_
    rintro _ _ rfl
    exact .pure ⟨.bool, Nat.le_refl _, .true⟩
  · refine .bind (keyword_yields .falseWord) ?_
    rintro _ _ rfl
    exact .pure ⟨.bool, Nat.le_refl _, .false⟩
  · refine name_yields.map ?_
    rintro n _ ⟨valid, rfl⟩
    exact ⟨.ident valid, Nat.le_refl _, .ident valid⟩

/-- One more operand of a chain: its operator and its tokens. -/
def LinkFits (choices : List ArithmeticOp) (rank : Nat) (r : ArithmeticOp × Expr)
    (ts : List Token) : Prop :=
  r.1 ∈ choices ∧ ∃ us, ts = .arith r.1 :: us ∧ r.2.Fits rank us

/-- A chain groups from the left. -/
theorem fits_chain {choices : List ArithmeticOp} {rank : Nat}
    (hchoices : ∀ op ∈ choices, ArithmeticOp.rank op = rank + 1)
    {first : Expr} {others : List (ArithmeticOp × Expr)} {ts us : List Token}
    (hfirst : first.Fits (rank + 1) ts) (hothers : Each (LinkFits choices rank) others us) :
    (others.foldl (fun lhs r => .arith r.1 lhs r.2) first).Fits (rank + 1) (ts ++ us) := by
  induction hothers generalizing first ts with
  | nil => simpa using hfirst
  | @cons r others vs us hr _ ih =>
    obtain ⟨hop, vs, rfl, hrhs⟩ := hr
    have hrank := hchoices r.1 hop
    have hleft : first.rank ≤ ArithmeticOp.rank r.1 := by rw [hrank]; exact hfirst.rank_le
    have hright : r.2.rank < ArithmeticOp.rank r.1 := by
      rw [hrank]
      exact Nat.lt_succ_of_le hrhs.rank_le
    have hlink : (Expr.arith r.1 first r.2).Fits (rank + 1) (ts ++ .arith r.1 :: vs) :=
      ⟨.arith hleft hright hfirst.wellFormed hrhs.wellFormed, Nat.le_of_eq hrank,
        .arith hfirst.tokens hrhs.tokens⟩
    simpa using ih hlink

theorem chain_yields {choices : List ArithmeticOp} {rank : Nat} {operand : Reader Expr}
    (hchoices : ∀ op ∈ choices, ArithmeticOp.rank op = rank + 1)
    (hoperand : Yields operand (Expr.Fits rank)) :
    Yields (chain choices operand budget) (Expr.Fits (rank + 1)) := by
  have hlink : Yields (do let op ← arithmeticOp choices; let rhs ← operand; pure (op, rhs))
      (LinkFits choices rank) := by
    refine .bind (arithmeticOp_yields choices) ?_
    rintro op _ ⟨hop, rfl⟩
    refine .bind hoperand fun rhs us hrhs => .pure ⟨hop, us, ?_, hrhs⟩
    simp
  refine .bind hoperand fun first ts hfirst => .bind (hlink.many budget) fun others us hothers =>
    .pure ?_
  rw [List.append_nil]
  exact fits_chain hchoices (hfirst.mono (Nat.le_succ rank)) hothers

theorem product_yields (hself : Yields self (Expr.Fits 3)) :
    Yields (product budget self) (Expr.Fits 1) :=
  chain_yields (by decide) (atom_yields hself)

theorem sum_yields (hself : Yields self (Expr.Fits 3)) : Yields (sum budget self) (Expr.Fits 2) :=
  chain_yields (by decide) (product_yields hself)

theorem comparison_yields (hself : Yields self (Expr.Fits 3)) :
    Yields (comparison budget self) (Expr.Fits 3) := by
  refine .bind (sum_yields hself) fun lhs ts hlhs =>
    .orElse (.bind comparisonOp_yields ?_) (.pure ?_)
  · rintro op _ rfl
    refine .bind (sum_yields hself) fun rhs us hrhs => .pure ?_
    rw [List.append_nil]
    exact ⟨.compare hlhs.rank_le hrhs.rank_le hlhs.wellFormed hrhs.wellFormed, Nat.le_refl _,
      .compare hlhs.tokens hrhs.tokens⟩
  · rw [List.append_nil]
    exact hlhs.mono (by decide)

theorem assign_yields (hself : Yields self (Expr.Fits 3)) : Yields (assign self) (Expr.Fits 3) := by
  refine .bind name_yields ?_
  rintro target _ ⟨valid, rfl⟩
  refine .bind (symbol_yields .equals) ?_
  rintro _ _ rfl
  refine .bind hself fun value ts hvalue => .pure ?_
  rw [List.append_nil]
  exact ⟨.assign valid hvalue.wellFormed, Nat.le_refl _, .assign valid hvalue.tokens⟩

/-- An expression that is read is well formed, and its tokens are what was read. -/
theorem expr_yields (budget : Nat) : Yields (expr budget) (Expr.Fits 3) := by
  induction budget with
  | zero => exact .fail
  | succ budget ih => exact .orElse (assign_yields ih) (comparison_yields ih)

/-! ### Statements -/

/-- A well-formed statement and its tokens. -/
structure Stmt.Fits (s : Stmt) (ts : List Token) : Prop where
  wellFormed : s.WellFormed
  tokens : s.Tokens ts

/-- Well-formed statements in braces and their tokens. -/
def BodyFits (body : List Stmt) (ts : List Token) : Prop :=
  (∀ s ∈ body, s.WellFormed) ∧ ∃ us, ts = inBraces us ∧ Each Stmt.Tokens body us

theorem binding_yields (budget : Nat) :
    Yields (binding budget) fun b ts => b.WellFormed ∧ b.Tokens ts := by
  refine .bind (keyword_yields .letWord) ?_
  rintro _ _ rfl
  refine .bind name_yields ?_
  rintro n _ ⟨hname, rfl⟩
  refine .bind (symbol_yields .colon) ?_
  rintro _ _ rfl
  refine .bind name_yields ?_
  rintro type _ ⟨htype, rfl⟩
  refine .bind (symbol_yields .equals) ?_
  rintro _ _ rfl
  refine .bind (expr_yields budget) fun init ts hinit => .bind (symbol_yields .semicolon) ?_
  rintro _ _ rfl
  exact .pure ⟨⟨hname, htype, hinit.wellFormed⟩, .mk hname htype hinit.tokens⟩

theorem braced_yields {self : Reader Stmt} (hself : Yields self Stmt.Fits) :
    Yields (braced budget self) BodyFits := by
  refine .bind (symbol_yields .leftBrace) ?_
  rintro _ _ rfl
  refine .bind (hself.many budget) fun body ts hbody => .bind (symbol_yields .rightBrace) ?_
  rintro _ _ rfl
  have hwell : ∀ s ∈ body, s.WellFormed := hbody.forall_mem fun _ _ h => h.wellFormed
  exact .pure ⟨hwell, ts, rfl, hbody.imp fun _ _ _ _ h => h.tokens⟩

/-- What follows a condition, well formed, and its tokens. -/
structure Else.Fits (otherwise : Else) (ts : List Token) : Prop where
  wellFormed : otherwise.WellFormed
  tokens : otherwise.Tokens ts

/-- The parts of a condition, well formed, and their tokens. -/
structure Branch.Fits (b : Branch) (ts : List Token) : Prop where
  test : b.test.WellFormed
  body : ∀ s ∈ b.body, s.WellFormed
  otherwise : b.otherwise.WellFormed
  tokens : ∃ us vs ws, ts = .keyword .ifWord :: (us ++ (inBraces vs ++ ws)) ∧ b.test.Tokens us ∧
    Each Stmt.Tokens b.body vs ∧ b.otherwise.Tokens ws

theorem Branch.Fits.stmt {b : Branch} {ts : List Token} (h : b.Fits ts) :
    (Stmt.cond b.test b.body b.otherwise).Fits ts := by
  obtain ⟨us, vs, ws, rfl, htest, hbody, hotherwise⟩ := h.tokens
  exact ⟨.cond h.test h.body h.otherwise, .cond htest hbody hotherwise⟩

theorem Branch.Fits.behindElse {b : Branch} {ts : List Token} (h : b.Fits ts) :
    (Else.cond b.test b.body b.otherwise).Fits (.keyword .elseWord :: ts) := by
  obtain ⟨us, vs, ws, rfl, htest, hbody, hotherwise⟩ := h.tokens
  exact ⟨.cond h.test h.body h.otherwise, .cond htest hbody hotherwise⟩

/-- An `else` with what follows it, or nothing, given readers for a further condition and
for a block. -/
def elsePart (next : Reader Branch) (body : Reader (List Stmt)) : Reader Else :=
  (do
    keyword .elseWord
    (do
      let b ← next
      pure (Else.cond b.test b.body b.otherwise))
    <|> (Else.block <$> body))
  <|> pure Else.none

theorem branch_succ (body : Reader (List Stmt)) (depth : Nat) :
    branch budget body (depth + 1) = (do
      keyword .ifWord
      let test ← expr budget
      let block ← body
      let otherwise ← elsePart (branch budget body depth) body
      pure ⟨test, block, otherwise⟩) := rfl

theorem elsePart_yields {next : Reader Branch} {body : Reader (List Stmt)}
    (hnext : Yields next Branch.Fits) (hbody : Yields body BodyFits) :
    Yields (elsePart next body) Else.Fits := by
  refine .orElse (.bind (keyword_yields .elseWord) ?_) (.pure ⟨.none, .none⟩)
  rintro _ _ rfl
  refine .orElse (.bind hnext fun b ts hb => .pure ?_) (hbody.map ?_)
  · rw [List.append_nil]
    exact hb.behindElse
  · rintro body _ ⟨hwell, ts, rfl, hbody⟩
    exact ⟨.block hwell, .block hbody⟩

theorem branch_yields {body : Reader (List Stmt)} (hbody : Yields body BodyFits) (depth : Nat) :
    Yields (branch budget body depth) Branch.Fits := by
  induction depth with
  | zero => exact .fail
  | succ depth ih =>
    rw [branch_succ]
    refine .bind (keyword_yields .ifWord) ?_
    rintro _ _ rfl
    refine .bind (expr_yields budget) fun test us htest => .bind hbody ?_
    rintro stmts _ ⟨hwell, vs, rfl, hstmts⟩
    refine .bind (elsePart_yields ih hbody) fun otherwise ws hotherwise => .pure ?_
    rw [List.append_nil]
    exact ⟨htest.wellFormed, hwell, hotherwise.wellFormed,
      us, vs, ws, rfl, htest.tokens, hstmts, hotherwise.tokens⟩

theorem giveBack_yields (budget : Nat) : Yields (giveBack budget) Stmt.Fits := by
  refine .bind (keyword_yields .returnWord) ?_
  rintro _ _ rfl
  refine .bind (expr_yields budget) fun value ts hvalue => .bind (symbol_yields .semicolon) ?_
  rintro _ _ rfl
  exact .pure ⟨.ret hvalue.wellFormed, .ret hvalue.tokens⟩

theorem loop_yields {body : Reader (List Stmt)} (hbody : Yields body BodyFits) :
    Yields (loop budget body) Stmt.Fits := by
  refine .bind (keyword_yields .whileWord) ?_
  rintro _ _ rfl
  refine .bind (expr_yields budget) fun test us htest => .bind hbody ?_
  rintro body _ ⟨hwell, vs, rfl, hbody⟩
  refine .pure ?_
  rw [List.append_nil]
  exact ⟨.loop htest.wellFormed hwell, .loop htest.tokens hbody⟩

theorem count_yields {body : Reader (List Stmt)} (hbody : Yields body BodyFits) :
    Yields (count budget body) Stmt.Fits := by
  refine .bind (keyword_yields .forWord) ?_
  rintro _ _ rfl
  refine .bind name_yields ?_
  rintro var _ ⟨valid, rfl⟩
  refine .bind (keyword_yields .inWord) ?_
  rintro _ _ rfl
  refine .bind (expr_yields budget) fun first us hfirst => .bind (symbol_yields .dots) ?_
  rintro _ _ rfl
  refine .bind (expr_yields budget) fun bound vs hbound => .bind hbody ?_
  rintro body _ ⟨hwell, ws, rfl, hbody⟩
  refine .pure ?_
  rw [List.append_nil]
  exact ⟨.count valid hfirst.wellFormed hbound.wellFormed hwell,
    .count valid hfirst.tokens hbound.tokens hbody⟩

theorem evaluation_yields (budget : Nat) : Yields (evaluation budget) Stmt.Fits := by
  refine .bind (expr_yields budget) fun value ts hvalue => .bind (symbol_yields .semicolon) ?_
  rintro _ _ rfl
  exact .pure ⟨.eval hvalue.wellFormed, .eval hvalue.tokens⟩

theorem stmtOf_yields {self : Reader Stmt} (hself : Yields self Stmt.Fits) :
    Yields (stmtOf budget self) Stmt.Fits := by
  have hbraced : Yields (braced budget self) BodyFits := braced_yields hself
  have hbind : Yields (Stmt.bind <$> binding budget) Stmt.Fits :=
    (binding_yields budget).map fun _ _ h => ⟨.bind h.1, .bind h.2⟩
  have hcond : Yields (do let b ← branch budget (braced budget self) budget
                          pure (Stmt.cond b.test b.body b.otherwise)) Stmt.Fits := by
    refine .bind (branch_yields hbraced budget) fun b ts hb => .pure ?_
    rw [List.append_nil]
    exact hb.stmt
  have hblock : Yields (Stmt.block <$> braced budget self) Stmt.Fits := by
    refine hbraced.map ?_
    rintro body _ ⟨hwell, ts, rfl, hbody⟩
    exact ⟨.block hwell, .block hbody⟩
  exact hbind.orElse <| (giveBack_yields budget).orElse <| hcond.orElse <|
    (loop_yields hbraced).orElse <| (count_yields hbraced).orElse <| hblock.orElse <|
    evaluation_yields budget

/-- A statement that is read is well formed, and its tokens are what was read. -/
theorem stmt_yields (budget : Nat) : Yields (stmt budget) Stmt.Fits := by
  induction budget with
  | zero => exact .fail
  | succ budget ih => exact stmtOf_yields ih

/-! ### The top level -/

theorem param_yields : Yields param ParamTokens := by
  refine .bind name_yields ?_
  rintro n _ ⟨hname, rfl⟩
  refine .bind (symbol_yields .colon) ?_
  rintro _ _ rfl
  refine .bind name_yields ?_
  rintro type _ ⟨htype, rfl⟩
  exact .pure (.mk hname htype)

theorem function_yields (budget : Nat) :
    Yields (function budget) fun f ts => f.WellFormed ∧ f.Tokens ts := by
  refine .bind (keyword_yields .fnWord) ?_
  rintro _ _ rfl
  refine .bind name_yields ?_
  rintro n _ ⟨hname, rfl⟩
  refine .bind (symbol_yields .leftParen) ?_
  rintro _ _ rfl
  refine .bind (param_yields.commaList budget) fun params ts hparams =>
    .bind (symbol_yields .rightParen) ?_
  rintro _ _ rfl
  refine .bind (symbol_yields .arrow) ?_
  rintro _ _ rfl
  refine .bind name_yields ?_
  rintro result _ ⟨hresult, rfl⟩
  refine .bind (braced_yields (stmt_yields budget)) ?_
  rintro body _ ⟨hwell, us, rfl, hbody⟩
  have hnames : ∀ p ∈ params, isName p.name = true ∧ isName p.type = true := by
    refine hparams.forall_mem ?_
    rintro _ _ ⟨hname, htype⟩
    exact ⟨hname, htype⟩
  refine .pure ⟨⟨hname, hnames, hresult, hwell⟩, ?_⟩
  rw [List.append_nil]
  exact .mk hname hresult hparams hbody

theorem item_yields (budget : Nat) :
    Yields (item budget) fun i ts => i.WellFormed ∧ i.Tokens ts :=
  .orElse ((function_yields budget).map fun _ _ h => ⟨h.1, .function h.2⟩)
    ((binding_yields budget).map fun _ _ h => ⟨h.1, .bind h.2⟩)

/-- A program that is read is well formed, and the text begins with its tokens. -/
theorem file_yields {budget : Nat} {cs : List Char} {r : Reading (List Item)}
    (h : file budget cs = some r) : (∀ i ∈ r.value, i.WellFormed) ∧
      ∃ ts, Each Item.Tokens r.value ts ∧ Laid ts (skipTrivia cs) r.overflows r.rest := by
  obtain ⟨r₁, hr₁, r₂, hr₂, rfl⟩ := bind_eq_some.mp h
  obtain rfl := Option.some.inj hr₁
  obtain ⟨ts, hlaid, hitems⟩ := (item_yields budget).many budget (visible_skipTrivia cs) hr₂
  have hwell : ∀ i ∈ r₂.value, i.WellFormed := hitems.forall_mem fun _ _ h => h.1
  exact ⟨hwell, ts, hitems.imp fun _ _ _ _ h => h.2, hlaid⟩

theorem Reading.faults_eq_nil {length : Nat} {r : Reading α} :
    r.faults length = [] ↔ r.overflows = [] ∧ r.rest = [] := by
  rw [Reading.faults, List.append_eq_nil_iff, List.map_eq_nil_iff]
  split <;> simp_all

/-- A text is a program if it is read to its end without a fault. -/
theorem parse_eq_ok_iff {text : String} {items : List Item} :
    parse text = .ok items ↔ file text.toList.length text.toList = some ⟨items, [], []⟩ := by
  unfold parse
  cases hfile : file text.toList.length text.toList with
  | none => simp [hfile]
  | some r =>
    cases hfaults : r.faults (byteLength text.toList) with
    | nil =>
      obtain ⟨items', os, rest⟩ := r
      obtain ⟨rfl, rfl⟩ := Reading.faults_eq_nil.mp hfaults
      simp [hfile, hfaults]
    | cons fault faults =>
      have hne : r ≠ ⟨items, [], []⟩ := by
        rintro rfl
        simp [Reading.faults] at hfaults
      simp [hfile, hfaults, hne]

instance (text : String) (items : List Item) : Decidable (parse text = .ok items) :=
  decidable_of_iff _ parse_eq_ok_iff.symm

/-- **The text of a program is a layout of its tokens.**  The program is well formed, every
whole numeral is in range, and outside the trivia no character is left out or used twice. -/
theorem parse_sound {text : String} {items : List Item} (h : parse text = .ok items) :
    (∀ i ∈ items, i.WellFormed) ∧
    ∃ ts lead body, Each Item.Tokens items ts ∧ (∀ t ∈ ts, t.InRange) ∧
      text.toList = lead ++ body ∧ Trivia lead ∧ Layout ts body := by
  obtain ⟨hwell, ts, htokens, hlaid⟩ := file_yields (parse_eq_ok_iff.mp h)
  obtain ⟨lead, body, htext, hlead, hlayout⟩ := hlaid.layout
  exact ⟨hwell, ts, lead, body, htokens, hlaid.overflows_eq_nil.mp rfl, htext, hlead, hlayout⟩

/-- A function that takes one off its argument. -/
def oneLess : Item :=
  .function ⟨"f", [⟨"x", "t"⟩], "t", [.ret (.arith .sub (.ident "x") (.int 1))]⟩

theorem parse_sound_oneLess : parse "fn f(x:t,)->t\x7breturn x-1;\x7d//" = .ok [oneLess] ∧
    (∀ i ∈ [oneLess], i.WellFormed) ∧
    ∃ ts lead body, Each Item.Tokens [oneLess] ts ∧ (∀ t ∈ ts, t.InRange) ∧
      "fn f(x:t,)->t\x7breturn x-1;\x7d//".toList = lead ++ body ∧
      Trivia lead ∧ Layout ts body := by
  have hparse : parse "fn f(x:t,)->t\x7breturn x-1;\x7d//" = .ok [oneLess] := by decide +kernel
  exact ⟨hparse, parse_sound hparse⟩

end ToyLang.Source
