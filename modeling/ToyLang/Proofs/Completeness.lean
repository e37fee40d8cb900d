import ToyLang.Proofs.Soundness

/-!
# What is there is read by the parser

Every layout of the tokens of a well-formed program is read as that program.  The readers
choose the first alternative that fits and repeat as long as they can, so two things have to
be shown besides: on the tokens of one alternative the earlier ones refuse, and where a
repetition ends nothing more can be read.  Both are a matter of the next token, except for an
assignment, which takes the first half of `==` before it refuses.

The rounds of a repetition and the nesting of the readers are bounded; there are always more
tokens than either needs.

## Main definitions

* `Follow rank` — a text that does not go on with an expression of that rank.
* `Barren` — a text with which no expression begins.
* `Complete`, `StmtComplete` — what is assumed of the reader inside.

## Main results

* `chain_reads` — a chain of operators, from its leftmost operand.
* `assign_refuses` — nothing else is read as an assignment.
* `expr_complete`, `stmt_complete`, `item_reads` — the readers of the three levels.
* `parse_complete` — **every layout of a well-formed program is read as it.**
-/

namespace ToyLang.Source

open Reader Text

variable {α : Type}

/-! ### The first tokens of expressions -/

/-- The tokens with which an expression begins. -/
def Token.Begins : Token → Prop
  | name _ _ | whole _ _ | fractional _ _ | keyword .trueWord | keyword .falseWord
  | mark .leftParen => True
  | _ => False

theorem Expr.exists_first : (e : Expr) → {ts : List Token} → e.Tokens ts →
    ∃ t us, ts = t :: us ∧ t.Begins
  | .int _, _, .int n valid => ⟨_, [], rfl, trivial⟩
  | .float _, _, .float n valid => ⟨_, [], rfl, trivial⟩
  | .bool _, _, .true => ⟨_, [], rfl, trivial⟩
  | .bool _, _, .false => ⟨_, [], rfl, trivial⟩
  | .ident _, _, .ident valid => ⟨_, [], rfl, trivial⟩
  | .call _ _, _, .call valid _ => ⟨_, _, rfl, trivial⟩
  | .arith _ lhs _, _, .arith hlhs _ => by
    obtain ⟨t, us, rfl, ht⟩ := lhs.exists_first hlhs
    exact ⟨t, _, rfl, ht⟩
  | .compare _ lhs _, _, .compare hlhs _ => by
    obtain ⟨t, us, rfl, ht⟩ := lhs.exists_first hlhs
    exact ⟨t, _, rfl, ht⟩
  | .assign _ _, _, .assign valid _ => ⟨_, _, rfl, trivial⟩
  | .paren _, _, .paren _ => ⟨_, _, rfl, trivial⟩

theorem Expr.tokens_ne_nil {e : Expr} {ts : List Token} (h : e.Tokens ts) : ts ≠ [] := by
  obtain ⟨t, us, rfl, -⟩ := e.exists_first h
  simp

/-- The tokens that may stand behind a name with which an expression begins. -/
def Token.GoesOn : Token → Prop
  | mark .leftParen | arith _ | compare _ => True
  | _ => False

theorem second_of_left (lhs : Expr) {t : Token} {ts us : List Token}
    (ih : ∀ {n valid us}, ts = .name n valid :: us → us = [] ∨ ∃ t vs, us = t :: vs ∧ t.GoesOn)
    (hlhs : lhs.Tokens ts) (ht : t.GoesOn) :
    ∀ n valid vs, ts ++ t :: us = .name n valid :: vs →
      vs = [] ∨ ∃ t us, vs = t :: us ∧ t.GoesOn := by
  obtain ⟨u, ts, rfl, -⟩ := lhs.exists_first hlhs
  rintro n valid vs h
  obtain ⟨rfl, rfl⟩ := List.cons.inj h
  obtain rfl | ⟨u, us, rfl, hu⟩ := ih rfl
  · exact .inr ⟨t, _, rfl, ht⟩
  · exact .inr ⟨u, _, rfl, hu⟩

theorem Expr.exists_fractional {value : Binary64} {ts : List Token}
    (h : Expr.Tokens (.float value) ts) : ∃ n valid, ts = [.fractional n valid] := by
  cases h
  exact ⟨_, _, rfl⟩

/-- Behind a name with which an expression begins there is no `=`, unless the expression is
an assignment. -/
theorem Expr.exists_second {e : Expr} {ts : List Token} (hwell : e.WellFormed)
    (hne : ∀ target value, e ≠ .assign target value) (h : e.Tokens ts) :
    ∀ n valid us, ts = .name n valid :: us → us = [] ∨ ∃ t vs, us = t :: vs ∧ t.GoesOn := by
  induction hwell generalizing ts with
  | int =>
    cases h
    simp
  | float =>
    obtain ⟨_, _, rfl⟩ := exists_fractional h
    simp
  | bool =>
    cases h <;> simp
  | ident =>
    cases h
    rintro n valid us ⟨⟩
    exact .inl rfl
  | call =>
    cases h
    rintro n valid us ⟨⟩
    exact .inr ⟨_, _, rfl, trivial⟩
  | @arith op lhs rhs hrank _ _ _ ih =>
    have hne : ∀ target value, lhs ≠ .assign target value := by
      rintro target value rfl
      cases op <;> simp [rank, ArithmeticOp.rank] at hrank
    cases h with
    | arith hlhs _ => exact second_of_left lhs (ih hne hlhs _ _ _) hlhs trivial
  | @compare op lhs rhs hrank _ _ _ ih =>
    have hne : ∀ target value, lhs ≠ .assign target value := by
      rintro target value rfl
      simp [rank] at hrank
    cases h with
    | compare hlhs _ => exact second_of_left lhs (ih hne hlhs _ _ _) hlhs trivial
  | assign => exact absurd rfl (hne _ _)
  | paren =>
    cases h
    simp

/-! ### What follows an expression -/

/-- The characters with which a text goes on with an expression of a rank. -/
def goingOn : Nat → List Char
  | 0 => ['(']
  | 1 => ['(', '*', '/']
  | 2 => ['(', '*', '/', '+', '-']
  | _ => ['(', '*', '/', '+', '-', '=', '!', '<', '>']

/-- The text does not go on with an expression of the rank. -/
def Follow (rank : Nat) (rest : List Char) : Prop := ∀ c ∈ rest.head?, c ∉ goingOn rank

theorem goingOn_subset {m n : Nat} (h : m ≤ n) : goingOn m ⊆ goingOn n := by
  have hstep (n : Nat) : goingOn n ⊆ goingOn (n + 1) := by
    match n with
    | 0 | 1 | 2 => decide
    | n + 3 => exact List.Subset.refl _
  induction h with
  | refl => exact List.Subset.refl _
  | step _ ih => exact List.Subset.trans ih (hstep _)

theorem Follow.mono {m n : Nat} {rest : List Char} (h : Follow n rest) (hle : m ≤ n) :
    Follow m rest := fun c hc hmem => h c hc (goingOn_subset hle hmem)

theorem follow_cons {rank : Nat} {c : Char} (h : c ∉ goingOn rank) (cs : List Char) :
    Follow rank (c :: cs) := by
  rintro d ⟨⟩
  exact h

/-- What a token opens does not go on with an expression if its first character does not. -/
theorem opens_follow {rank : Nat} {t : Token} {c : Char} {cs : List Char}
    (hspelling : t.spelling = c :: cs) (h : c ∉ goingOn rank) : t.Opens (Follow rank) := by
  intro after _
  rw [hspelling]
  exact follow_cons h _

/-- An expression is read up to a mark behind it. -/
theorem reads_upTo {β : Type} {p : Reader Expr} {e : Expr} {ts : List Token} (g : Expr → β)
    {m : Mark} (hm : (Token.mark m).Opens (Follow 3)) (h : Reads p e ts (Follow 3))
    (F : List Char → Prop) :
    Reads (do let e ← p; symbol m.text; pure (g e)) (g e) (ts ++ [.mark m]) F :=
  h.bind ((symbol_reads m).token_bind .pure) (.cons hm)

theorem opens_rightParen : (Token.mark .rightParen).Opens (Follow 3) :=
  opens_follow rfl (by decide)

theorem opens_semicolon : (Token.mark .semicolon).Opens (Follow 3) :=
  opens_follow rfl (by decide)

theorem opens_leftBrace : (Token.mark .leftBrace).Opens (Follow 3) :=
  opens_follow rfl (by decide)

/-- No expression begins with the text. -/
def Barren (cs : List Char) : Prop :=
  ∀ c ∈ cs.head?, isStart c = false ∧ (c ≠ '-' ∧ c.isDigit = false) ∧ c ≠ '('

/-! ### Where nothing is read -/

section

variable {self : Reader Expr} {budget : Nat} {cs : List Char}

theorem atom_eq_none (hcs : Visible cs) (h : Barren cs) : atom budget self cs = none := by
  have hstart : ∀ c ∈ cs.head?, isStart c = false := fun c hc => (h c hc).1
  have hnumeral : ∀ c ∈ cs.head?, c ≠ '-' ∧ c.isDigit = false := fun c hc => (h c hc).2.1
  have hparen : cs.head? ≠ Mark.leftParen.text.toList.head? := fun hc => (h '(' hc).2.2 rfl
  have hname := name_eq_none hcs hstart
  exact orElse_eq_none (map_of_none (fractional_eq_none hcs hnumeral) _) <|
    orElse_eq_none (map_of_none (whole_eq_none hcs hnumeral) _) <|
    orElse_eq_none (bind_of_none (keyword_eq_none .trueWord hcs hstart) _) <|
    orElse_eq_none (bind_of_none (keyword_eq_none .falseWord hcs hstart) _) <|
    orElse_eq_none (bind_of_none hname _) <|
    orElse_eq_none (map_of_none hname _) (bind_of_none (symbol_eq_none .leftParen hcs hparen) _)

theorem comparison_eq_none (hcs : Visible cs) (h : Barren cs) : comparison budget self cs = none :=
  bind_of_none (bind_of_none (bind_of_none (atom_eq_none hcs h) _) _) _

theorem expr_eq_none (budget : Nat) (hcs : Visible cs) (h : Barren cs) : expr budget cs = none := by
  cases budget with
  | zero => rfl
  | succ budget =>
    have hname := name_eq_none hcs fun c hc => (h c hc).1
    exact orElse_eq_none (bind_of_none hname _) (comparison_eq_none hcs h)

end

/-! ### Atoms -/

/-- A reader of expressions that reads every expression from its tokens, where there are no
more tokens than the budget. -/
structure Complete (p : Reader Expr) (budget : Nat) : Prop where
  reads : ∀ ⦃e ts⦄, Expr.Fits 3 e ts → ts.length ≤ budget → Reads p e ts (Follow 3)
  refuses : ∀ ⦃cs⦄, Visible cs → Barren cs → p cs = none

/-- A token that does not begin like a numeral. -/
def Token.Numberless (t : Token) : Prop := ∀ c ∈ t.spelling.head?, c ≠ '-' ∧ c.isDigit = false

theorem numberless_of_isWord {t : Token} (h : isWord t.spelling = true) : t.Numberless := by
  obtain ⟨c, cs, hspelling, hc, -⟩ := isWord_iff.mp h
  rintro d hd
  rw [hspelling] at hd
  obtain rfl := Option.some.inj hd
  constructor
  · rintro rfl
    exact absurd hc (by decide)
  · cases hdigit : c.isDigit with
    | false => rfl
    | true =>
      rw [isStart_eq_false_of_isDigit hdigit] at hc
      exact absurd hc (by decide)

theorem numberless_name {n : String} (valid : isName n = true) : (Token.name n valid).Numberless :=
  numberless_of_isWord (isWord_of_isName valid)

theorem numberless_keyword (k : Keyword) : (Token.keyword k).Numberless :=
  numberless_of_isWord k.isWord_spelling

theorem name_ne_keyword {n : String} (valid : isName n = true) (k : Keyword) :
    (Token.name n valid).word? ≠ some k.spelling :=
  fun h => ne_spelling_of_isName valid k (Option.some.inj h)

section

variable {self : Reader Expr} {budget : Nat}

theorem barren_of_closes {cs : List Char} (h : Closes cs) : Barren cs :=
  forall_head?_of_eq h (by decide)

theorem args_reads (hself : Complete self budget) {args : List Expr} {ts : List Token}
    (hwell : ∀ a ∈ args, a.WellFormed) (h : Commas Expr.Tokens args ts)
    (hle : ts.length + 1 ≤ budget) : Reads (commaList self budget) args ts Closes := by
  have hargs : Commas (fun a us => Expr.Fits 3 a us ∧ us.length ≤ budget) args ts :=
    h.imp fun a ha us hus htokens =>
      ⟨⟨hwell a ha, a.rank_le_three, htokens⟩, by omega⟩
  have hfollow (rest : List Char) (h : Closes rest) : Follow 3 rest :=
    forall_head?_of_eq h (by decide)
  exact .commaList (fun a us ha => hself.reads ha.1 ha.2) (follow_cons (by decide)) hfollow
    (fun cs hcs hcloses => hself.refuses hcs (barren_of_closes hcloses)) hargs
    (Nat.le_trans h.length_le hle)

/-- A token that is no numeral is left to the alternatives behind the numerals. -/
theorem numeral_reads {q : Reader Expr} {e : Expr} {t : Token} {us : List Token}
    {F : List Char → Prop} (ht : t.Numberless) (h : Reads q e (t :: us) F) :
    Reads ((.float <$> fractional) <|> (.int <$> whole) <|> q) e (t :: us) F :=
  .orElse_right ((fractional_refuses ht).map _) (.orElse_right ((whole_refuses ht).map _) h)

/-- A name is left to the alternatives behind the keywords. -/
theorem atom_reads_name {e : Expr} {n : String} {valid : isName n = true} {us : List Token}
    {F : List Char → Prop}
    (h : Reads (call budget self <|> (.ident <$> name) <|> paren self) e
      (.name n valid :: us) F) : Reads (atom budget self) e (.name n valid :: us) F :=
  numeral_reads (numberless_name valid) <|
    .orElse_right ((keyword_refuses (name_ne_keyword valid _)).bind _) <|
    .orElse_right ((keyword_refuses (name_ne_keyword valid _)).bind _) h

theorem atom_reads (hself : Complete self budget) {e : Expr} {ts : List Token}
    (h : e.Fits 0 ts) (hle : ts.length ≤ budget + 1) :
    Reads (atom budget self) e ts (Follow 0) := by
  obtain ⟨hwell, hrank, htokens⟩ := h
  cases htokens with
  | int n valid =>
    exact .orElse_right ((fractional_refuses_whole n valid).map _)
      (.orElse_left ((whole_reads n valid).map _))
  | float n valid => exact .orElse_left ((fractional_reads n valid).map _)
  | true =>
    exact numeral_reads (numberless_keyword .trueWord) <|
      .orElse_left ((keyword_reads .trueWord).token_bind .pure)
  | false =>
    exact numeral_reads (numberless_keyword .falseWord) <|
      .orElse_right ((keyword_refuses (by decide)).bind _) <|
      .orElse_left ((keyword_reads .falseWord).token_bind .pure)
  | @ident n valid =>
    have hparen : Refuses (symbol "(") [] (Follow 0) := by
      rintro cs os rest hcs ⟨rfl, -⟩ hrest
      exact symbol_eq_none .leftParen hcs fun hc => hrest '(' hc (by decide)
    have hcall : Refuses (call budget self) ([.name n valid] ++ []) (Follow 0) :=
      .bind_right (name_reads valid) (hparen.bind _) leads_anything
    exact atom_reads_name (.orElse_right hcall (.orElse_left ((name_reads valid).map _)))
  | @call callee args ts valid hargs =>
    have hwellArgs : ∀ a ∈ args, a.WellFormed := by
      cases hwell with
      | call _ hargs => exact hargs
    simp only [List.length_cons, List.length_append, List.length_nil] at hle
    have hread := args_reads hself hwellArgs hargs (by omega)
    exact atom_reads_name <| .orElse_left <| (name_reads valid).token_bind <|
      (symbol_reads .leftParen).token_bind <|
      hread.bind ((symbol_reads .rightParen).token_bind .pure) (.cons fun _ _ => rfl)
  | @paren inner ts hinner =>
    have hwellInner : inner.WellFormed := by
      cases hwell with
      | paren hinner => exact hinner
    simp only [List.length_cons, List.length_append, List.length_nil] at hle
    have hread := hself.reads ⟨hwellInner, inner.rank_le_three, hinner⟩ (by omega)
    have hnumberless : (Token.mark .leftParen).Numberless := by
      rintro c ⟨⟩
      decide
    have hname : Refuses name (.mark .leftParen :: (ts ++ [.mark .rightParen])) (Follow 0) :=
      name_refuses (by simp [Token.word?])
    exact numeral_reads hnumberless <|
      .orElse_right ((keyword_refuses (by simp [Token.word?])).bind _) <|
      .orElse_right ((keyword_refuses (by simp [Token.word?])).bind _) <|
      .orElse_right (hname.bind _) <| .orElse_right (hname.map _) <|
      (symbol_reads .leftParen).token_bind (reads_upTo Expr.paren opens_rightParen hread _)
  | @arith op => cases op <;> simp [Expr.rank, ArithmeticOp.rank] at hrank
  | compare => simp [Expr.rank] at hrank
  | assign => simp [Expr.rank] at hrank

end

/-! ### Chains -/

/-- The leftmost operand of an expression with the tokens `ts`, and what is linked to it. -/
def IsChain (choices : List ArithmeticOp) (rank : Nat) (e : Expr) (ts : List Token) : Prop :=
  ∃ first others us vs, e = others.foldl (fun lhs r => .arith r.1 lhs r.2) first ∧
    first.Fits rank us ∧ Each (LinkFits choices rank) others vs ∧ ts = us ++ vs

theorem IsChain.of_fits {choices : List ArithmeticOp} {rank : Nat} {e : Expr} {ts : List Token}
    (h : e.Fits rank ts) : IsChain choices rank e ts :=
  ⟨e, [], ts, [], rfl, h, .nil, by simp⟩

/-- An expression of the rank of a chain is one, from its leftmost operand on. -/
theorem Expr.isChain {choices : List ArithmeticOp} {rank : Nat} (hle : rank + 1 ≤ 2)
    (hchoices : ∀ op, op ∈ choices ↔ ArithmeticOp.rank op = rank + 1) :
    (e : Expr) → {ts : List Token} → e.Fits (rank + 1) ts → IsChain choices rank e ts
  | .arith op lhs rhs, _, ⟨.arith hleft hright hlwell hrwell, hrank, .arith hlhs hrhs⟩ => by
    by_cases hop : ArithmeticOp.rank op = rank + 1
    · rw [hop] at hleft hright
      obtain ⟨first, others, us, vs, hfold, hfirst, hothers, rfl⟩ :=
        lhs.isChain hle hchoices ⟨hlwell, hleft, hlhs⟩
      have hlink : LinkFits choices rank (op, rhs) (.arith op :: _) :=
        ⟨(hchoices op).mpr hop, _, rfl, hrwell, Nat.le_of_lt_succ hright, hrhs⟩
      exact ⟨first, others ++ [(op, rhs)], us, _, by rw [List.foldl_append, ← hfold]; rfl, hfirst,
        hothers.append (.singleton hlink), by simp⟩
    · have hrank : ArithmeticOp.rank op ≤ rank + 1 := hrank
      exact .of_fits ⟨.arith hleft hright hlwell hrwell,
        (by omega : ArithmeticOp.rank op ≤ rank), .arith hlhs hrhs⟩
  | .int _, _, h | .float _, _, h | .bool _, _, h | .ident _, _, h | .call _ _, _, h
  | .paren _, _, h => .of_fits ⟨h.wellFormed, Nat.zero_le _, h.tokens⟩
  | .compare _ _ _, _, h | .assign _ _, _, h =>
    absurd (Nat.le_trans h.rank_le hle) (by simp [Expr.rank])

/-- The character that an arithmetic operator is written with. -/
def arithmeticSign : ArithmeticOp → Char
  | .add => '+'
  | .sub => '-'
  | .mul => '*'
  | .div => '/'

theorem token_toList (op : ArithmeticOp) : op.token.toList = [arithmeticSign op] := by
  cases op <;> rfl

/-- A chain is read from its leftmost operand on. -/
theorem chain_reads {choices : List ArithmeticOp} {rank budget : Nat} {operand : Reader Expr}
    (hle : rank + 1 ≤ 2) (hchoices : ∀ op, op ∈ choices ↔ ArithmeticOp.rank op = rank + 1)
    (hopen : ∀ op ∈ choices, arithmeticSign op ∉ goingOn rank)
    (hgo : ∀ op ∈ choices, arithmeticSign op ∈ goingOn (rank + 1))
    (hoperand : ∀ ⦃e ts⦄, Expr.Fits rank e ts → ts.length ≤ budget + 1 →
      Reads operand e ts (Follow rank))
    {e : Expr} {ts : List Token} (h : e.Fits (rank + 1) ts) (hlength : ts.length ≤ budget + 1) :
    Reads (chain choices operand budget) e ts (Follow (rank + 1)) := by
  obtain ⟨first, others, us, vs, rfl, hfirst, hothers, rfl⟩ := e.isChain hle hchoices h
  rw [List.length_append] at hlength
  have hpos : 0 < us.length := List.length_pos_iff.mpr (Expr.tokens_ne_nil hfirst.tokens)
  have hlinks : Each (fun r ws => LinkFits choices rank r ws ∧ ws.length ≤ budget + 1) others vs :=
    hothers.imp fun _ _ _ hle hr => ⟨hr, by omega⟩
  have hlink (r : ArithmeticOp × Expr) (ws : List Token)
      (h : LinkFits choices rank r ws ∧ ws.length ≤ budget + 1) :
      Reads (do let op ← arithmeticOp choices; let rhs ← operand; pure (op, rhs)) r ws
        (Follow rank) := by
    obtain ⟨⟨hop, ws, rfl, hrhs⟩, hle⟩ := h
    exact (arithmeticOp_reads hop).token_bind
      ((hoperand hrhs (Nat.le_of_succ_le hle)).map fun rhs => (r.1, rhs))
  have hfirstOp (r : ArithmeticOp × Expr) (ws : List Token)
      (h : LinkFits choices rank r ws ∧ ws.length ≤ budget + 1) :
      ∃ t ws', ws = t :: ws' ∧ t.Opens (Follow rank) := by
    obtain ⟨⟨hop, ws, rfl, -⟩, -⟩ := h
    exact ⟨_, ws, rfl, opens_follow (token_toList r.1) (hopen r.1 hop)⟩
  have hstop : Refuses (do let op ← arithmeticOp choices; let rhs ← operand; pure (op, rhs)) []
      (Follow (rank + 1)) := by
    rintro cs os rest hcs ⟨rfl, -⟩ hrest
    refine bind_of_none (arithmeticOp_eq_none hcs fun op hop hhead => ?_) _
    rw [token_toList op] at hhead
    exact hrest (arithmeticSign op) hhead (hgo op hop)
  have hmono (rest : List Char) (h : Follow (rank + 1) rest) : Follow rank rest :=
    h.mono (Nat.le_succ rank)
  have hrounds : others.length ≤ budget := by
    have hle := hothers.length_le fun r ws ⟨_, _, hws, _⟩ => by simp [hws]
    omega
  exact (hoperand hfirst (by omega)).bind
    ((Reads.many hlink hfirstOp hmono hstop hlinks hrounds).map _)
    (hlinks.leads hfirstOp hmono)

section

variable {self : Reader Expr} {budget : Nat} {e : Expr} {ts : List Token}

theorem product_reads (hself : Complete self budget) (h : e.Fits 1 ts)
    (hle : ts.length ≤ budget + 1) : Reads (product budget self) e ts (Follow 1) := by
  refine chain_reads (by decide) (fun op => ?_) (by decide) (by decide)
    (fun _ _ h hle => atom_reads hself h hle) h hle
  cases op <;> decide

theorem sum_reads (hself : Complete self budget) (h : e.Fits 2 ts)
    (hle : ts.length ≤ budget + 1) : Reads (sum budget self) e ts (Follow 2) := by
  refine chain_reads (by decide) (fun op => ?_) (by decide) (by decide)
    (fun _ _ h hle => product_reads hself h hle) h hle
  cases op <;> decide

/-! ### Whole expressions -/

/-- A sum with no comparison behind it is read alone. -/
theorem comparison_reads_sum (hself : Complete self budget) (h : e.Fits 2 ts)
    (hle : ts.length ≤ budget + 1) : Reads (comparison budget self) e ts (Follow 3) := by
  have hstop : Refuses comparisonOp [] (Follow 3) := by
    rintro cs os rest hcs ⟨rfl, -⟩ hrest
    refine comparisonOp_eq_none hcs fun op hhead => ?_
    cases op <;> exact hrest _ hhead (by decide)
  have hread : Reads (comparison budget self) e (ts ++ []) (Follow 3) :=
    (sum_reads hself h hle).bind (.orElse_right (hstop.bind _) .pure)
      (.nil fun _ h => h.mono (by decide))
  rwa [List.append_nil] at hread

/-- A comparison ends where its right side does: at whatever does not go on with a sum. -/
theorem comparison_reads_compare (hself : Complete self budget) {op : ComparisonOp}
    {lhs rhs : Expr} {us vs : List Token} (hlhs : lhs.Fits 2 us) (hrhs : rhs.Fits 2 vs)
    (hle : us.length + vs.length ≤ budget + 1) :
    Reads (comparison budget self) (.compare op lhs rhs) (us ++ .compare op :: vs) (Follow 2) := by
  have hop : (Token.compare op).Opens (Follow 2) := by
    cases op <;> exact opens_follow rfl (by decide)
  have htail : Reads (do let op ← comparisonOp; let rhs ← sum budget self
                         pure (Expr.compare op lhs rhs))
      (.compare op lhs rhs) (.compare op :: vs) (Follow 2) :=
    (comparisonOp_reads op).token_bind
      ((sum_reads hself hrhs (by omega)).map (Expr.compare op lhs))
  exact (sum_reads hself hlhs (by omega)).bind (.orElse_left htail) (.cons hop)

theorem comparison_reads (hself : Complete self budget) (h : e.Fits 3 ts)
    (hne : ∀ target value, e ≠ .assign target value) (hle : ts.length ≤ budget + 1) :
    Reads (comparison budget self) e ts (Follow 3) := by
  by_cases hrank : e.rank ≤ 2
  · exact comparison_reads_sum hself ⟨h.wellFormed, hrank, h.tokens⟩ hle
  obtain ⟨hwell, -, htokens⟩ := h
  cases e with
  | compare op lhs rhs =>
    cases hwell with | compare hleft hright hlwell hrwell =>
    cases htokens with | @compare _ _ _ us vs hlhs hrhs =>
    simp only [List.length_append, List.length_cons] at hle
    exact (comparison_reads_compare hself ⟨hlwell, hleft, hlhs⟩ ⟨hrwell, hright, hrhs⟩
      (by omega)).imp fun _ h => h.mono (by decide)
  | assign target value => exact absurd rfl (hne target value)
  | arith op lhs rhs => cases op <;> simp [Expr.rank, ArithmeticOp.rank] at hrank
  | _ => simp [Expr.rank] at hrank

end

/-! ### Assignments -/

section

variable {self : Reader Expr} {budget : Nat} {e : Expr} {ts : List Token}

/-- The first half of `==` is taken for the sign of an assignment, but no expression begins
with the other half. -/
theorem equals_eq_none (hself : Complete self budget) {after : List Char} (g : Expr → Expr)
    (hcs : Visible ('=' :: '=' :: after)) :
    (do symbol "="; let value ← self; pure (g value)) ('=' :: '=' :: after) = none := by
  have hvisible : Visible ('=' :: after) := visible_cons (by decide) fun h => absurd h (by decide)
  have hsymbol : symbol "=" ('=' :: '=' :: after) = some ⟨(), [], '=' :: after⟩ := by
    have htake : takeSymbol? "=".toList ('=' :: '=' :: after) = some ('=' :: after) := rfl
    rw [symbol, token_apply hcs, htake]
    simp only [Option.map_some, show skipTrivia ('=' :: after) = '=' :: after from hvisible]
  have hbarren : Barren ('=' :: after) := by
    rintro c ⟨⟩
    decide
  exact bind_of_none_right hsymbol (bind_of_none (hself.refuses hvisible hbarren) _)

theorem equals_refuses (hself : Complete self budget) {t : Token} {us : List Token}
    {F : List Char → Prop} (ht : t.GoesOn) (g : Expr → Expr) :
    Refuses (do symbol "="; let value ← self; pure (g value)) (t :: us) F := by
  have hother (h : t.spelling.head? ≠ Mark.equals.text.toList.head?) :
      Refuses (do symbol "="; let value ← self; pure (g value)) (t :: us) F :=
    (symbol_refuses (m := .equals) h).bind _
  cases t with
  | compare op =>
    cases op with
    | eq =>
      rintro cs os rest hcs ⟨after, os', rfl, -⟩ -
      exact equals_eq_none hself g hcs
    | _ => exact hother (by decide)
  | arith op => cases op <;> exact hother (by decide)
  | mark m => cases m <;> first | exact ht.elim | exact hother (by decide)
  | _ => exact ht.elim

/-- Nothing else is read as an assignment. -/
theorem assign_refuses (hself : Complete self budget) (h : e.Fits 3 ts)
    (hne : ∀ target value, e ≠ .assign target value) : Refuses (assign self) ts (Follow 3) := by
  obtain ⟨t, us, rfl, ht⟩ := e.exists_first h.tokens
  cases t with
  | name n valid =>
    obtain rfl | ⟨t, us, rfl, ht⟩ :=
      Expr.exists_second h.wellFormed hne h.tokens n valid us rfl
    · have hequals : Refuses (symbol "=") [] (Follow 3) := by
        rintro cs os rest hcs ⟨rfl, -⟩ hrest
        exact symbol_eq_none .equals hcs fun hc => hrest '=' hc (by decide)
      exact .bind_right (name_reads valid) (hequals.bind _) leads_anything
    · exact .bind_right (name_reads valid) (equals_refuses hself ht _) leads_anything
  | keyword k =>
    refine (name_refuses ?_).bind _
    rintro word ⟨⟩
    exact isKeyword_spelling k
  | _ => exact (name_refuses (by simp [Token.word?])).bind _

theorem assign_reads (hself : Complete self budget) {target : String} {value : Expr}
    (h : (Expr.assign target value).Fits 3 ts) (hle : ts.length ≤ budget + 1) :
    Reads (assign self) (.assign target value) ts (Follow 3) := by
  obtain ⟨hwell, -, htokens⟩ := h
  cases hwell with | assign _ hwell =>
  cases htokens with | assign valid hvalue =>
  simp only [List.length_cons] at hle
  have hread := hself.reads ⟨hwell, value.rank_le_three, hvalue⟩ (by omega)
  exact (name_reads valid).token_bind ((symbol_reads .equals).token_bind (hread.map _))

end

/-- Every expression is read from its tokens, if there are no more than the budget. -/
theorem expr_complete (budget : Nat) : Complete (expr budget) budget := by
  induction budget with
  | zero =>
    refine ⟨fun e ts h hle => ?_, fun cs hcs h => expr_eq_none 0 hcs h⟩
    exact absurd (List.length_eq_zero_iff.mp (Nat.le_zero.mp hle)) (Expr.tokens_ne_nil h.tokens)
  | succ budget ih =>
    refine ⟨fun e ts h hle => ?_, fun cs hcs h => expr_eq_none _ hcs h⟩
    by_cases hassign : ∃ target value, e = .assign target value
    · obtain ⟨target, value, rfl⟩ := hassign
      exact .orElse_left (assign_reads ih h hle)
    · have hne : ∀ target value, e ≠ .assign target value :=
        fun target value heq => hassign ⟨target, value, heq⟩
      exact .orElse_right (assign_refuses ih h hne) (comparison_reads ih h hne hle)

/-! ### The first tokens of statements -/

/-- The text does not begin with the keyword `else`. -/
def NoElse (rest : List Char) : Prop := takeKeyword? .elseWord rest = none

theorem opens_noElse {t : Token} (h : t.word? ≠ some Keyword.elseWord.spelling) :
    t.Opens NoElse := fun _ hends => takeKeyword?_eq_none hends h

/-- With an expression begins no keyword but two. -/
theorem Token.Begins.ne_keyword {t : Token} (h : t.Begins) {k : Keyword} (htrue : k ≠ .trueWord)
    (hfalse : k ≠ .falseWord) : t.word? ≠ some k.spelling := by
  cases t with
  | name n valid => exact name_ne_keyword valid k
  | keyword j =>
    intro hword
    obtain rfl := Keyword.spelling_inj (Option.some.inj hword)
    cases j <;> first | exact h | exact htrue rfl | exact hfalse rfl
  | _ => simp [word?]

theorem Token.Begins.ne_leftBrace {t : Token} (h : t.Begins) :
    t.spelling.head? ≠ Mark.leftBrace.text.toList.head? := by
  intro hhead
  have hhead : t.spelling.head? = some '\x7b' := hhead
  cases t with
  | name n valid =>
    obtain ⟨c, cs, hchars, hc, -⟩ := isWord_iff.mp (isWord_of_isName valid)
    rw [spelling, hchars] at hhead
    obtain rfl := Option.some.inj hhead
    exact absurd hc (by decide)
  | whole n valid =>
    rw [spelling, ← List.append_nil n.digits] at hhead
    exact absurd (valid.head? n.negative _ hhead) (by decide)
  | fractional n valid => exact absurd (valid.1.head? n.negative _ hhead) (by decide)
  | keyword k => cases k <;> exact absurd hhead (by decide)
  | mark m => cases m <;> first | exact h | exact absurd hhead (by decide)
  | _ => exact h

theorem Stmt.exists_first {s : Stmt} {ts : List Token} (h : s.Tokens ts) :
    ∃ t us, ts = t :: us ∧ t.Opens NoElse := by
  cases h with
  | bind h =>
    cases h with
    | mk => exact ⟨_, _, rfl, opens_noElse (by decide)⟩
  | ret | cond | loop | count => exact ⟨_, _, rfl, opens_noElse (by decide)⟩
  | block => exact ⟨_, _, rfl, opens_noElse (by decide)⟩
  | eval hvalue =>
    obtain ⟨t, us, rfl, ht⟩ := Expr.exists_first _ hvalue
    exact ⟨t, _, rfl, opens_noElse (ht.ne_keyword (by decide) (by decide))⟩

theorem Stmt.tokens_ne_nil {s : Stmt} {ts : List Token} (h : s.Tokens ts) : ts ≠ [] := by
  obtain ⟨t, us, rfl, -⟩ := Stmt.exists_first h
  simp

/-! ### Blocks -/

/-- A reader of statements that reads every statement from its tokens, where there are no
more tokens than the budget. -/
structure StmtComplete (p : Reader Stmt) (budget : Nat) : Prop where
  reads : ∀ ⦃s ts⦄, Stmt.Fits s ts → ts.length ≤ budget → Reads p s ts NoElse
  refuses : ∀ ⦃cs⦄, Visible cs → cs.head? = some '\x7d' → p cs = none

/-- A reader of blocks that reads every block from its tokens, where there are no more
tokens than the budget. -/
def BodyComplete (p : Reader (List Stmt)) (budget : Nat) : Prop :=
  ∀ ⦃body ts⦄, BodyFits body ts → ts.length ≤ budget → ∀ F, Reads p body ts F

theorem noElse_of_head? {rest : List Char} (h : ∀ c ∈ rest.head?, isStart c = false) :
    NoElse rest := by
  rw [NoElse, takeKeyword?, takeWord?_eq_none h]

section

variable {budget : Nat}

/-- The braces of a block are two tokens that its statements have less than the block. -/
theorem braced_complete {self : Reader Stmt} {rounds width : Nat} (hself : StmtComplete self budget)
    (hbudget : width ≤ budget + 2) (hwidth : width ≤ rounds + 2) :
    BodyComplete (braced rounds self) width := by
  rintro body _ ⟨hwell, ts, rfl, hbody⟩ hle F
  rw [length_inBraces] at hle
  have hstmts : Each (fun s us => Stmt.Fits s us ∧ us.length ≤ budget) body ts :=
    hbody.imp fun s hs us hus htokens => ⟨⟨hwell s hs, htokens⟩, by omega⟩
  have hfirst (s : Stmt) (us : List Token) (h : Stmt.Fits s us ∧ us.length ≤ budget) :
      ∃ t us', us = t :: us' ∧ t.Opens NoElse := Stmt.exists_first h.1.tokens
  have hbrace (rest : List Char) (h : rest.head? = some '\x7d') : NoElse rest :=
    noElse_of_head? (forall_head?_of_eq h (by decide))
  have hstop : Refuses self [] fun rest => rest.head? = some '\x7d' := by
    rintro cs os rest hcs ⟨rfl, -⟩ hrest
    exact hself.refuses hcs hrest
  have hrounds : body.length ≤ rounds := by
    have hlength := hbody.length_le fun _ _ => Stmt.tokens_ne_nil
    omega
  have hmany := Reads.many (fun s us h => hself.reads h.1 h.2) hfirst hbrace hstop hstmts hrounds
  exact (symbol_reads .leftBrace).token_bind <|
    hmany.bind ((symbol_reads .rightBrace).token_bind .pure) (.cons fun _ _ => rfl)

/-! ### Declarations of variables -/

theorem binding_reads {b : Binding} {ts : List Token} (hwell : b.WellFormed) (h : b.Tokens ts)
    (hle : ts.length ≤ budget) (F : List Char → Prop) : Reads (binding budget) b ts F := by
  cases h with
  | @mk n type init ts hname htype hinit =>
    simp only [List.length_cons, List.length_append, List.length_nil] at hle
    have hread := (expr_complete budget).reads
      ⟨hwell.init, init.rank_le_three, hinit⟩ (by omega)
    exact (keyword_reads .letWord).token_bind <| (name_reads hname).token_bind <|
      (symbol_reads .colon).token_bind <| (name_reads htype).token_bind <|
      (symbol_reads .equals).token_bind (reads_upTo (Binding.mk n type) opens_semicolon hread F)

theorem binding_refuses {t : Token} {us : List Token} {F : List Char → Prop}
    (h : t.word? ≠ some Keyword.letWord.spelling) : Refuses (binding budget) (t :: us) F :=
  (keyword_refuses h).bind _

/-! ### Conditions -/

theorem branch_refuses {body : Reader (List Stmt)} {t : Token} {us : List Token}
    {F : List Char → Prop} (h : t.word? ≠ some Keyword.ifWord.spelling) (depth : Nat) :
    Refuses (branch budget body depth) (t :: us) F := by
  cases depth with
  | zero => exact fun _ _ _ _ _ _ => rfl
  | succ depth => exact (keyword_refuses h).bind _

theorem elsePart_reads {body : Reader (List Stmt)} (hbody : BodyComplete body budget)
    {depth : Nat} (hnext : ∀ ⦃b : Branch⦄ ⦃ts⦄, b.Fits ts → ts.length ≤ budget →
      ts.length ≤ depth → Reads (branch budget body depth) b ts NoElse)
    {otherwise : Else} {ts : List Token} (h : otherwise.Fits ts) (hle : ts.length ≤ budget)
    (hdepth : ts.length ≤ depth + 1) :
    Reads (elsePart (branch budget body depth) body) otherwise ts NoElse := by
  obtain ⟨hwell, htokens⟩ := h
  cases htokens with
  | none =>
    have hkeyword : Refuses (keyword .elseWord) [] NoElse := by
      rintro cs os rest hcs ⟨rfl, -⟩ hrest
      exact token_eq_none hcs hrest
    exact .orElse_right (hkeyword.bind _) .pure
  | @block stmts ts hts =>
    cases hwell with | block hstmts =>
    rw [List.length_cons] at hle
    have hblock := hbody ⟨hstmts, ts, rfl, hts⟩ (Nat.le_of_succ_le hle) NoElse
    exact .orElse_left <| (keyword_reads .elseWord).token_bind <|
      .orElse_right ((branch_refuses (by decide) depth).bind _) (hblock.map Else.block)
  | @cond test stmts otherwise ts us vs hts hus hvs =>
    cases hwell with | cond htest hstmts hotherwise =>
    have hfits : (Branch.mk test stmts otherwise).Fits
        (.keyword .ifWord :: (ts ++ (inBraces us ++ vs))) :=
      ⟨htest, hstmts, hotherwise, ts, us, vs, rfl, hts, hus, hvs⟩
    rw [List.length_cons] at hle hdepth
    have hread := hnext hfits (Nat.le_of_succ_le hle) (Nat.le_of_succ_le_succ hdepth)
    exact .orElse_left <| (keyword_reads .elseWord).token_bind <|
      .orElse_left (hread.map fun b => Else.cond b.test b.body b.otherwise)

/-- A condition is read with the whole chain behind it. -/
theorem branch_reads {body : Reader (List Stmt)} (hbody : BodyComplete body budget) {b : Branch}
    {ts : List Token} (h : b.Fits ts) (hle : ts.length ≤ budget) {depth : Nat}
    (hdepth : ts.length ≤ depth) : Reads (branch budget body depth) b ts NoElse := by
  induction depth generalizing b ts with
  | zero =>
    obtain ⟨us, vs, ws, rfl, -⟩ := h.tokens
    cases hdepth
  | succ depth ih =>
    obtain ⟨htest, hstmts, hotherwise, us, vs, ws, rfl, hus, hvs, hws⟩ := h
    simp only [List.length_cons, List.length_append, length_inBraces] at hle hdepth
    have htestRead := (expr_complete budget).reads ⟨htest, b.test.rank_le_three, hus⟩ (by omega)
    have hbodyRead := hbody ⟨hstmts, vs, rfl, hvs⟩ (by rw [length_inBraces]; omega) Anything
    have helseRead := elsePart_reads hbody (fun _ _ h hle hdepth => ih h hle hdepth)
      ⟨hotherwise, hws⟩ (by omega) (by omega)
    rw [branch_succ]
    exact (keyword_reads .ifWord).token_bind <| htestRead.bind
      (hbodyRead.bind (helseRead.map (Branch.mk b.test b.body)) leads_anything)
      (.cons opens_leftBrace)

/-! ### Statements -/

theorem giveBack_reads {value : Expr} {ts : List Token} (hwell : value.WellFormed)
    (h : value.Tokens ts) (hle : ts.length ≤ budget) (F : List Char → Prop) :
    Reads (giveBack budget) (.ret value)
      (.keyword .returnWord :: (ts ++ [.mark .semicolon])) F := by
  have hread := (expr_complete budget).reads ⟨hwell, value.rank_le_three, h⟩ hle
  exact (keyword_reads .returnWord).token_bind (reads_upTo Stmt.ret opens_semicolon hread F)

theorem evaluation_reads {value : Expr} {ts : List Token} (hwell : value.WellFormed)
    (h : value.Tokens ts) (hle : ts.length ≤ budget) (F : List Char → Prop) :
    Reads (evaluation budget) (.eval value) (ts ++ [.mark .semicolon]) F := by
  have hread := (expr_complete budget).reads ⟨hwell, value.rank_le_three, h⟩ hle
  exact reads_upTo Stmt.eval opens_semicolon hread F

/-- The alternatives for a statement before the one for a block refuse a token that is none of
their keywords. -/
theorem stmtOf_reads_block {self : Reader Stmt} {s : Stmt} {t : Token} {us : List Token}
    {F : List Char → Prop} (hkeyword : ∀ k : Keyword, k ≠ .trueWord → k ≠ .falseWord →
      t.word? ≠ some k.spelling)
    (h : Reads ((.block <$> braced budget self) <|> evaluation budget) s (t :: us) F) :
    Reads (stmtOf budget self) s (t :: us) F :=
  .orElse_right ((binding_refuses (hkeyword _ (by decide) (by decide))).map _) <|
    .orElse_right ((keyword_refuses (hkeyword _ (by decide) (by decide))).bind _) <|
    .orElse_right ((branch_refuses (hkeyword _ (by decide) (by decide)) _).bind _) <|
    .orElse_right ((keyword_refuses (hkeyword _ (by decide) (by decide))).bind _) <|
    .orElse_right ((keyword_refuses (hkeyword _ (by decide) (by decide))).bind _) h

theorem stmtOf_reads {self : Reader Stmt} (hself : StmtComplete self budget) {s : Stmt}
    {ts : List Token} (h : s.Fits ts) (hle : ts.length ≤ budget + 1) :
    Reads (stmtOf (budget + 1) self) s ts NoElse := by
  have hbody : BodyComplete (braced (budget + 1) self) (budget + 1) :=
    braced_complete hself (by omega) (by omega)
  obtain ⟨hwell, htokens⟩ := h
  cases htokens with
  | bind h =>
    cases hwell with | bind hwell =>
    exact .orElse_left ((binding_reads hwell h hle _).map _)
  | ret h =>
    cases hwell with | ret hwell =>
    simp only [List.length_cons, List.length_append] at hle
    exact .orElse_right ((binding_refuses (by decide)).map _) <|
      .orElse_left (giveBack_reads hwell h (by omega) _)
  | @cond test body otherwise ts us vs hts hus hvs =>
    cases hwell with | cond htest hstmts hotherwise =>
    have hfits : (Branch.mk test body otherwise).Fits
        (.keyword .ifWord :: (ts ++ (inBraces us ++ vs))) :=
      ⟨htest, hstmts, hotherwise, ts, us, vs, rfl, hts, hus, hvs⟩
    exact .orElse_right ((binding_refuses (by decide)).map _) <|
      .orElse_right ((keyword_refuses (by decide)).bind _) <|
      .orElse_left ((branch_reads hbody hfits hle hle).map fun b =>
        Stmt.cond b.test b.body b.otherwise)
  | @loop test body ts us hts hus =>
    cases hwell with | loop htest hstmts =>
    simp only [List.length_cons, List.length_append, length_inBraces] at hle
    have hread := (expr_complete (budget + 1)).reads ⟨htest, test.rank_le_three, hts⟩ (by omega)
    have hbodyRead := hbody ⟨hstmts, us, rfl, hus⟩ (by rw [length_inBraces]; omega) NoElse
    exact .orElse_right ((binding_refuses (by decide)).map _) <|
      .orElse_right ((keyword_refuses (by decide)).bind _) <|
      .orElse_right ((branch_refuses (by decide) _).bind _) <|
      .orElse_left <| (keyword_reads .whileWord).token_bind <|
      hread.bind (hbodyRead.map (Stmt.loop test)) (.cons opens_leftBrace)
  | @count var first bound body ts us vs valid hts hus hvs =>
    cases hwell with | count _ hfirst hbound hstmts =>
    simp only [List.length_cons, List.length_append, length_inBraces] at hle
    have hfirstRead := (expr_complete (budget + 1)).reads
      ⟨hfirst, first.rank_le_three, hts⟩ (by omega)
    have hboundRead := (expr_complete (budget + 1)).reads
      ⟨hbound, bound.rank_le_three, hus⟩ (by omega)
    have hbodyRead := hbody ⟨hstmts, vs, rfl, hvs⟩ (by rw [length_inBraces]; omega) NoElse
    exact .orElse_right ((binding_refuses (by decide)).map _) <|
      .orElse_right ((keyword_refuses (by decide)).bind _) <|
      .orElse_right ((branch_refuses (by decide) _).bind _) <|
      .orElse_right ((keyword_refuses (by decide)).bind _) <|
      .orElse_left <| (keyword_reads .forWord).token_bind <| (name_reads valid).token_bind <|
      (keyword_reads .inWord).token_bind <|
      hfirstRead.bind ((symbol_reads .dots).token_bind <|
        hboundRead.bind (hbodyRead.map (Stmt.count var first bound)) (.cons opens_leftBrace))
        (.cons (opens_follow rfl (by decide)))
  | @block body us hus =>
    cases hwell with | block hstmts =>
    have hbodyRead := hbody ⟨hstmts, us, rfl, hus⟩ hle NoElse
    exact stmtOf_reads_block (fun _ _ _ => by simp [Token.word?]) (.orElse_left (hbodyRead.map _))
  | @eval value us hvalue =>
    cases hwell with | eval hwell =>
    simp only [List.length_append] at hle
    have hread : Reads (evaluation (budget + 1)) (.eval value) (us ++ [.mark .semicolon]) NoElse :=
      evaluation_reads hwell hvalue (by omega) NoElse
    obtain ⟨t, us, rfl, ht⟩ := value.exists_first hvalue
    exact stmtOf_reads_block (fun _ htrue hfalse => ht.ne_keyword htrue hfalse) <|
      .orElse_right (((symbol_refuses (m := .leftBrace) ht.ne_leftBrace).bind _).map _) hread

theorem stmtOf_eq_none {self : Reader Stmt} {cs : List Char} (hcs : Visible cs)
    (h : cs.head? = some '\x7d') : stmtOf budget self cs = none := by
  have hstart : ∀ c ∈ cs.head?, isStart c = false := forall_head?_of_eq h (by decide)
  have hbarren : Barren cs := forall_head?_of_eq h (by decide)
  have hkeyword (k : Keyword) : keyword k cs = none := keyword_eq_none k hcs hstart
  have hbranch : branch budget (braced budget self) budget cs = none := by
    cases budget with
    | zero => rfl
    | succ budget => exact bind_of_none (hkeyword .ifWord) _
  have hbrace : cs.head? ≠ Mark.leftBrace.text.toList.head? := by
    rw [h]
    decide
  exact orElse_eq_none (map_of_none (bind_of_none (hkeyword .letWord) _) _) <|
    orElse_eq_none (bind_of_none (hkeyword .returnWord) _) <|
    orElse_eq_none (bind_of_none hbranch _) <|
    orElse_eq_none (bind_of_none (hkeyword .whileWord) _) <|
    orElse_eq_none (bind_of_none (hkeyword .forWord) _) <|
    orElse_eq_none (map_of_none (bind_of_none (symbol_eq_none .leftBrace hcs hbrace) _) _) <|
    bind_of_none (expr_eq_none budget hcs hbarren) _

/-- Every statement is read from its tokens, if there are no more than the budget. -/
theorem stmt_complete (budget : Nat) : StmtComplete (stmt budget) budget := by
  induction budget with
  | zero =>
    refine ⟨fun s ts h hle => ?_, fun _ _ _ => rfl⟩
    exact absurd (List.length_eq_zero_iff.mp (Nat.le_zero.mp hle)) (Stmt.tokens_ne_nil h.tokens)
  | succ budget ih =>
    exact ⟨fun s ts h hle => stmtOf_reads ih h hle, fun cs hcs h => stmtOf_eq_none hcs h⟩

/-! ### The top level -/

theorem param_reads {p : Param} {ts : List Token} (h : ParamTokens p ts) (F : List Char → Prop) :
    Reads param p ts F := by
  cases h with
  | mk hname htype =>
    exact (name_reads hname).token_bind <| (symbol_reads .colon).token_bind <|
      (name_reads htype).token_bind .pure

theorem params_reads {params : List Param} {ts : List Token} (h : Commas ParamTokens params ts)
    (hle : ts.length + 1 ≤ budget) : Reads (commaList param budget) params ts Closes := by
  refine .commaList (fun p ts h => param_reads h Anything) (fun _ => trivial)
    (fun _ _ => trivial) ?_ h (Nat.le_trans h.length_le hle)
  intro cs hcs hcloses
  refine bind_of_none (name_eq_none hcs fun c hc => ?_) _
  exact (barren_of_closes hcloses c hc).1

theorem function_reads {f : Function} {ts : List Token} (hwell : f.WellFormed) (h : f.Tokens ts)
    (hle : ts.length ≤ budget) (F : List Char → Prop) : Reads (function budget) f ts F := by
  cases h with
  | @mk n result params body ts us hname hresult hparams hbody =>
    simp only [List.length_cons, List.length_append, length_inBraces] at hle
    have hparamsRead : Reads (commaList param budget) params ts Closes :=
      params_reads hparams (by omega)
    have hbraced : BodyComplete (braced budget (stmt budget)) budget :=
      braced_complete (stmt_complete budget) (by omega) (by omega)
    have hbodyRead := hbraced ⟨hwell.body, us, rfl, hbody⟩ (by rw [length_inBraces]; omega) F
    exact (keyword_reads .fnWord).token_bind <| (name_reads hname).token_bind <|
      (symbol_reads .leftParen).token_bind <| hparamsRead.bind
        ((symbol_reads .rightParen).token_bind <| (symbol_reads .arrow).token_bind <|
          (name_reads hresult).token_bind (hbodyRead.map _))
        (.cons fun _ _ => rfl)

theorem item_reads {i : Item} {ts : List Token} (hwell : i.WellFormed) (h : i.Tokens ts)
    (hle : ts.length ≤ budget) (F : List Char → Prop) : Reads (item budget) i ts F := by
  cases h with
  | function h => exact .orElse_left ((function_reads hwell h hle F).map _)
  | @bind b ts h =>
    have hread := binding_reads hwell h hle F
    cases h with
    | mk =>
      exact .orElse_right (.map (.bind (keyword_refuses (by decide)) _) _) (hread.map _)

theorem Item.exists_first {i : Item} {ts : List Token} (h : i.Tokens ts) :
    ∃ t us, ts = t :: us ∧ t.Opens Anything := by
  cases h with
  | function h =>
    cases h with
    | mk => exact ⟨_, _, rfl, fun _ _ => trivial⟩
  | bind h =>
    cases h with
    | mk => exact ⟨_, _, rfl, fun _ _ => trivial⟩

end

/-- There are as many characters as tokens, or more. -/
theorem Laid.length_le {ts : List Token} {cs rest : List Char} {os : List Overflow}
    (h : Laid ts cs os rest) : ts.length ≤ cs.length := by
  induction ts generalizing cs os with
  | nil => exact Nat.zero_le _
  | cons t ts ih =>
    obtain ⟨after, os', rfl, -, -, h⟩ := h
    have hpos := List.length_pos_iff.mpr t.spelling_ne_nil
    have hle := Nat.le_trans (ih h) (length_skipTriviaFrom_le false after)
    simp only [List.length_cons, List.length_append]
    omega

/-- Every declaration has a token. -/
theorem length_items_le {items : List Item} {ts : List Token} (h : Each Item.Tokens items ts) :
    items.length ≤ ts.length :=
  h.length_le fun i us h => by
    obtain ⟨t, us, rfl, -⟩ := Item.exists_first h
    simp

/-- What is needed to read each of some declarations. -/
theorem each_item_bounded {items : List Item} {ts : List Token} {budget : Nat}
    (hwell : ∀ i ∈ items, i.WellFormed) (h : Each Item.Tokens items ts)
    (hle : ts.length ≤ budget) :
    Each (fun i us => i.WellFormed ∧ Item.Tokens i us ∧ us.length ≤ budget) items ts :=
  h.imp fun i hi _ hus h => ⟨hwell i hi, h, Nat.le_trans hus hle⟩

/-- No declaration is read where nothing is left. -/
theorem item_nil (budget : Nat) : item budget [] = none := by
  have hkeyword (k : Keyword) : keyword k [] = none := keyword_eq_none k visible_nil (by simp)
  exact orElse_eq_none (map_of_none (bind_of_none (hkeyword .fnWord) _) _)
    (map_of_none (bind_of_none (hkeyword .letWord) _) _)

/-- A text is read behind the trivia that it begins with. -/
theorem file_of_many {budget : Nat} {cs : List Char} {r : Reading (List Item)}
    (h : many (item budget) budget (skipTrivia cs) = some r) : file budget cs = some r := by
  have htrivia : trivia cs = some ⟨(), [], skipTrivia cs⟩ := rfl
  exact bind_of_some htrivia h

/-- Every text that begins with the tokens of well-formed declarations and ends behind them is
read as these. -/
theorem file_reads {items : List Item} {ts : List Token} {cs : List Char} {os : List Overflow}
    (hwell : ∀ i ∈ items, i.WellFormed) (htokens : Each Item.Tokens items ts)
    (hlaid : Laid ts (skipTrivia cs) os []) : file cs.length cs = some ⟨items, os, []⟩ := by
  have hle : ts.length ≤ cs.length :=
    Nat.le_trans hlaid.length_le (length_skipTriviaFrom_le false cs)
  have hrounds : items.length ≤ cs.length := Nat.le_trans (length_items_le htokens) hle
  have hstop : Refuses (item cs.length) [] fun rest => rest = [] := by
    rintro _ os rest hcs ⟨rfl, -⟩ rfl
    exact item_nil cs.length
  have hmany := Reads.many (fun i us h => item_reads h.1 h.2.1 h.2.2 Anything)
    (fun i us h => Item.exists_first h.2.1) (fun _ _ => trivial) hstop
    (each_item_bounded hwell htokens hle) hrounds
  exact file_of_many (hmany (visible_skipTrivia cs) hlaid rfl)

/-- A text that is a layout of the tokens of a well-formed program, with its numerals in range,
is read as the program. -/
theorem parse_of_layout {items : List Item} {ts : List Token} {text : String}
    {lead body : List Char} (hwell : ∀ i ∈ items, i.WellFormed)
    (htokens : Each Item.Tokens items ts) (hrange : ∀ t ∈ ts, t.InRange)
    (htext : text.toList = lead ++ body) (hlead : Trivia lead) (hbody : Layout ts body) :
    parse text = .ok items := by
  obtain ⟨os, hlaid⟩ := laid_iff_layout.mpr ⟨lead, body, htext, hlead, hbody⟩
  obtain rfl := hlaid.overflows_eq_nil.mpr hrange
  exact parse_eq_ok_iff.mpr (file_reads hwell htokens hlaid)

/-- A program ends in a punctuation mark. -/
theorem getLast?_tokens {items : List Item} {ts : List Token} (h : Each Item.Tokens items ts) :
    ∀ t ∈ ts.getLast?, ∃ m, t = .mark m := by
  induction h with
  | nil => simp
  | @cons i items ts us hi _ ih =>
    obtain ⟨vs, m, rfl⟩ : ∃ vs m, ts = vs ++ [.mark m] := by
      cases hi with
      | function h =>
        cases h with
        | @mk n result params body ts us hname hresult _ _ =>
          exact ⟨.keyword .fnWord :: .name n hname :: .mark .leftParen :: (ts ++
            .mark .rightParen :: .mark .arrow :: .name result hresult :: .mark .leftBrace :: us),
            .rightBrace, by simp [inBraces]⟩
      | bind h =>
        cases h with
        | @mk n type init ts hname htype _ =>
          exact ⟨.keyword .letWord :: .name n hname :: .mark .colon :: .name type htype ::
            .mark .equals :: ts, .semicolon, by simp⟩
    intro t ht
    rw [List.getLast?_append] at ht
    cases hus : us.getLast? with
    | none =>
      rw [hus] at ht
      simp only [Option.none_or, List.getLast?_concat, Option.mem_def, Option.some.injEq] at ht
      exact ⟨m, ht.symm⟩
    | some u =>
      rw [hus, Option.some_or] at ht
      exact ih t (hus.trans ht)

/-- **Every layout of a well-formed program is read as it.**  Its tokens stand in order, between
each two of them trivia that begins with a blank, and the numerals are in range. -/
theorem parse_complete {items : List Item} {ts : List Token} {text : String}
    {lead body : List Char} (hwell : ∀ i ∈ items, i.WellFormed)
    (htokens : Each Item.Tokens items ts) (hrange : ∀ t ∈ ts, t.InRange)
    (htext : text.toList = lead ++ body) (hlead : Trivia lead) (hbody : Spaced ts body) :
    parse text = .ok items :=
  parse_of_layout hwell htokens hrange htext hlead (hbody.layout (getLast?_tokens htokens))

/-- The tokens of that function, with a comma behind its parameter. -/
def oneLessTokens : List Token :=
  [.keyword .fnWord, .name "f" (by decide), .mark .leftParen, .name "x" (by decide), .mark .colon,
   .name "t" (by decide), .mark .comma, .mark .rightParen, .mark .arrow, .name "t" (by decide),
   .mark .leftBrace, .keyword .returnWord, .name "x" (by decide), .arith .sub,
   .whole ⟨false, ['1']⟩ (.inr ⟨by decide, by decide, by simp⟩), .mark .semicolon,
   .mark .rightBrace]

theorem parse_complete_oneLess : (∀ i ∈ [oneLess], i.WellFormed) ∧
    Each Item.Tokens [oneLess] oneLessTokens ∧ (∀ t ∈ oneLessTokens, t.InRange) ∧
    Trivia [' '] ∧ Spaced oneLessTokens (joinTokens oneLessTokens) ∧
    parse " fn f ( x : t , ) -> t \x7b return x - 1 ; \x7d" = .ok [oneLess] := by
  have hwell : ∀ i ∈ [oneLess], i.WellFormed := by
    refine List.forall_mem_singleton.mpr ⟨by decide, by decide, by decide, ?_⟩
    refine List.forall_mem_singleton.mpr (.ret (.arith (by decide) (by decide) ?_ .int))
    exact .ident (by decide)
  have htokens : Each Item.Tokens [oneLess] oneLessTokens := by
    have hvalue : Expr.Tokens (.arith .sub (.ident "x") (.int 1))
        [.name "x" (by decide), .arith .sub,
         .whole ⟨false, ['1']⟩ (.inr ⟨by decide, by decide, by simp⟩)] :=
      .arith (.ident _) (.int ⟨false, ['1']⟩ _)
    have hitem : oneLess.Tokens oneLessTokens :=
      .function (.mk _ _ (.cons (.mk _ _) .trailing) (.cons (.ret hvalue) .nil))
    exact .cons hitem .nil
  have hrange : ∀ t ∈ oneLessTokens, t.InRange := by decide
  have hlead : Trivia [' '] := .blank (by decide) .nil
  have hbody := spaced_joinTokens oneLessTokens
  exact ⟨hwell, htokens, hrange, hlead, hbody,
    parse_complete hwell htokens hrange (by decide) hlead hbody⟩

end ToyLang.Source
