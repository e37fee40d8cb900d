import ToyLang.Proofs.Completeness
import ToyLang.Proofs.Fragments

/-!
# Reading a generated file by its lexemes

The lexemes of a generated file determine the program that it was made from, up to the names of
functions.  An expression ends where the source grammar ends it: its lexemes are tokens of the
source language, and a reader of that language stops at the bracket or the semicolon behind
them.  A statement shows its kind in its first two lexemes, and a body ends at its brace.

Two programs are taken apart side by side.  For each part, equal lexemes with anything behind
them that may stand there mean equal parts and equal remainders.

## Main definitions

* `StmtKind`, `kindOf` — the kind of a statement, and how lexemes show it.
* `Resumes` — lexemes that do not begin with an `else`.

## Main results

* `Expr.decode`, `Stmt.decode`, `Item.decode` — a part is told from its lexemes.
* `decodeItems` — so are the declarations of a file.
-/

namespace ToyLang.Source

open Text

variable {spell : Lexeme → List Char}

/-! ### Expressions -/

/-- A bracket or a semicolon, at which every expression ends. -/
def Closer (c : Char) : Prop := c = ')' ∨ c = ';'

theorem Closer.visible {c : Char} (h : Closer c) (cs : List Char) : Visible (c :: cs) := by
  rcases h with rfl | rfl
  · exact visible_cons (by decide) fun h => absurd h (by decide)
  · exact visible_cons (by decide) fun h => absurd h (by decide)

theorem Closer.follow {c : Char} (h : Closer c) (cs : List Char) : Follow 3 (c :: cs) := by
  rcases h with rfl | rfl
  · exact follow_cons (by decide) cs
  · exact follow_cons (by decide) cs

/-- If the lexemes of one expression begin with those of another and a closer would come next,
nothing comes next and the expressions are the same. -/
theorem decode_of_prefix {e e' : Expr} (hwell : e.WellFormed) (hspell : Spells spell e.floats)
    (hwell' : e'.WellFormed) (hspell' : Spells spell e'.floats) {ls : List Lexeme}
    (hls : ∀ l ∈ ls.head?, ∃ c, l = .mark c ∧ Closer c) (heq : e'.lexemes = e.lexemes ++ ls) :
    e.renamed = e'.renamed ∧ ls = [] := by
  obtain ⟨ts, htokens, hts⟩ := exists_tokens hwell hspell
  obtain ⟨ts', htokens', hts'⟩ := exists_tokens hwell' hspell'
  -- what stands behind the tokens of the shorter one
  have hrest : Visible (spread (ls.map spell)) ∧ Follow 3 (spread (ls.map spell)) := by
    cases ls with
    | nil => exact ⟨rfl, by simp [Follow]⟩
    | cons l ls =>
      obtain ⟨c, rfl, hc⟩ := hls l rfl
      have hmark : spell (.mark c) = [c] := hspell.plain _ rfl
      rw [List.map_cons, spread_cons, hmark]
      exact ⟨hc.visible _, hc.follow _⟩
  obtain ⟨os, hlaid⟩ := laid_spread ts hrest.1
  obtain ⟨os', hlaid'⟩ := laid_spread ts' visible_nil
  -- one text is read in two ways
  have htext : spread (ts'.map Token.spelling) ++ []
      = spread (ts.map Token.spelling) ++ spread (ls.map spell) := by
    rw [hts.2, hts'.2, heq, List.map_append, spread_append, List.append_nil]
  rw [htext] at hlaid'
  have hvisible : Visible (spread (ts.map Token.spelling) ++ spread (ls.map spell)) := by
    obtain ⟨t, us, rfl, -⟩ := Expr.exists_first _ htokens
    exact visible_spread
  let budget := max ts.length ts'.length
  have hread := (expr_complete budget).reads
    ⟨hwell.renamed, Expr.rank_le_three _, htokens⟩ (Nat.le_max_left _ _) hvisible hlaid hrest.2
  have hread' := (expr_complete budget).reads
    ⟨hwell'.renamed, Expr.rank_le_three _, htokens'⟩ (Nat.le_max_right _ _) hvisible hlaid'
    (by simp [Follow])
  rw [hread] at hread'
  obtain ⟨hsame, -, hnone⟩ := Reading.mk.inj (Option.some.inj hread')
  refine ⟨hsame, ?_⟩
  cases ls with
  | nil => rfl
  | cons l ls => simp at hnone

/-- An expression is told from its lexemes in front of a closer. -/
theorem Expr.decode {e e' : Expr} (hwell : e.WellFormed) (hspell : Spells spell e.floats)
    (hwell' : e'.WellFormed) (hspell' : Spells spell e'.floats) {c : Char} (hc : Closer c)
    {us us' : List Lexeme} (heq : e.lexemes ++ .mark c :: us = e'.lexemes ++ .mark c :: us') :
    e.renamed = e'.renamed ∧ us = us' := by
  have hhead {l : Lexeme} {ls vs ws : List Lexeme} (h : .mark c :: vs = ls ++ ws)
      (hl : l ∈ ls.head?) : ∃ d, l = .mark d ∧ Closer d := by
    cases ls with
    | nil => simp at hl
    | cons l' ls =>
      obtain ⟨rfl, -⟩ := List.cons.inj h
      obtain rfl := Option.some.inj hl
      exact ⟨c, rfl, hc⟩
  -- one list of lexemes begins with the other
  rcases List.append_eq_append_iff.mp heq with ⟨ls, hlonger, htail⟩ | ⟨ls, hlonger, htail⟩
  · obtain ⟨hsame, rfl⟩ :=
      decode_of_prefix hwell hspell hwell' hspell' (fun l hl => hhead htail hl) hlonger
    exact ⟨hsame, (List.cons.inj htail).2⟩
  · obtain ⟨hsame, rfl⟩ :=
      decode_of_prefix hwell' hspell' hwell hspell (fun l hl => hhead htail hl) hlonger
    exact ⟨hsame.symm, (List.cons.inj htail).2.symm⟩

/-! ### The first lexemes -/

/-- A word that begins as a name does. -/
def Lexeme.isNameLike : Lexeme → Bool
  | word (c :: _) => isStart c
  | _ => false

/-- How an expression begins: with a bracket, or with a word that starts no other statement and
is not followed by a name. -/
inductive Opening : List Lexeme → Prop
  | paren {ls : List Lexeme} : Opening (.mark '(' :: ls)
  | word {cs : List Char} {ls : List Lexeme} :
      (∀ k : Keyword, k ≠ .trueWord → k ≠ .falseWord → cs ≠ k.spelling.toList) →
      (∀ l ∈ ls.head?, l.isNameLike = false) → Opening (.word cs :: ls)

theorem Opening.append {ls ms : List Lexeme} (h : Opening ls)
    (hms : ∀ m ∈ ms.head?, m.isNameLike = false) : Opening (ls ++ ms) := by
  cases h with
  | paren => exact .paren
  | @word cs ls hcs hls =>
    refine .word hcs fun l hl => ?_
    cases ls with
    | nil => exact hms l hl
    | cons m ls => exact hls l hl

/-- A word that begins like no name is no keyword. -/
theorem ne_keyword_of_first {c : Char} {cs : List Char} (hc : isStart c = false) (k : Keyword) :
    c :: cs ≠ k.spelling.toList := by
  intro h
  obtain ⟨d, ds, hword, hd, -⟩ := isWord_iff.mp k.isWord_spelling
  obtain ⟨rfl, -⟩ := List.cons.inj (h.trans hword)
  rw [hc] at hd
  exact absurd hd (by decide)

theorem ne_keyword_of_isName {name : String} (h : isName name = true) (k : Keyword) :
    name.toList ≠ k.spelling.toList :=
  fun heq => ne_spelling_of_isName h k (String.toList_inj.mp heq)

/-- A minus sign or a digit starts no name. -/
theorem isStart_of_signed {c : Char} (h : c = '-' ∨ c.isDigit = true) : isStart c = false := by
  rcases h with rfl | hdigit
  · decide +kernel
  · exact isStart_eq_false_of_isDigit hdigit

theorem isNameLike_arith (op : ArithmeticOp) :
    (Lexeme.word op.token.toList).isNameLike = false := by
  cases op <;> decide +kernel

theorem isNameLike_compare (op : ComparisonOp) :
    (Lexeme.word op.token.toList).isNameLike = false := by
  cases op <;> decide +kernel

theorem isNameLike_of_isName {name : String} (h : isName name = true) :
    (Lexeme.word name.toList).isNameLike = true := by
  obtain ⟨c, cs, hcs, hc, -⟩ := isWord_iff.mp (isWord_of_isName h)
  rw [hcs]
  exact hc

/-- A numeral alone is an opening. -/
theorem opening_numeral {cs : List Char} (h : cs.head?.any (fun c => c = '-' || c.isDigit) = true) :
    Opening [.word cs] := by
  cases cs with
  | nil => simp at h
  | cons c cs =>
    have hc : c = '-' ∨ c.isDigit = true := by simpa using h
    exact .word (fun k _ _ => ne_keyword_of_first (isStart_of_signed hc) k) (by simp)

/-- Every expression is an opening, if its literals are finite. -/
theorem Expr.opening {e : Expr} (h : e.WellFormed) :
    (∀ x ∈ e.floats, x.isFinite = true) → Opening e.lexemes := by
  have hnone : ∀ l ∈ ([] : List Lexeme).head?, l.isNameLike = false := by simp
  have hmark {c : Char} {ls : List Lexeme} :
      ∀ l ∈ (Lexeme.mark c :: ls).head?, l.isNameLike = false := by
    rintro l ⟨⟩
    rfl
  induction h with
  | @int value =>
    intro _
    refine opening_numeral ?_
    obtain ⟨c, cs, hfirst, hc⟩ :=
      (isWhole_decimalOf value).exists_first_signed (decimalOf value).negative []
    rw [List.append_nil] at hfirst
    rw [← spelling_decimalOf, Token.spelling, hfirst]
    simpa using hc
  | float n hdigits hfraction =>
    intro hfinite
    have htext := (isFraction_text (hfinite _ List.mem_cons_self)).fraction
    rw [Lexeme.isFraction, Bool.and_eq_true] at htext
    exact opening_numeral htext.1
  | @bool value =>
    intro _
    refine .word (fun k htrue hfalse heq => ?_) hnone
    have hword := String.toList_inj.mp heq
    cases value with
    | true => exact htrue (Keyword.spelling_inj (hword.symm.trans rfl : k.spelling = _))
    | false => exact hfalse (Keyword.spelling_inj (hword.symm.trans rfl : k.spelling = _))
  | ident hname =>
    intro _
    exact .word (fun k _ _ => ne_keyword_of_isName hname k) hnone
  | call hname _ _ =>
    intro _
    exact .word (fun k _ _ => ne_keyword_of_isName (isName_mangle hname) k) hmark
  | @arith op lhs rhs _ _ _ _ ihl _ =>
    intro hfinite
    refine (ihl (List.forall_mem_append.mp hfinite).1).append ?_
    rintro l ⟨⟩
    exact isNameLike_arith op
  | @compare op lhs rhs _ _ _ _ ihl _ =>
    intro hfinite
    refine (ihl (List.forall_mem_append.mp hfinite).1).append ?_
    rintro l ⟨⟩
    exact isNameLike_compare op
  | assign hname _ _ =>
    intro _
    refine .word (fun k _ _ => ne_keyword_of_isName hname k) ?_
    rintro l ⟨⟩
    decide +kernel
  | paren _ _ =>
    intro _
    exact .paren

/-- The kinds of statements. -/
inductive StmtKind where
  | bind | ret | cond | loop | count | block | eval
  deriving DecidableEq

/-- The kind of a statement. -/
def Stmt.kind : Stmt → StmtKind
  | .bind _ => .bind
  | .ret _ => .ret
  | .cond _ _ _ => .cond
  | .loop _ _ => .loop
  | .count _ _ _ _ => .count
  | .block _ => .block
  | .eval _ => .eval

/-- The kind of the statement that some lexemes begin with. -/
def kindOf : List Lexeme → StmtKind
  | [] => .eval
  | .mark c :: _ => if c = '\x7b' then .block else .eval
  | .word cs :: ls =>
      if cs = Keyword.returnWord.spelling.toList then .ret
      else if cs = Keyword.ifWord.spelling.toList then .cond
      else if cs = Keyword.whileWord.spelling.toList then .loop
      else if cs = Keyword.forWord.spelling.toList then .count
      else if ls.head?.any Lexeme.isNameLike then .bind
      else .eval

theorem kindOf_opening {ls : List Lexeme} (h : Opening ls) : kindOf ls = .eval := by
  cases h with
  | paren => rfl
  | @word cs ls hcs hls =>
    have hnext : ls.head?.any Lexeme.isNameLike = false := by
      cases ls with
      | nil => rfl
      | cons l ls => exact hls l rfl
    rw [kindOf, if_neg (hcs .returnWord (by decide) (by decide)),
      if_neg (hcs .ifWord (by decide) (by decide)), if_neg (hcs .whileWord (by decide) (by decide)),
      if_neg (hcs .forWord (by decide) (by decide)), hnext, if_neg Bool.false_ne_true]

/-- The first lexemes of a statement show its kind, whatever stands behind it. -/
theorem kindOf_lexemes {s : Stmt} (h : s.WellFormed) (hspell : Spells spell s.floats) (n : Nat)
    (us : List Lexeme) : kindOf (s.lexemes n ++ us) = s.kind := by
  cases h with
  | @bind b hb =>
    have hcs := ne_keyword_of_isName hb.type
    have hnext : (Lexeme.word b.name.toList).isNameLike = true := isNameLike_of_isName hb.name
    rw [Stmt.lexemes, Binding.lexemes, List.cons_append, kindOf, if_neg (hcs .returnWord),
      if_neg (hcs .ifWord), if_neg (hcs .whileWord), if_neg (hcs .forWord), List.cons_append,
      List.head?_cons, Option.any_some, hnext, if_pos rfl]
    rfl
  | ret _ => rfl
  | cond _ _ _ => rfl
  | loop _ _ => rfl
  | count _ _ _ _ => rfl
  | block _ => rfl
  | @eval value hvalue =>
    have hsemicolon : ∀ m ∈ (Lexeme.mark ';' :: us).head?, m.isNameLike = false := by
      rintro m ⟨⟩
      rfl
    rw [Stmt.lexemes, List.append_assoc, List.singleton_append]
    exact kindOf_opening ((Expr.opening hvalue hspell.finite).append hsemicolon)

/-- Lexemes that do not go on with an `else`. -/
def Resumes (ls : List Lexeme) : Prop := ls.head? ≠ some (.word Keyword.elseWord.spelling.toList)

/-- A statement begins neither with an `else` nor with a closing brace. -/
theorem Stmt.exists_first_lexeme {s : Stmt} (h : s.WellFormed) (hspell : Spells spell s.floats)
    (n : Nat) :
    ∃ l ls, s.lexemes n = l :: ls ∧ l ≠ .word Keyword.elseWord.spelling.toList ∧
      l ≠ .mark '\x7d' := by
  cases h with
  | @bind b hb =>
    refine ⟨_, _, rfl, fun heq => ?_, by simp⟩
    exact ne_keyword_of_isName hb.type .elseWord (Lexeme.word.inj heq)
  | ret _ => exact ⟨_, _, rfl, by decide, by simp⟩
  | cond _ _ _ => exact ⟨_, _, rfl, by decide, by simp⟩
  | loop _ _ => exact ⟨_, _, rfl, by decide, by simp⟩
  | count _ _ _ _ => exact ⟨_, _, rfl, by decide, by simp⟩
  | block _ => exact ⟨_, _, rfl, by simp, by decide⟩
  | @eval value hvalue =>
    have hopening := Expr.opening hvalue hspell.finite
    rw [Stmt.lexemes]
    generalize value.lexemes = ls at hopening
    cases hopening with
    | paren => exact ⟨_, _, rfl, by simp, by decide⟩
    | word hcs _ =>
      refine ⟨_, _, rfl, fun heq => ?_, by simp⟩
      exact hcs .elseWord (by decide) (by decide) (Lexeme.word.inj heq)

/-! ### Statements -/

theorem resumes_of_body {ss : List Stmt} (hwell : ∀ s ∈ ss, s.WellFormed)
    (hspell : Spells spell (floatsOfAll ss)) (n : Nat) (us : List Lexeme) :
    Resumes (lexemesOfAll n ss ++ .mark '\x7d' :: us) := by
  cases ss with
  | nil => simp [Resumes, lexemesOfAll]
  | cons s ss =>
    obtain ⟨l, ls, hfirst, helse, -⟩ :=
      Stmt.exists_first_lexeme (hwell s List.mem_cons_self) hspell.left n
    rw [Resumes, lexemesOfAll, hfirst]
    simpa using helse

/-- A body is told from its lexemes in front of a brace. -/
def BodyDecodes (spell : Lexeme → List Char) (body : List Stmt) : Prop :=
  ∀ ⦃n body' us us'⦄, (∀ s ∈ body', s.WellFormed) → Spells spell (floatsOfAll body') →
    lexemesOfAll n body ++ .mark '\x7d' :: us = lexemesOfAll n body' ++ .mark '\x7d' :: us' →
    renamedAll body = renamedAll body' ∧ us = us'

section

variable {body body' : List Stmt} {us us' : List Lexeme} {n : Nat}

/-- The same in front of a closing brace with its label. -/
theorem BodyDecodes.closed (h : BodyDecodes spell body) (hwell' : ∀ s ∈ body', s.WellFormed)
    (hspell' : Spells spell (floatsOfAll body')) {label : String}
    (heq : (lexemesOfAll n body ++ closingLexemes label) ++ us
      = (lexemesOfAll n body' ++ closingLexemes label) ++ us') :
    renamedAll body = renamedAll body' ∧ us = us' := by
  rw [List.append_assoc, List.append_assoc] at heq
  obtain ⟨hsame, htail⟩ := h hwell' hspell' heq
  simp only [List.append_eq, List.cons_append, List.cons.injEq, true_and] at htail
  exact ⟨hsame, htail⟩

theorem BodyDecodes.labelled (h : BodyDecodes spell body) (hwell' : ∀ s ∈ body', s.WellFormed)
    (hspell' : Spells spell (floatsOfAll body'))
    (heq : labelledLexemes n (lexemesOfAll (n + 1) body) ++ us
      = labelledLexemes n (lexemesOfAll (n + 1) body') ++ us') :
    renamedAll body = renamedAll body' ∧ us = us' := by
  simp only [labelledLexemes, List.cons_append, List.cons.injEq, true_and] at heq
  exact h.closed hwell' hspell' heq

theorem BodyDecodes.owned (h : BodyDecodes spell body) (hwell' : ∀ s ∈ body', s.WellFormed)
    (hspell' : Spells spell (floatsOfAll body')) {function : String}
    (heq : ownedLexemes function (lexemesOfAll n body) ++ us
      = ownedLexemes function (lexemesOfAll n body') ++ us') :
    renamedAll body = renamedAll body' ∧ us = us' := by
  simp only [ownedLexemes, List.cons_append, List.cons.injEq, true_and] at heq
  exact h.closed hwell' hspell' heq

/-- A condition in parentheses and the block behind it are told from their lexemes. -/
theorem BodyDecodes.guarded (h : BodyDecodes spell body) {test test' : Expr}
    (htest : test.WellFormed) (hspell : Spells spell test.floats) (htest' : test'.WellFormed)
    (hspell' : Spells spell test'.floats) (hwell' : ∀ s ∈ body', s.WellFormed)
    (hbody' : Spells spell (floatsOfAll body'))
    (heq : test.lexemes ++ .mark ')' :: (labelledLexemes n (lexemesOfAll (n + 1) body) ++ us)
      = test'.lexemes ++ .mark ')' :: (labelledLexemes n (lexemesOfAll (n + 1) body') ++ us')) :
    test.renamed = test'.renamed ∧ renamedAll body = renamedAll body' ∧ us = us' := by
  obtain ⟨hsame, htail⟩ := Expr.decode htest hspell htest' hspell' (.inl rfl) heq
  exact ⟨hsame, h.labelled hwell' hbody' htail⟩

end

/-- A statement is told from its lexemes, if no `else` follows it. -/
def Stmt.Decodes (spell : Lexeme → List Char) (s : Stmt) : Prop :=
  ∀ ⦃n : Nat⦄ ⦃s' : Stmt⦄ ⦃us us' : List Lexeme⦄, s'.WellFormed → Spells spell s'.floats →
    Resumes us → Resumes us' → s.lexemes n ++ us = s'.lexemes n ++ us' →
      s.renamed = s'.renamed ∧ us = us'

/-- What follows an `else` is told from its lexemes, and so is that there is none. -/
def Else.Decodes (spell : Lexeme → List Char) (o : Else) : Prop :=
  ∀ ⦃n : Nat⦄ ⦃o' : Else⦄ ⦃us us' : List Lexeme⦄, o'.WellFormed → Spells spell o'.floats →
    Resumes us → Resumes us' → o.lexemes n ++ us = o'.lexemes n ++ us' →
      o.renamed = o'.renamed ∧ us = us'

theorem kind_eq {s s' : Stmt} (hwell : s.WellFormed) (hspell : Spells spell s.floats)
    (hwell' : s'.WellFormed) (hspell' : Spells spell s'.floats) {n : Nat} {us us' : List Lexeme}
    (heq : s.lexemes n ++ us = s'.lexemes n ++ us') : s.kind = s'.kind := by
  rw [← kindOf_lexemes hwell hspell n us, heq, kindOf_lexemes hwell' hspell' n us']

/-- A variable is told from its lexemes. -/
theorem Binding.decode {b b' : Binding} (hwell : b.WellFormed) (hspell : Spells spell b.init.floats)
    (hwell' : b'.WellFormed) (hspell' : Spells spell b'.init.floats) {us us' : List Lexeme}
    (heq : b.lexemes ++ us = b'.lexemes ++ us') : b.renamed = b'.renamed ∧ us = us' := by
  simp only [Binding.lexemes, List.cons_append, List.append_assoc, List.nil_append,
    List.cons.injEq, Lexeme.word.injEq, String.toList_inj, true_and] at heq
  obtain ⟨htype, hname, hinit⟩ := heq
  obtain ⟨hsame, htail⟩ := Expr.decode hwell.init hspell hwell'.init hspell' (.inr rfl) hinit
  exact ⟨by rw [Binding.renamed, Binding.renamed, htype, hname, hsame], htail⟩

section

variable {body : List Stmt}

theorem decodes_bind {b : Binding} (hwell : b.WellFormed) (hspell : Spells spell b.init.floats) :
    (Stmt.bind b).Decodes spell := by
  intro n s' us us' hwell' hspell' _ _ heq
  have hkind := kind_eq (.bind hwell) hspell hwell' hspell' heq
  cases s' with
  | bind b' =>
    cases hwell' with
    | bind hb' =>
      obtain ⟨hsame, htail⟩ := Binding.decode hwell hspell hb' hspell' heq
      exact ⟨by rw [Stmt.renamed, Stmt.renamed, hsame], htail⟩
  | _ => cases hkind

theorem decodes_ret {value : Expr} (hwell : value.WellFormed)
    (hspell : Spells spell value.floats) : (Stmt.ret value).Decodes spell := by
  intro n s' us us' hwell' hspell' _ _ heq
  have hkind := kind_eq (.ret hwell) hspell hwell' hspell' heq
  cases s' with
  | ret value' =>
    cases hwell' with
    | ret hvalue' =>
      simp only [Stmt.lexemes, List.cons_append, List.append_assoc, List.nil_append,
        List.cons.injEq, true_and] at heq
      obtain ⟨hsame, htail⟩ := Expr.decode hwell hspell hvalue' hspell' (.inr rfl) heq
      exact ⟨by rw [Stmt.renamed, Stmt.renamed, hsame], htail⟩
  | _ => cases hkind

theorem decodes_eval {value : Expr} (hwell : value.WellFormed)
    (hspell : Spells spell value.floats) : (Stmt.eval value).Decodes spell := by
  intro n s' us us' hwell' hspell' _ _ heq
  have hkind := kind_eq (.eval hwell) hspell hwell' hspell' heq
  cases s' with
  | eval value' =>
    cases hwell' with
    | eval hvalue' =>
      simp only [Stmt.lexemes, List.append_assoc, List.cons_append, List.nil_append] at heq
      obtain ⟨hsame, htail⟩ := Expr.decode hwell hspell hvalue' hspell' (.inr rfl) heq
      exact ⟨by rw [Stmt.renamed, Stmt.renamed, hsame], htail⟩
  | _ => cases hkind

theorem decodes_block (hwell : ∀ s ∈ body, s.WellFormed)
    (hspell : Spells spell (floatsOfAll body)) (hbody : BodyDecodes spell body) :
    (Stmt.block body).Decodes spell := by
  intro n s' us us' hwell' hspell' _ _ heq
  have hkind := kind_eq (.block hwell) hspell hwell' hspell' heq
  cases s' with
  | block body' =>
    cases hwell' with
    | block hbody' =>
      obtain ⟨hsame, htail⟩ := hbody.labelled hbody' hspell' heq
      exact ⟨by rw [Stmt.renamed, Stmt.renamed, hsame], htail⟩
  | _ => cases hkind

theorem decodes_loop {test : Expr} (htest : test.WellFormed) (hwell : ∀ s ∈ body, s.WellFormed)
    (hspell : Spells spell (test.floats ++ floatsOfAll body)) (hbody : BodyDecodes spell body) :
    (Stmt.loop test body).Decodes spell := by
  intro n s' us us' hwell' hspell' _ _ heq
  have hkind := kind_eq (.loop htest hwell) hspell hwell' hspell' heq
  cases s' with
  | loop test' body' =>
    cases hwell' with
    | loop htest' hbody' =>
      simp only [Stmt.lexemes, List.cons_append, List.append_assoc, List.cons.injEq,
        true_and] at heq
      obtain ⟨hsame, hsames, htail⟩ :=
        hbody.guarded htest hspell.left htest' hspell'.left hbody' hspell'.right heq
      exact ⟨by rw [Stmt.renamed, Stmt.renamed, hsame, hsames], htail⟩
  | _ => cases hkind

theorem decodes_count {var : String} {first bound : Expr} (hvar : isName var = true)
    (hfirst : first.WellFormed) (hbound : bound.WellFormed) (hwell : ∀ s ∈ body, s.WellFormed)
    (hspell : Spells spell (first.floats ++ bound.floats ++ floatsOfAll body))
    (hbody : BodyDecodes spell body) : (Stmt.count var first bound body).Decodes spell := by
  intro n s' us us' hwell' hspell' _ _ heq
  have hkind := kind_eq (.count hvar hfirst hbound hwell) hspell hwell' hspell' heq
  cases s' with
  | count var' first' bound' body' =>
    cases hwell' with
    | count _ hfirst' hbound' hbody' =>
      simp only [Stmt.lexemes, List.cons_append, List.append_assoc, List.cons.injEq,
        Lexeme.word.injEq, String.toList_inj, true_and] at heq
      obtain ⟨rfl, heq⟩ := heq
      -- the first value, then the bound, then the body
      obtain ⟨hsame, hrest⟩ :=
        Expr.decode hfirst hspell.left.left hfirst' hspell'.left.left (.inr rfl) heq
      simp only [List.cons.injEq, true_and] at hrest
      obtain ⟨hsame', hrest⟩ :=
        Expr.decode hbound hspell.left.right hbound' hspell'.left.right (.inr rfl) hrest
      simp only [List.cons.injEq, true_and] at hrest
      obtain ⟨hsames, htail⟩ := hbody.labelled hbody' hspell'.right hrest
      exact ⟨by rw [Stmt.renamed, Stmt.renamed, hsame, hsame', hsames], htail⟩
  | _ => cases hkind

/-- The parts of a condition are told from the lexemes behind its `if`. -/
theorem decode_branches {test test' : Expr} {body' : List Stmt} {otherwise otherwise' : Else}
    (htest : test.WellFormed) (hspell : Spells spell test.floats) (hbody : BodyDecodes spell body)
    (hother : otherwise.Decodes spell) (htest' : test'.WellFormed)
    (hwell' : ∀ s ∈ body', s.WellFormed) (hother' : otherwise'.WellFormed)
    (hspell' : Spells spell (test'.floats ++ floatsOfAll body' ++ otherwise'.floats)) {n : Nat}
    {us us' : List Lexeme} (hus : Resumes us) (hus' : Resumes us')
    (heq : test.lexemes ++ .mark ')' :: (labelledLexemes n (lexemesOfAll (n + 1) body)
        ++ (otherwise.lexemes (n + 1 + blocksOfAll body) ++ us))
      = test'.lexemes ++ .mark ')' :: (labelledLexemes n (lexemesOfAll (n + 1) body')
        ++ (otherwise'.lexemes (n + 1 + blocksOfAll body') ++ us'))) :
    test.renamed = test'.renamed ∧ renamedAll body = renamedAll body' ∧
      otherwise.renamed = otherwise'.renamed ∧ us = us' := by
  obtain ⟨hsame, hsames, hrest⟩ :=
    hbody.guarded htest hspell htest' hspell'.left.left hwell' hspell'.left.right heq
  -- the numbers of the blocks behind the `else` are the same, since as many blocks open before
  have hblocks : blocksOfAll body = blocksOfAll body' := by
    rw [← blocksOfAll_renamedAll body, hsames, blocksOfAll_renamedAll]
  rw [hblocks] at hrest
  obtain ⟨hbranch, htail⟩ := hother hother' hspell'.right hus hus' hrest
  exact ⟨hsame, hsames, hbranch, htail⟩

theorem decodes_cond {test : Expr} {otherwise : Else} (htest : test.WellFormed)
    (hwell : ∀ s ∈ body, s.WellFormed) (hotherwise : otherwise.WellFormed)
    (hspell : Spells spell (test.floats ++ floatsOfAll body ++ otherwise.floats))
    (hbody : BodyDecodes spell body) (hother : otherwise.Decodes spell) :
    (Stmt.cond test body otherwise).Decodes spell := by
  intro n s' us us' hwell' hspell' hus hus' heq
  have hkind := kind_eq (.cond htest hwell hotherwise) hspell hwell' hspell' heq
  cases s' with
  | cond test' body' otherwise' =>
    cases hwell' with
    | cond htest' hbody' hother' =>
      simp only [Stmt.lexemes, List.cons_append, List.append_assoc, List.cons.injEq,
        true_and] at heq
      obtain ⟨hsame, hsames, hbranch, htail⟩ := decode_branches htest hspell.left.left hbody
        hother htest' hbody' hother' hspell' hus hus' heq
      exact ⟨by rw [Stmt.renamed, Stmt.renamed, hsame, hsames, hbranch], htail⟩
  | _ => cases hkind

theorem decodes_none : Else.none.Decodes spell := by
  intro n o' us us' hwell' _ hus _ heq
  cases hwell' with
  | none => exact ⟨rfl, heq⟩
  | block _ =>
    rw [Else.lexemes, List.nil_append, Else.lexemes] at heq
    exact absurd (congrArg List.head? heq) hus
  | cond _ _ _ =>
    rw [Else.lexemes, List.nil_append, Else.lexemes] at heq
    exact absurd (congrArg List.head? heq) hus

theorem decodes_elseBlock (hbody : BodyDecodes spell body) :
    (Else.block body).Decodes spell := by
  intro n o' us us' hwell' hspell' _ hus' heq
  cases hwell' with
  | none =>
    rw [Else.lexemes, Else.lexemes, List.nil_append] at heq
    exact absurd (congrArg List.head? heq.symm) hus'
  | block hbody' =>
    simp only [Else.lexemes, List.cons_append, List.cons.injEq, true_and] at heq
    obtain ⟨hsame, htail⟩ := hbody.labelled hbody' hspell' heq
    exact ⟨by rw [Else.renamed, Else.renamed, hsame], htail⟩
  | cond _ _ _ => simp [Else.lexemes, labelledLexemes] at heq

theorem decodes_elseCond {test : Expr} {otherwise : Else} (htest : test.WellFormed)
    (hspell : Spells spell test.floats) (hbody : BodyDecodes spell body)
    (hother : otherwise.Decodes spell) : (Else.cond test body otherwise).Decodes spell := by
  intro n o' us us' hwell' hspell' hus hus' heq
  cases hwell' with
  | none =>
    rw [Else.lexemes, Else.lexemes, List.nil_append] at heq
    exact absurd (congrArg List.head? heq.symm) hus'
  | block _ => simp [Else.lexemes, labelledLexemes] at heq
  | cond htest' hbody' hother' =>
    simp only [Else.lexemes, List.cons_append, List.append_assoc, List.cons.injEq,
      true_and] at heq
    obtain ⟨hsame, hsames, hbranch, htail⟩ := decode_branches htest hspell hbody hother htest'
      hbody' hother' hspell' hus hus' heq
    exact ⟨by rw [Else.renamed, Else.renamed, hsame, hsames, hbranch], htail⟩

theorem bodyDecodes_nil : BodyDecodes spell [] := by
  intro n body' us us' hwell' hspell' heq
  cases body' with
  | nil => exact ⟨rfl, (List.cons.inj heq).2⟩
  | cons s' ss' =>
    obtain ⟨l, ls, hfirst, -, hbrace⟩ :=
      Stmt.exists_first_lexeme (hwell' s' List.mem_cons_self) hspell'.left n
    rw [lexemesOfAll, lexemesOfAll, hfirst] at heq
    exact absurd (List.cons.inj heq).1.symm hbrace

theorem bodyDecodes_cons {s : Stmt} {ss : List Stmt} (hwell : ∀ t ∈ s :: ss, t.WellFormed)
    (hspell : Spells spell (s.floats ++ floatsOfAll ss)) (hs : s.Decodes spell)
    (hss : BodyDecodes spell ss) : BodyDecodes spell (s :: ss) := by
  intro n body' us us' hwell' hspell' heq
  obtain ⟨hwells, hwellss⟩ := List.forall_mem_cons.mp hwell
  cases body' with
  | nil =>
    obtain ⟨l, ls, hfirst, -, hbrace⟩ := Stmt.exists_first_lexeme hwells hspell.left n
    rw [lexemesOfAll, lexemesOfAll, hfirst] at heq
    exact absurd (List.cons.inj heq).1 hbrace
  | cons s' ss' =>
    obtain ⟨hwells', hwellss'⟩ := List.forall_mem_cons.mp hwell'
    rw [lexemesOfAll, lexemesOfAll, List.append_assoc, List.append_assoc] at heq
    obtain ⟨hsame, htail⟩ := hs hwells' hspell'.left
      (resumes_of_body hwellss hspell.right _ us) (resumes_of_body hwellss' hspell'.right _ us') heq
    -- the statements behind have the same numbers, since as many blocks open in the first one
    have hblocks : s.blocks = s'.blocks := by
      rw [← s.blocks_renamed, hsame, s'.blocks_renamed]
    rw [hblocks] at htail
    obtain ⟨hsames, htails⟩ := hss hwellss' hspell'.right htail
    exact ⟨by rw [renamedAll, renamedAll, hsame, hsames], htails⟩

end

mutual

/-- Every statement is told from its lexemes. -/
theorem Stmt.decode : (s : Stmt) → s.WellFormed → Spells spell s.floats → s.Decodes spell
  | .bind _, .bind hb, hspell => decodes_bind hb hspell
  | .ret _, .ret hvalue, hspell => decodes_ret hvalue hspell
  | .cond _ body otherwise, .cond htest hbody hother, hspell =>
    decodes_cond htest hbody hother hspell (decodeAll body hbody hspell.left.right)
      (otherwise.decode hother hspell.right)
  | .loop _ body, .loop htest hbody, hspell =>
    decodes_loop htest hbody hspell (decodeAll body hbody hspell.right)
  | .count _ _ _ body, .count hvar hfirst hbound hbody, hspell =>
    decodes_count hvar hfirst hbound hbody hspell (decodeAll body hbody hspell.right)
  | .block body, .block hbody, hspell => decodes_block hbody hspell (decodeAll body hbody hspell)
  | .eval _, .eval hvalue, hspell => decodes_eval hvalue hspell

theorem Else.decode : (o : Else) → o.WellFormed → Spells spell o.floats → o.Decodes spell
  | .none, .none, _ => decodes_none
  | .block body, .block hbody, hspell => decodes_elseBlock (decodeAll body hbody hspell)
  | .cond _ body otherwise, .cond htest hbody hother, hspell =>
    decodes_elseCond htest hspell.left.left (decodeAll body hbody hspell.left.right)
      (otherwise.decode hother hspell.right)

theorem decodeAll : (ss : List Stmt) → (∀ s ∈ ss, s.WellFormed) →
    Spells spell (floatsOfAll ss) → BodyDecodes spell ss
  | [], _, _ => bodyDecodes_nil
  | s :: ss, hwell, hspell =>
    bodyDecodes_cons hwell hspell (s.decode (hwell s List.mem_cons_self) hspell.left)
      (decodeAll ss (fun t ht => hwell t (List.mem_cons_of_mem s ht)) hspell.right)

end

/-! ### Declarations -/

/-- Behind the first of several lists with a separator between them, each of the others has one
in front. -/
theorem intercalate_cons_eq {α : Type} (sep : α) (first : List α) (others : List (List α)) :
    [sep].intercalate (first :: others) = first ++ others.flatMap (sep :: ·) := by
  induction others generalizing first with
  | nil => simp
  | cons second others ih =>
    rw [List.intercalate_cons_cons, ih, List.flatMap_cons, List.append_assoc]
    rfl

theorem decode_moreParams {ps ps' : List Param} {us us' : List Lexeme}
    (heq : (ps.map paramLexemes).flatMap (Lexeme.mark ',' :: ·) ++ .mark ')' :: us
      = (ps'.map paramLexemes).flatMap (Lexeme.mark ',' :: ·) ++ .mark ')' :: us') :
    ps = ps' ∧ us = us' := by
  induction ps generalizing ps' with
  | nil =>
    cases ps' with
    | nil => simpa using heq
    | cons p' ps' => simp at heq
  | cons p ps ih =>
    cases ps' with
    | nil => simp at heq
    | cons p' ps' =>
      simp only [List.map_cons, List.flatMap_cons, paramLexemes, List.cons_append,
        List.nil_append, List.cons.injEq, Lexeme.word.injEq, String.toList_inj, true_and] at heq
      obtain ⟨htype, hname, hrest⟩ := heq
      obtain ⟨rfl, htail⟩ := ih hrest
      obtain ⟨name, type⟩ := p
      obtain ⟨name', type'⟩ := p'
      subst htype hname
      exact ⟨rfl, htail⟩

/-- Parameters are told from their lexemes in front of a bracket. -/
theorem decode_params {ps ps' : List Param} {us us' : List Lexeme}
    (heq : [.mark ','].intercalate (ps.map paramLexemes) ++ .mark ')' :: us
      = [.mark ','].intercalate (ps'.map paramLexemes) ++ .mark ')' :: us') :
    ps = ps' ∧ us = us' := by
  cases ps with
  | nil =>
    cases ps' with
    | nil => simpa using heq
    | cons p' ps' =>
      rw [List.map_cons, intercalate_cons_eq] at heq
      simp [paramLexemes] at heq
  | cons p ps =>
    cases ps' with
    | nil =>
      rw [List.map_cons, intercalate_cons_eq] at heq
      simp [paramLexemes] at heq
    | cons p' ps' =>
      -- a comma in front of the first parameter makes it one of the others
      rw [List.map_cons, List.map_cons, intercalate_cons_eq, intercalate_cons_eq] at heq
      refine decode_moreParams ?_
      simpa using heq

theorem Function.decode {f f' : Function} (hwell : f.WellFormed)
    (hspell : Spells spell (floatsOfAll f.body)) (hwell' : f'.WellFormed)
    (hspell' : Spells spell (floatsOfAll f'.body)) {n : Nat} {us us' : List Lexeme}
    (heq : f.lexemes n ++ us = f'.lexemes n ++ us') : f.renamed = f'.renamed ∧ us = us' := by
  simp only [Function.lexemes, List.cons_append, List.append_assoc, List.cons.injEq,
    Lexeme.word.injEq, String.toList_inj, true_and] at heq
  obtain ⟨hresult, hname, hrest⟩ := heq
  obtain ⟨hparams, hrest⟩ := decode_params hrest
  rw [hname] at hrest
  obtain ⟨hsame, htail⟩ :=
    (decodeAll f.body hwell.body hspell).owned hwell'.body hspell' hrest
  exact ⟨by rw [Function.renamed, Function.renamed, hname, hparams, hresult, hsame], htail⟩

/-- A declaration is told from its lexemes. -/
theorem Item.decode {i i' : Item} (hwell : i.WellFormed) (hspell : Spells spell i.floats)
    (hwell' : i'.WellFormed) (hspell' : Spells spell i'.floats) {n : Nat} {us us' : List Lexeme}
    (heq : i.lexemes n ++ us = i'.lexemes n ++ us') : i.renamed = i'.renamed ∧ us = us' := by
  -- the third lexeme is a bracket behind the name of a function, and no bracket otherwise
  cases i with
  | function f =>
    cases i' with
    | function f' =>
      obtain ⟨hsame, htail⟩ := Function.decode hwell hspell hwell' hspell' heq
      exact ⟨by rw [Item.renamed, Item.renamed, hsame], htail⟩
    | bind b' => simp [Item.lexemes, Function.lexemes, Binding.lexemes] at heq
  | bind b =>
    cases i' with
    | function f' => simp [Item.lexemes, Function.lexemes, Binding.lexemes] at heq
    | bind b' =>
      obtain ⟨hsame, htail⟩ := Binding.decode hwell hspell hwell' hspell' heq
      exact ⟨by rw [Item.renamed, Item.renamed, hsame], htail⟩

theorem Item.lexemes_ne_nil (n : Nat) (i : Item) : i.lexemes n ≠ [] := by
  cases i with
  | function f => exact List.cons_ne_nil _ _
  | bind b => exact List.cons_ne_nil _ _

/-- The declarations of a file are told from its lexemes. -/
theorem decodeItems {items items' : List Item} (hwell : ∀ i ∈ items, i.WellFormed)
    (hspell : Spells spell (items.flatMap Item.floats)) (hwell' : ∀ i ∈ items', i.WellFormed)
    (hspell' : Spells spell (items'.flatMap Item.floats)) {n : Nat}
    (heq : lexemesOfItems n items = lexemesOfItems n items') :
    items.map Item.renamed = items'.map Item.renamed := by
  induction items generalizing items' n with
  | nil =>
    cases items' with
    | nil => rfl
    | cons i' items' =>
      have hnil : i'.lexemes n = [] := (List.append_eq_nil_iff.mp heq.symm).1
      exact absurd hnil (i'.lexemes_ne_nil n)
  | cons i items ih =>
    obtain ⟨hi, hitems⟩ := List.forall_mem_cons.mp hwell
    rw [List.flatMap_cons] at hspell
    cases items' with
    | nil =>
      have hnil : i.lexemes n = [] := (List.append_eq_nil_iff.mp heq).1
      exact absurd hnil (i.lexemes_ne_nil n)
    | cons i' items' =>
      obtain ⟨hi', hitems'⟩ := List.forall_mem_cons.mp hwell'
      rw [List.flatMap_cons] at hspell'
      obtain ⟨hsame, htail⟩ := Item.decode hi hspell.left hi' hspell'.left heq
      have hblocks : i.blocks = i'.blocks := by
        rw [← i.blocks_renamed, hsame, i'.blocks_renamed]
      rw [hblocks] at htail
      rw [List.map_cons, List.map_cons, hsame, ih hitems hspell.right hitems' hspell'.right htail]

end ToyLang.Source
