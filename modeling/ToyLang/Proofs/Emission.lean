import ToyLang.Proofs.Numerals
import ToyLang.Proofs.Renaming
import ToyLang.Proofs.Walk

/-!
# Expressions in a generated file

An expression of the source is written into the generated file as a sequence of lexemes, and
these are tokens of the source language again: the tokens of the same expression with its
callees renamed.  Only a floating-point literal may be written in a way that is no token, so
what its lexeme stands for is left open here.

## Main definitions

* `Expr.lexemes` — the lexemes of an expression.
* `Spells` — a way to write lexemes as tokens.

## Main results

* `lexemesOf_cpp` — the text of an expression consists of its lexemes.
* `exists_tokens` — the lexemes of an expression are tokens of the renamed expression.
-/

namespace ToyLang.Source

open Text

mutual

/-- The lexemes of an expression in the generated file. -/
def Expr.lexemes : Expr → List Lexeme
  | .int value => [.word (toString value.toInt).toList]
  | .float value => [.word value.text.toList]
  | .bool value => [.word (if value then "true" else "false").toList]
  | .ident name => [.word name.toList]
  | .call callee args =>
      .word (Cpp.mangle callee).toList :: .mark '(' ::
        ([.mark ','].intercalate (lexemesOfEach args) ++ [.mark ')'])
  | .arith op lhs rhs => lhs.lexemes ++ .word op.token.toList :: rhs.lexemes
  | .compare op lhs rhs => lhs.lexemes ++ .word op.token.toList :: rhs.lexemes
  | .assign target value => .word target.toList :: .word ['='] :: value.lexemes
  | .paren inner => .mark '(' :: (inner.lexemes ++ [.mark ')'])

/-- The lexemes of each of some expressions. -/
def lexemesOfEach : List Expr → List (List Lexeme)
  | [] => []
  | e :: es => e.lexemes :: lexemesOfEach es

end

/-! ### The text of an expression -/

theorem lexemesOf_isName {name : String} (h : isName name = true) :
    lexemesOf name = [.word name.toList] := by
  have hword := isWord_of_isName h
  obtain ⟨c, cs, hcs, -⟩ := isWord_iff.mp hword
  refine lexemesOf_word ?_ (isSolid_of_isWord hword)
  rw [hcs]
  exact List.cons_ne_nil c cs

/-- An operator stands between two blanks. -/
theorem lexemesOf_infix {op : String} (h : lexemesOf op = [.word op.toList]) (s t : String) :
    lexemesOf (s ++ " " ++ op ++ " " ++ t)
      = lexemesOf s ++ .word op.toList :: lexemesOf t := by
  rw [lexemesOf_blank, lexemesOf_blank, h, List.append_assoc, List.singleton_append]

theorem lexemesOf_arith (op : ArithmeticOp) : lexemesOf op.token = [.word op.token.toList] := by
  cases op <;> decide

theorem lexemesOf_compare (op : ComparisonOp) : lexemesOf op.token = [.word op.token.toList] := by
  cases op <;> decide

theorem lexemesOfEach_eq_map (es : List Expr) : lexemesOfEach es = es.map Expr.lexemes := by
  induction es with
  | nil => rfl
  | cons e es ih => rw [lexemesOfEach, ih, List.map_cons]

theorem cppEach_eq_map (es : List Expr) : cppEach es = es.map Expr.cpp := by
  induction es with
  | nil => rfl
  | cons e es ih => rw [cppEach_cons, ih, List.map_cons]

theorem floatsOfArgs_eq_flatMap (es : List Expr) : floatsOfArgs es = es.flatMap Expr.floats := by
  induction es with
  | nil => rfl
  | cons e es ih => rw [floatsOfArgs_cons, ih, List.flatMap_cons]

theorem lexemesOf_args {args : List Expr} (h : ∀ a ∈ args, lexemesOf a.cpp = a.lexemes) :
    lexemesOf (", ".intercalate (cppEach args)) = [.mark ','].intercalate (lexemesOfEach args) := by
  rw [lexemesOf_intercalate, cppEach_eq_map, lexemesOfEach_eq_map, List.map_map]
  exact congrArg _ (List.map_congr_left h)

/-- The text of an expression consists of its lexemes, if its literals are finite. -/
theorem lexemesOf_cpp {e : Expr} (h : e.WellFormed) :
    (∀ x ∈ e.floats, x.isFinite = true) → lexemesOf e.cpp = e.lexemes := by
  have hleft : lexemesOf "(" = [.mark '('] := by decide
  have hright : lexemesOf ")" = [.mark ')'] := by decide
  induction h with
  | @int value =>
    intro _
    exact lexemesOf_word (toList_toString_int_ne_nil _) (isSolid_int _)
  | float n hdigits hfraction =>
    intro hfinite
    have htext := isFraction_text (hfinite _ List.mem_cons_self)
    exact lexemesOf_word htext.ne_nil htext.solid
  | @bool value =>
    intro _
    cases value <;> decide
  | ident hname =>
    intro _
    exact lexemesOf_isName hname
  | @call callee args hname _ ih =>
    intro hfinite
    rw [Expr.floats_call, floatsOfArgs_eq_flatMap, List.forall_mem_flatMap] at hfinite
    have hargs : ∀ a ∈ args, lexemesOf a.cpp = a.lexemes := fun a ha => ih a ha (hfinite a ha)
    rw [Expr.cpp_call, lexemesOf_append (.inr (by decide)), lexemesOf_left,
      lexemesOf_isName (isName_mangle hname), lexemesOf_args hargs, hright, Expr.lexemes]
    simp only [List.cons_append, List.nil_append]
  | @arith op lhs rhs _ _ _ _ ihl ihr =>
    intro hfinite
    obtain ⟨hl, hr⟩ := List.forall_mem_append.mp hfinite
    rw [Expr.cpp_arith, lexemesOf_infix (lexemesOf_arith op), ihl hl, ihr hr, Expr.lexemes]
  | @compare op lhs rhs _ _ _ _ ihl ihr =>
    intro hfinite
    obtain ⟨hl, hr⟩ := List.forall_mem_append.mp hfinite
    rw [Expr.cpp_compare, lexemesOf_infix (lexemesOf_compare op), ihl hl, ihr hr, Expr.lexemes]
  | @assign target value hname _ ih =>
    intro hfinite
    rw [Expr.cpp_assign, lexemesOf_equals, lexemesOf_isName hname, ih hfinite, Expr.lexemes,
      List.singleton_append]
  | @paren inner _ ih =>
    intro hfinite
    rw [Expr.cpp_paren, lexemesOf_append (.inr (by decide)), lexemesOf_append (.inl (by decide)),
      hleft, hright, ih hfinite, Expr.lexemes]
    simp only [List.cons_append, List.nil_append]

/-! ### The tokens of an expression -/

/-- A way to write lexemes as tokens: as they are, but for the literals `xs`, which are finite and
become numerals that denote them. -/
structure Spells (spell : Lexeme → List Char) (xs : List Binary64) : Prop where
  finite : ∀ x ∈ xs, x.isFinite = true
  plain : ∀ l : Lexeme, l.isFraction = false → spell l = l.chars
  literal : ∀ x ∈ xs, ∃ n valid, FractionalNumeral.value n = x ∧
    (Token.fractional n valid).spelling = spell (.word x.text.toList)

section

variable {spell : Lexeme → List Char} {xs : List Binary64}

theorem Spells.mono (h : Spells spell xs) {ys : List Binary64} (hsub : ∀ y ∈ ys, y ∈ xs) :
    Spells spell ys :=
  ⟨fun y hy => h.finite y (hsub y hy), h.plain, fun y hy => h.literal y (hsub y hy)⟩

theorem Spells.left {ys : List Binary64} (h : Spells spell (xs ++ ys)) : Spells spell xs :=
  h.mono fun _ hx => List.mem_append_left _ hx

theorem Spells.right {ys : List Binary64} (h : Spells spell (xs ++ ys)) : Spells spell ys :=
  h.mono fun _ hy => List.mem_append_right _ hy

/-- Tokens that are written as some lexemes, all of them in range. -/
def Written (spell : Lexeme → List Char) (ls : List Lexeme) (ts : List Token) : Prop :=
  (∀ t ∈ ts, t.InRange) ∧ ts.map Token.spelling = ls.map spell

theorem Written.append {ls ms : List Lexeme} {ts us : List Token} (hts : Written spell ls ts)
    (hus : Written spell ms us) : Written spell (ls ++ ms) (ts ++ us) := by
  refine ⟨List.forall_mem_append.mpr ⟨hts.1, hus.1⟩, ?_⟩
  rw [List.map_append, List.map_append, hts.2, hus.2]

theorem Written.cons {l : Lexeme} {ls : List Lexeme} {t : Token} {ts : List Token}
    (hrange : t.InRange) (hl : t.spelling = spell l) (hts : Written spell ls ts) :
    Written spell (l :: ls) (t :: ts) := by
  refine ⟨List.forall_mem_cons.mpr ⟨hrange, hts.1⟩, ?_⟩
  rw [List.map_cons, List.map_cons, hl, hts.2]

theorem Written.nil : Written spell [] [] := ⟨List.forall_mem_nil _, rfl⟩

theorem Spells.token (h : Spells spell xs) {t : Token} {l : Lexeme} (hl : l.isFraction = false)
    (hspelling : t.spelling = l.chars) : t.spelling = spell l := by
  rw [hspelling, h.plain l hl]

theorem Spells.name (h : Spells spell xs) {n : String} (valid : isName n = true) :
    (Token.name n valid).spelling = spell (.word n.toList) :=
  h.token (isFraction_of_isWord (isWord_of_isName valid)) rfl

theorem Spells.mark (h : Spells spell xs) {m : Mark} {c : Char} (hm : m.text.toList = [c]) :
    (Token.mark m).spelling = spell (.mark c) :=
  h.token rfl hm

theorem Spells.arith (h : Spells spell xs) (op : ArithmeticOp) :
    (Token.arith op).spelling = spell (.word op.token.toList) := by
  refine h.token ?_ rfl
  cases op <;> decide

theorem Spells.compare (h : Spells spell xs) (op : ComparisonOp) :
    (Token.compare op).spelling = spell (.word op.token.toList) := by
  refine h.token ?_ rfl
  cases op <;> decide

theorem Spells.keyword (h : Spells spell xs) (k : Keyword) :
    (Token.keyword k).spelling = spell (.word k.spelling.toList) :=
  h.token (isFraction_of_isWord k.isWord_spelling) rfl

theorem Spells.equals (h : Spells spell xs) :
    (Token.mark .equals).spelling = spell (.word ['=']) :=
  h.token (by decide) rfl

theorem Spells.int (h : Spells spell xs) (value : Int64) :
    (Token.whole (decimalOf value) (isWhole_decimalOf value)).spelling
      = spell (.word (toString value.toInt).toList) :=
  h.token (isFraction_int value) (spelling_decimalOf value)

/-- An expression with its callees renamed has tokens that are written as some lexemes. -/
def Expr.IsWritten (spell : Lexeme → List Char) (e : Expr) (ls : List Lexeme) : Prop :=
  ∃ ts, e.renamed.Tokens ts ∧ Written spell ls ts

theorem Commas.behindComma {P : Expr → List Token → Prop} {a : Expr} {as : List Expr}
    {ts : List Token} (h : Commas P (a :: as) ts) :
    CommaTail P (a :: as) (.mark .comma :: ts) := by
  cases h with
  | cons ha htail => exact .cons ha htail

theorem exists_argTokens (hspell : Spells spell xs) {args : List Expr}
    (h : ∀ a ∈ args, a.IsWritten spell a.lexemes) :
    ∃ ts, Commas Expr.Tokens (renamedEach args) ts ∧
      Written spell ([.mark ','].intercalate (lexemesOfEach args)) ts := by
  induction args with
  | nil => exact ⟨[], .nil, .nil⟩
  | cons a args ih =>
    obtain ⟨⟨ts, htokens, hts⟩, hargs⟩ := List.forall_mem_cons.mp h
    cases args with
    | nil =>
      have hsingle : Commas Expr.Tokens [a.renamed] (ts ++ []) := .cons htokens .nil
      rw [List.append_nil] at hsingle
      refine ⟨ts, hsingle, ?_⟩
      rwa [lexemesOfEach, lexemesOfEach, List.intercalate_singleton]
    | cons b args =>
      obtain ⟨us, hcommas, hus⟩ := ih hargs
      refine ⟨_, .cons htokens hcommas.behindComma, ?_⟩
      rw [lexemesOfEach, lexemesOfEach, List.intercalate_cons_cons, List.append_assoc]
      exact hts.append (.cons trivial (hspell.mark rfl) hus)

/-- The lexemes of an expression are tokens of the renamed expression. -/
theorem exists_tokens {e : Expr} (h : e.WellFormed) :
    Spells spell e.floats → e.IsWritten spell e.lexemes := by
  induction h with
  | @int value =>
    intro hspell
    have htokens : Expr.Tokens (.int (decimalOf value).value) _ := .int _ (isWhole_decimalOf value)
    rw [value_decimalOf] at htokens
    exact ⟨_, htokens, .cons (inRange_decimalOf value) (hspell.int value) .nil⟩
  | float n hdigits hfraction =>
    intro hspell
    obtain ⟨n', valid, hvalue, hspelling⟩ := hspell.literal _ List.mem_cons_self
    have htokens : Expr.Tokens (.float n'.value) _ := .float n' valid
    rw [hvalue] at htokens
    exact ⟨_, htokens, .cons trivial hspelling .nil⟩
  | @bool value =>
    intro hspell
    cases value with
    | true => exact ⟨_, .true, .cons trivial (hspell.keyword .trueWord) .nil⟩
    | false => exact ⟨_, .false, .cons trivial (hspell.keyword .falseWord) .nil⟩
  | ident hname =>
    intro hspell
    exact ⟨_, .ident hname, .cons trivial (hspell.name hname) .nil⟩
  | @call callee args hname _ ih =>
    intro hspell
    have hargs : ∀ a ∈ args, a.IsWritten spell a.lexemes := fun a ha => ih a ha (hspell.mono
      fun x hx => by
        rw [Expr.floats_call, floatsOfArgs_eq_flatMap]
        exact List.mem_flatMap.mpr ⟨a, ha, hx⟩)
    obtain ⟨ts, htokens, hts⟩ := exists_argTokens hspell hargs
    have hname' := isName_mangle hname
    have hright : Written spell [.mark ')'] [.mark .rightParen] :=
      .cons trivial (hspell.mark rfl) .nil
    exact ⟨_, .call hname' htokens, .cons trivial (hspell.name hname')
      (.cons trivial (hspell.mark rfl) (hts.append hright))⟩
  | @arith op lhs rhs _ _ _ _ ihl ihr =>
    intro hspell
    obtain ⟨ts, hl, hts⟩ := ihl hspell.left
    obtain ⟨us, hr, hus⟩ := ihr hspell.right
    exact ⟨_, .arith hl hr, hts.append (.cons trivial (hspell.arith op) hus)⟩
  | @compare op lhs rhs _ _ _ _ ihl ihr =>
    intro hspell
    obtain ⟨ts, hl, hts⟩ := ihl hspell.left
    obtain ⟨us, hr, hus⟩ := ihr hspell.right
    exact ⟨_, .compare hl hr, hts.append (.cons trivial (hspell.compare op) hus)⟩
  | @assign target value hname _ ih =>
    intro hspell
    obtain ⟨ts, htokens, hts⟩ := ih hspell
    exact ⟨_, .assign hname htokens,
      .cons trivial (hspell.name hname) (.cons trivial hspell.equals hts)⟩
  | @paren inner _ ih =>
    intro hspell
    obtain ⟨ts, htokens, hts⟩ := ih hspell
    have hright : Written spell [.mark ')'] [.mark .rightParen] :=
      .cons trivial (hspell.mark rfl) .nil
    exact ⟨_, .paren htokens, .cons trivial (hspell.mark rfl) (hts.append hright)⟩

end

end ToyLang.Source
