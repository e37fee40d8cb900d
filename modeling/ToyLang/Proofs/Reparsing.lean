import ToyLang.Proofs.Completeness
import ToyLang.Proofs.Emission

/-!
# Expressions of a generated file, read back

The expressions of C++ that a compilation writes are expressions of the source language.  Put
behind a declaration, such a text is read as the expression that it came from, with its callees
renamed: no parentheses are missing although none are added, and no two tokens run together.

## Main definitions

* `Expr.emitted` — the text of an expression that was added to a graph.
* `ReadsBack` — the text of a number is a numeral that denotes the number.

## Main results

* `parse_emitted` — **what was written for an expression is read as the expression.**
-/

namespace ToyLang.Source

open Text

/-- The text in C++ of an expression that is added to a graph. -/
def Expr.emitted (g : Graph) (e : Expr) : String :=
  let (r, g') := e.ast.lower.run g
  (g'.tree r).text

/-- The text of a number is all of a numeral, which is read as the number. -/
def ReadsBack (x : Binary64) : Prop :=
  (takeFractional? x.text.toList).map (fun r => (r.1.value, r.2)) = some (x, [])

instance : DecidablePred ReadsBack := fun x =>
  inferInstanceAs (Decidable
    ((takeFractional? x.text.toList).map (fun r => (r.1.value, r.2)) = some (x, [])))

/-- The text does not depend on what the graph holds already. -/
theorem emitted_eq (g : Graph) (e : Expr) : e.emitted g = e.cpp := by
  obtain ⟨r, g', hrun, -, -, -, htree⟩ := e.ast.lower_isAt (fun _ => True) g
  have hemitted : e.emitted g = (g'.tree r).text := by
    rw [Expr.emitted, StateT.run, hrun]
  rw [hemitted, htree, e.ast.text_target]
  rfl

theorem ReadsBack.exists_numeral {x : Binary64} (h : ReadsBack x) :
    ∃ n valid, FractionalNumeral.value n = x ∧
      (Token.fractional n valid).spelling = x.text.toList := by
  rw [ReadsBack, Option.map_eq_some_iff] at h
  obtain ⟨⟨n, rest⟩, htake, hvalue⟩ := h
  obtain ⟨rfl, rfl⟩ := Prod.mk.inj hvalue
  obtain ⟨htext, hdigits, hfraction, -⟩ := takeFractional?_eq_some_iff.mp htake
  refine ⟨n, ⟨hdigits, hfraction⟩, rfl, ?_⟩
  rw [Token.spelling, htext, List.append_nil]

/-- Where the literals read back, lexemes are tokens as they stand. -/
theorem spells_chars {xs : List Binary64} (h : ∀ x ∈ xs, x.isFinite = true ∧ ReadsBack x) :
    Spells Lexeme.chars xs :=
  ⟨fun x hx => (h x hx).1, fun _ _ => rfl, fun x hx => (h x hx).2.exists_numeral⟩

/-- A declaration, cut into lexemes. -/
theorem lexemesOf_let {x type text : String} (hx : isName x = true) (htype : isName type = true) :
    lexemesOf ("let " ++ x ++ ": " ++ type ++ " = " ++ text ++ ";")
      = .word Keyword.letWord.spelling.toList :: .word x.toList :: .mark ':' ::
        .word type.toList :: .word ['='] :: (lexemesOf text ++ [.mark ';']) := by
  have hlet : lexemesOf "let " = [.word Keyword.letWord.spelling.toList] := by decide
  have hcolon : lexemesOf ": " = [.mark ':'] := by decide
  have hsemicolon : lexemesOf ";" = [.mark ';'] := by decide
  have hmid : Separates ": " := by decide
  rw [lexemesOf_append (.inr (by decide)), lexemesOf_equals, hmid.lexemesOf,
    lexemesOf_append (.inl (by decide)), lexemesOf_isName hx, lexemesOf_isName htype, hlet, hcolon,
    hsemicolon]
  simp only [List.cons_append, List.nil_append]

/-- The lexemes of a declaration are tokens of the declaration, if those of the initial value are
tokens of an expression. -/
theorem exists_letTokens {e : Expr} {x type text : String} (hx : isName x = true)
    (htype : isName type = true) (he : e.IsWritten Lexeme.chars (lexemesOf text)) :
    ∃ ts, Binding.Tokens ⟨x, type, e.renamed⟩ ts ∧ Written Lexeme.chars
      (lexemesOf ("let " ++ x ++ ": " ++ type ++ " = " ++ text ++ ";")) ts := by
  have hspell : Spells Lexeme.chars [] := spells_chars (List.forall_mem_nil _)
  obtain ⟨ts, htokens, hts⟩ := he
  have hsemicolon : Written Lexeme.chars [.mark ';'] [.mark .semicolon] :=
    .cons trivial (hspell.mark rfl) .nil
  rw [lexemesOf_let hx htype]
  exact ⟨_, .mk hx htype htokens, .cons trivial (hspell.keyword .letWord)
    (.cons trivial (hspell.name hx) (.cons trivial (hspell.mark rfl)
      (.cons trivial (hspell.name htype) (.cons trivial hspell.equals
        (hts.append hsemicolon)))))⟩

/-- **What was written for an expression of a program is read as the expression, with its
callees renamed.**  Its literals are finite numbers whose text reads back. -/
theorem parse_emitted {text : String} {items : List Item} (hparse : parse text = .ok items)
    {e : Expr} (he : e ∈ items.flatMap Item.exprs)
    (hliterals : ∀ v ∈ e.floats, v.isFinite = true ∧ ReadsBack v) {x type : String}
    (hx : isName x = true) (htype : isName type = true) (g : Graph) :
    parse ("let " ++ x ++ ": " ++ type ++ " = " ++ e.emitted g ++ ";")
      = .ok [.bind ⟨x, type, e.renamed⟩] := by
  -- the expression is one that the grammar allows
  obtain ⟨hitems, -⟩ := file_yields (parse_eq_ok_iff.mp hparse)
  obtain ⟨i, hi, he⟩ := List.mem_flatMap.mp he
  have hwell : e.WellFormed := (hitems i hi).exprs e he
  have hdeclared : Item.WellFormed (.bind ⟨x, type, e.renamed⟩) := ⟨hx, htype, hwell.renamed⟩
  -- its lexemes are tokens, and so are those of the declaration
  have hcut : lexemesOf (e.emitted g) = e.lexemes := by
    rw [emitted_eq, lexemesOf_cpp hwell fun v hv => (hliterals v hv).1]
  have he : e.IsWritten Lexeme.chars (lexemesOf (e.emitted g)) := by
    rw [hcut]
    exact exists_tokens hwell (spells_chars hliterals)
  obtain ⟨ts, htokens, hwritten⟩ := exists_letTokens hx htype he
  -- so the text is laid out as these tokens, and is read
  obtain ⟨os, hlaid⟩ := laid_of_cut _ hwritten.2
  obtain rfl := hlaid.overflows_eq_nil.mpr hwritten.1
  have heach : Each Item.Tokens [.bind ⟨x, type, e.renamed⟩] ts := .singleton (.bind htokens)
  exact parse_eq_ok_iff.mpr (file_reads (List.forall_mem_singleton.mpr hdeclared) heach hlaid)

/-- A call of the entry point with a negative number, a group and a literal. -/
def mixedCall : Expr :=
  .call "main" [.arith .sub (.ident "a") (.int (-1)),
    .arith .mul (.paren (.arith .add (.ident "b") (.int 2))) (.float ⟨0x3fe0000000000000⟩)]

theorem parse_emitted_mixedCall :
    parse "fn f(a: t) -> t \x7breturn main(a- -1, (b+2)*0.50);\x7d"
      = .ok [.function ⟨"f", [⟨"a", "t"⟩], "t", [.ret mixedCall]⟩] ∧
    mixedCall ∈ [Item.function ⟨"f", [⟨"a", "t"⟩], "t", [.ret mixedCall]⟩].flatMap Item.exprs ∧
    (∀ v ∈ mixedCall.floats, v.isFinite = true ∧ ReadsBack v) ∧
    parse ("let " ++ "x" ++ ": " ++ "t" ++ " = " ++ mixedCall.emitted Graph.empty ++ ";")
      = .ok [.bind ⟨"x", "t", mixedCall.renamed⟩] := by
  have hparse : parse "fn f(a: t) -> t \x7breturn main(a- -1, (b+2)*0.50);\x7d"
      = .ok [.function ⟨"f", [⟨"a", "t"⟩], "t", [.ret mixedCall]⟩] := by decide +kernel
  have hmem : mixedCall ∈
      [Item.function ⟨"f", [⟨"a", "t"⟩], "t", [.ret mixedCall]⟩].flatMap Item.exprs := by
    decide +kernel
  have hliterals : ∀ v ∈ mixedCall.floats, v.isFinite = true ∧ ReadsBack v := by decide +kernel
  exact ⟨hparse, hmem, hliterals,
    parse_emitted hparse hmem hliterals (by decide) (by decide) Graph.empty⟩

end ToyLang.Source
