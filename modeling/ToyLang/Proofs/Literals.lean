import ToyLang.Proofs.Numbers

/-!
# Literals and the constants that C++ reads

The numbers that a generated file has are the constants of the program, and these are the numerals
of its source.  So what C++ reads for a literal is what the literal is read as: a whole number that
fits C++'s signed type, the lowest one apart, whose digits alone do not; and for a literal with a
fraction the shortest decimal that is nearest to the same number.

## Main definitions

* `Token.constant?` — the constant that a token is.
* `floatsAmong` — the floating-point numbers among some expressions.

## Main results

* `constants_eq_of_tokens` — the constants of a program are those of its tokens.
* `integer_literals` — **every whole number fits, unless it is the lowest one.**
* `float_literals` — **every literal with a fraction is read as the same number again.**
-/

namespace ToyLang.Source

open Text Cpp

/-! ### The tokens of a program -/

/-- The number that a token is read as. -/
def Token.constant? : Token → Option Constant
  | .whole n _ => some (.int n.value)
  | .fractional n _ => some (.float n.value)
  | _ => none

/-- The numbers among some tokens, as they are read. -/
def constantsRead (ts : List Token) : List Constant := ts.filterMap Token.constant?

@[simp] theorem constantsRead_append (ts us : List Token) :
    constantsRead (ts ++ us) = constantsRead ts ++ constantsRead us := List.filterMap_append

@[simp] theorem constantsOf_append (es fs : List Expr) :
    constantsOf (es ++ fs) = constantsOf es ++ constantsOf fs := List.filterMap_append

theorem constantsRead_cons {t : Token} (h : t.constant? = none) (ts : List Token) :
    constantsRead (t :: ts) = constantsRead ts := List.filterMap_cons_none h

theorem constantsOf_cons {e : Expr} (h : e.constant? = none) (es : List Expr) :
    constantsOf (e :: es) = constantsOf es := List.filterMap_cons_none h

theorem constantsRead_behind {t : Token} (h : t.constant? = none) (ts : List Token) :
    constantsRead (ts ++ [t]) = constantsRead ts := by
  rw [constantsRead_append, constantsRead_cons h]
  exact List.append_nil _

theorem constantsRead_inBraces (ts : List Token) :
    constantsRead (inBraces ts) = constantsRead ts := by
  rw [inBraces, constantsRead_cons rfl, constantsRead_behind rfl]

mutual

/-- The constants of an expression are those of its tokens. -/
theorem Expr.Tokens.constants : {e : Expr} → {ts : List Token} → e.Tokens ts →
    constantsOf e.parts = constantsRead ts
  | .int _, _, .int _ _ => rfl
  | .float _, _, .float _ _ => rfl
  | .bool _, _, .true => rfl
  | .bool _, _, .false => rfl
  | .ident _, _, .ident _ => rfl
  | .call _ args, _, .call _ hargs => by
    rw [Expr.parts, constantsOf_cons rfl, constants_of_commas hargs, constantsRead_cons rfl,
      constantsRead_cons rfl, constantsRead_behind rfl]
  | .arith _ _ _, _, .arith hl hr => by
    rw [Expr.parts, constantsOf_cons rfl, constantsOf_append, hl.constants, hr.constants,
      constantsRead_append, constantsRead_cons rfl]
  | .compare _ _ _, _, .compare hl hr => by
    rw [Expr.parts, constantsOf_cons rfl, constantsOf_append, hl.constants, hr.constants,
      constantsRead_append, constantsRead_cons rfl]
  | .assign _ _, _, .assign _ hvalue => by
    rw [Expr.parts, constantsOf_cons rfl, hvalue.constants, constantsRead_cons rfl,
      constantsRead_cons rfl]
  | .paren _, _, .paren hinner => by
    rw [Expr.parts, constantsOf_cons rfl, hinner.constants, constantsRead_cons rfl,
      constantsRead_behind rfl]

theorem constants_of_commas : {as : List Expr} → {ts : List Token} → Commas Expr.Tokens as ts →
    constantsOf (partsOfEach as) = constantsRead ts
  | [], _, .nil => rfl
  | _ :: _, _, .cons ha has => by
    rw [partsOfEach, constantsOf_append, ha.constants, constants_of_commaTail has,
      constantsRead_append]

theorem constants_of_commaTail : {as : List Expr} → {ts : List Token} →
    CommaTail Expr.Tokens as ts → constantsOf (partsOfEach as) = constantsRead ts
  | [], _, .nil => rfl
  | [], _, .trailing => rfl
  | _ :: _, _, .cons ha has => by
    rw [partsOfEach, constantsOf_append, ha.constants, constants_of_commaTail has,
      constantsRead_cons rfl, constantsRead_append]

end

theorem Binding.Tokens.constants {b : Binding} {ts : List Token} (h : b.Tokens ts) :
    constantsOf b.init.parts = constantsRead ts := by
  cases h with
  | mk hname htype hinit =>
    rw [hinit.constants, constantsRead_cons rfl, constantsRead_cons rfl, constantsRead_cons rfl,
      constantsRead_cons rfl, constantsRead_cons rfl, constantsRead_behind rfl]

mutual

/-- The constants of a statement are those of its tokens. -/
theorem Stmt.Tokens.constants : {s : Stmt} → {ts : List Token} → s.Tokens ts →
    constantsOf s.exprs = constantsRead ts
  | .bind _, _, .bind hb => hb.constants
  | .ret _, _, .ret hvalue => by
    rw [Stmt.exprs, hvalue.constants, constantsRead_cons rfl, constantsRead_behind rfl]
  | .cond _ _ _, _, .cond htest hbody hotherwise => by
    rw [Stmt.exprs, constantsOf_append, constantsOf_append, htest.constants,
      constants_of_each hbody, hotherwise.constants, constantsRead_cons rfl, constantsRead_append,
      constantsRead_append, constantsRead_inBraces]
  | .loop _ _, _, .loop htest hbody => by
    rw [Stmt.exprs, constantsOf_append, htest.constants, constants_of_each hbody,
      constantsRead_cons rfl, constantsRead_append, constantsRead_inBraces]
  | .count _ _ _ _, _, .count _ hfirst hbound hbody => by
    rw [Stmt.exprs, constantsOf_append, constantsOf_append, hfirst.constants, hbound.constants,
      constants_of_each hbody, constantsRead_cons rfl, constantsRead_cons rfl,
      constantsRead_cons rfl, constantsRead_append, constantsRead_cons rfl, constantsRead_append,
      constantsRead_inBraces]
  | .block _, _, .block hbody => by
    rw [Stmt.exprs, constants_of_each hbody, constantsRead_inBraces]
  | .eval _, _, .eval hvalue => by
    rw [Stmt.exprs, hvalue.constants, constantsRead_behind rfl]

theorem Else.Tokens.constants : {o : Else} → {ts : List Token} → o.Tokens ts →
    constantsOf o.exprs = constantsRead ts
  | .none, _, .none => rfl
  | .block _, _, .block hbody => by
    rw [Else.exprs, constants_of_each hbody, constantsRead_cons rfl, constantsRead_inBraces]
  | .cond _ _ _, _, .cond htest hbody hotherwise => by
    rw [Else.exprs, constantsOf_append, constantsOf_append, htest.constants,
      constants_of_each hbody, hotherwise.constants, constantsRead_cons rfl,
      constantsRead_cons rfl, constantsRead_append, constantsRead_append, constantsRead_inBraces]

theorem constants_of_each : {ss : List Stmt} → {ts : List Token} → Each Stmt.Tokens ss ts →
    constantsOf (exprsOfAll ss) = constantsRead ts
  | [], _, .nil => rfl
  | _ :: _, _, .cons hs hss => by
    rw [exprsOfAll, constantsOf_append, hs.constants, constants_of_each hss, constantsRead_append]

end

/-- Parameters have no constants. -/
theorem constantsRead_params {ps : List Param} {ts : List Token} (h : Commas ParamTokens ps ts) :
    constantsRead ts = [] := by
  have hparam {p : Param} {us : List Token} (hp : ParamTokens p us) : constantsRead us = [] := by
    cases hp
    rfl
  cases h with
  | nil => rfl
  | cons hp hps =>
    rw [constantsRead_append, hparam hp, List.nil_append]
    induction hps with
    | nil => rfl
    | trailing => rfl
    | cons hq _ ih =>
      rw [constantsRead_cons rfl, constantsRead_append, hparam hq, ih]
      rfl

theorem Item.Tokens.constants {i : Item} {ts : List Token} (h : i.Tokens ts) :
    constantsOf i.exprs = constantsRead ts := by
  cases h with
  | function hf =>
    cases hf with
    | mk hname hresult hparams hbody =>
      rw [Item.exprs, constants_of_each hbody, constantsRead_cons rfl, constantsRead_cons rfl,
        constantsRead_cons rfl, constantsRead_append, constantsRead_params hparams,
        constantsRead_cons rfl, constantsRead_cons rfl, constantsRead_cons rfl,
        constantsRead_inBraces, List.nil_append]
  | bind hb => exact hb.constants

/-- The constants of a program are those of its tokens, in their order. -/
theorem constants_eq_of_tokens {items : List Item} {ts : List Token}
    (h : Each Item.Tokens items ts) :
    constantsOf (items.flatMap Item.exprs) = constantsRead ts := by
  induction h with
  | nil => rfl
  | cons hi _ ih =>
    rw [List.flatMap_cons, constantsOf_append, hi.constants, ih, constantsRead_append]

/-! ### Whole numbers and others -/

/-- The floating-point number that a constant is. -/
def Constant.float? : Constant → Option Binary64
  | .int _ => none
  | .float value => some value

/-- The floating-point numbers among some expressions. -/
def floatsAmong (es : List Expr) : List Binary64 := (constantsOf es).filterMap Constant.float?

@[simp] theorem floatsAmong_append (es fs : List Expr) :
    floatsAmong (es ++ fs) = floatsAmong es ++ floatsAmong fs := by
  rw [floatsAmong, constantsOf_append, List.filterMap_append]
  rfl

theorem floatsAmong_cons {e : Expr} (h : e.constant? = none) (es : List Expr) :
    floatsAmong (e :: es) = floatsAmong es := by
  rw [floatsAmong, constantsOf_cons h]
  rfl

mutual

/-- The literals of an expression are the floating-point numbers inside it. -/
theorem Expr.floatsAmong_parts : (e : Expr) → floatsAmong e.parts = e.floats
  | .int _ | .float _ | .bool _ | .ident _ => rfl
  | .call _ args => by
    rw [Expr.parts, floatsAmong_cons rfl, floatsAmong_partsOfEach args]
    rfl
  | .arith _ lhs rhs => by
    rw [Expr.parts, floatsAmong_cons rfl, floatsAmong_append, lhs.floatsAmong_parts,
      rhs.floatsAmong_parts]
    rfl
  | .compare _ lhs rhs => by
    rw [Expr.parts, floatsAmong_cons rfl, floatsAmong_append, lhs.floatsAmong_parts,
      rhs.floatsAmong_parts]
    rfl
  | .assign _ value => by
    rw [Expr.parts, floatsAmong_cons rfl, value.floatsAmong_parts]
    rfl
  | .paren inner => by
    rw [Expr.parts, floatsAmong_cons rfl, inner.floatsAmong_parts]
    rfl

theorem floatsAmong_partsOfEach : (es : List Expr) → floatsAmong (partsOfEach es) = floatsOfArgs es
  | [] => rfl
  | e :: es => by
    rw [partsOfEach, floatsAmong_append, e.floatsAmong_parts, floatsAmong_partsOfEach es,
      floatsOfArgs_cons]

end

mutual

theorem Stmt.floatsAmong_exprs : (s : Stmt) → floatsAmong s.exprs = s.floats
  | .bind b => b.init.floatsAmong_parts
  | .ret value | .eval value => value.floatsAmong_parts
  | .cond test body otherwise => by
    rw [Stmt.exprs, floatsAmong_append, floatsAmong_append, test.floatsAmong_parts,
      floatsAmong_exprsOfAll body, otherwise.floatsAmong_exprs, ← List.append_assoc]
    rfl
  | .loop test body => by
    rw [Stmt.exprs, floatsAmong_append, test.floatsAmong_parts, floatsAmong_exprsOfAll body]
    rfl
  | .count _ first bound body => by
    rw [Stmt.exprs, floatsAmong_append, floatsAmong_append, first.floatsAmong_parts,
      bound.floatsAmong_parts, floatsAmong_exprsOfAll body, ← List.append_assoc]
    rfl
  | .block body => floatsAmong_exprsOfAll body

theorem Else.floatsAmong_exprs : (o : Else) → floatsAmong o.exprs = o.floats
  | .none => rfl
  | .block body => floatsAmong_exprsOfAll body
  | .cond test body otherwise => by
    rw [Else.exprs, floatsAmong_append, floatsAmong_append, test.floatsAmong_parts,
      floatsAmong_exprsOfAll body, otherwise.floatsAmong_exprs, ← List.append_assoc]
    rfl

theorem floatsAmong_exprsOfAll : (ss : List Stmt) → floatsAmong (exprsOfAll ss) = floatsOfAll ss
  | [] => rfl
  | s :: ss => by
    rw [exprsOfAll, floatsAmong_append, s.floatsAmong_exprs, floatsAmong_exprsOfAll ss]
    rfl

end

/-- The literals of a program are the floating-point numbers in it. -/
theorem floatsAmong_items (items : List Item) :
    floatsAmong (items.flatMap Item.exprs) = literals items := by
  induction items with
  | nil => rfl
  | cons i items ih =>
    have hitem : floatsAmong i.exprs = i.floats := by
      cases i with
      | function f => exact floatsAmong_exprsOfAll f.body
      | bind b => exact b.init.floatsAmong_parts
    rw [List.flatMap_cons, floatsAmong_append, hitem, ih, literals, literals, List.flatMap_cons]

theorem int_mem_constantsOf {value : Int64} {es : List Expr} :
    Constant.int value ∈ constantsOf es ↔ Expr.int value ∈ es := by
  have hconstant {e : Expr} : e.constant? = some (.int value) ↔ e = .int value := by
    cases e <;> simp [Expr.constant?]
  simp only [constantsOf, List.mem_filterMap, hconstant, exists_eq_right]

theorem isInteger_int (value : Int64) : (Constant.int value).written.isInteger = true :=
  List.all_eq_true.mpr (isDigit_toDigits _)

/-- What is written for a finite number is no whole numeral. -/
theorem isInteger_float {x : Binary64} (h : x.isFinite = true) :
    (Constant.float x).written.isInteger = false := by
  obtain ⟨l, -, hunsigned, -⟩ := exists_literal_text h
  rw [Number.isInteger, Constant.written, ← hunsigned, List.all_eq_false]
  rcases l.mark_mem_unsigned with hmark | hmark
  · exact ⟨'.', hmark, by decide⟩
  · exact ⟨'e', hmark, by decide⟩

/-- Whether a constant is a whole number. -/
def Constant.isInt : Constant → Bool
  | .int _ => true
  | .float _ => false

theorem isInteger_written {cs : List Constant}
    (hfinite : ∀ x ∈ cs.filterMap Constant.float?, x.isFinite = true) :
    ∀ c ∈ cs, c.written.isInteger = c.isInt := by
  intro c hc
  cases c with
  | int value => exact isInteger_int value
  | float x => exact isInteger_float (hfinite x (List.mem_filterMap.mpr ⟨_, hc, rfl⟩))

/-- A whole number of 64 bits has a digit string of 63 bits unless it is the lowest of all. -/
theorem digitsValue_written_le_iff (value : Int64) :
    digitsValue (Constant.int value).written.chars ≤ 2 ^ 63 - 1 ↔ value ≠ Int64.minValue := by
  have hlow := Int64.minValue_le_toInt value
  have hhigh := Int64.toInt_le value
  have hmin : Int64.minValue.toInt = -2 ^ 63 := by decide
  have hmax : Int64.maxValue.toInt = 2 ^ 63 - 1 := by decide
  rw [Constant.written, digitsValue_toDigits, Ne, ← Int64.toInt_inj, hmin]
  omega

/-- The numbers of a file that are of some kind are those constants that are. -/
theorem filter_numbersOf {items : List Item} (hwell : ∀ i ∈ items, i.WellFormed)
    (hfinite : ∀ x ∈ literals items, x.isFinite = true) (kind : Bool → Bool) :
    (numbersOf (cppFile items)).filter (fun n => kind n.isInteger)
      = ((constantsOf (items.flatMap Item.exprs)).filter fun c => kind c.isInt).map Constant.written
        ++ if kind true then [⟨false, ['0']⟩] else [] := by
  have hkind : ∀ c ∈ constantsOf (items.flatMap Item.exprs),
      ((fun n => kind n.isInteger) ∘ Constant.written) c = kind c.isInt := by
    have hfloats := hfinite
    rw [← floatsAmong_items] at hfloats
    exact fun c hc => congrArg kind (isInteger_written hfloats c hc)
  rw [numbersOf_cppFile hwell hfinite, List.filter_append, numbersIn, List.filter_map,
    List.filter_congr hkind]
  have hzero : (⟨false, ['0']⟩ : Number).isInteger = true := by decide
  rw [List.filter_cons, hzero, List.filter_nil]

/-- **Every whole number is written with its digits, and they fit C++'s signed 64-bit type unless
the number is the lowest one.**  The whole numerals of a generated file are those of the program in
their order and the zero that `main` returns.  C++ reads a minus sign as an operator, so it is the
digits alone that have to fit. -/
theorem integer_literals {source cpp : String} {items : List Item}
    (hparse : parse source = .ok items) (hcompile : (compile items).result = .ok cpp) :
    (numbersOf cpp).filter Number.isInteger
      = ((constantsOf (items.flatMap Item.exprs)).filter Constant.isInt).map Constant.written
        ++ [⟨false, ['0']⟩] ∧
    ((∀ n ∈ numbersOf cpp, n.isInteger = true → digitsValue n.chars ≤ 2 ^ 63 - 1) ↔
      Expr.int Int64.minValue ∉ items.flatMap Item.exprs) := by
  obtain ⟨hwell, -⟩ := file_yields (parse_eq_ok_iff.mp hparse)
  obtain ⟨hfaultless, rfl⟩ := faultless_of_compile hcompile
  have hintegers := filter_numbersOf hwell hfaultless.literals_finite fun b => b
  refine ⟨hintegers, fun hall hlowest => ?_, fun hlowest n hn hinteger => ?_⟩
  · have hmem : (Constant.int Int64.minValue).written
        ∈ (numbersOf (cppFile items)).filter Number.isInteger := by
      rw [hintegers]
      exact List.mem_append_left _ (List.mem_map_of_mem
        (List.mem_filter.mpr ⟨int_mem_constantsOf.mpr hlowest, rfl⟩))
    obtain ⟨hnumber, hinteger⟩ := List.mem_filter.mp hmem
    exact (digitsValue_written_le_iff _).mp (hall _ hnumber hinteger) rfl
  · have hmem := List.mem_filter.mpr ⟨hn, hinteger⟩
    rw [hintegers] at hmem
    rcases List.mem_append.mp hmem with hmem | hzero
    · obtain ⟨c, hc, rfl⟩ := List.mem_map.mp hmem
      obtain ⟨hc, hint⟩ := List.mem_filter.mp hc
      cases c with
      | int value =>
        refine (digitsValue_written_le_iff value).mpr ?_
        rintro rfl
        exact hlowest (int_mem_constantsOf.mp hc)
      | float x => exact absurd hint Bool.false_ne_true
    · obtain rfl := List.mem_singleton.mp hzero
      decide

/-- A program that returns the lowest number. -/
def lowestReturned : List Item :=
  [.function ⟨"main", [], "int", [.ret (.int Int64.minValue)]⟩]

theorem integer_literals_lowestReturned :
    parse "fn main() -> int \x7b return -9223372036854775808; \x7d" = .ok lowestReturned ∧
    (compile lowestReturned).result = .ok (cppFile lowestReturned) ∧
    (numbersOf (cppFile lowestReturned)).filter Number.isInteger
      = [⟨true, "9223372036854775808".toList⟩, ⟨false, ['0']⟩] ∧
    ¬ ∀ n ∈ numbersOf (cppFile lowestReturned),
      n.isInteger = true → digitsValue n.chars ≤ 2 ^ 63 - 1 := by
  have hparse : parse "fn main() -> int \x7b return -9223372036854775808; \x7d"
      = .ok lowestReturned := by decide +kernel
  have hcompile : (compile lowestReturned).result = .ok (cppFile lowestReturned) :=
    compile_of_firstFault (by decide) (by decide)
  obtain ⟨hintegers, hfit⟩ := integer_literals hparse hcompile
  have hlowest : Expr.int Int64.minValue ∈ lowestReturned.flatMap Item.exprs := by decide
  exact ⟨hparse, hcompile, hintegers.trans (by decide +kernel), fun h => hfit.mp h hlowest⟩

/-! ### Floating-point literals -/

/-- A number as it stands in a text, with the sign that touches it. -/
def spelled (n : Number) : List Char := signChars n.negative ++ n.chars

/-- The numeral with a fraction that a token is. -/
def Token.fractional? : Token → Option FractionalNumeral
  | .fractional n _ => some n
  | _ => none

/-- The constants that are no whole numbers are read from numerals with a fraction. -/
theorem filter_constantsRead (ts : List Token) :
    (constantsRead ts).filter (fun c => !c.isInt)
      = (ts.filterMap Token.fractional?).map fun n => .float n.value := by
  induction ts with
  | nil => rfl
  | cons t ts ih =>
    cases t with
    | fractional n valid =>
      have hread : constantsRead (.fractional n valid :: ts) = .float n.value :: constantsRead ts :=
        rfl
      have hnumeral : (Token.fractional n valid :: ts).filterMap Token.fractional?
          = n :: ts.filterMap Token.fractional? := rfl
      rw [hread, hnumeral, List.filter_cons_of_pos rfl, ih, List.map_cons]
    | whole n valid => exact ih
    | _ => exact ih

/-- **What is written for a floating-point literal denotes the same number.**  A numeral with a
fraction is read as the number nearest to it, a tie going to the even one.  If this one is finite,
its text is a literal with a point or an exponent, in one way only, and again denotes it and no
other number, its sign included.  The numbers of a generated file that are no whole numerals are
the texts for the numerals of the source with a fraction, in their order. -/
theorem float_literals :
    (∀ (n : FractionalNumeral) (valid : IsWhole n.digits ∧ IsFraction n.fraction),
      (n.literal valid).spelling = (Token.fractional n valid).spelling ∧
      (∀ x, (n.literal valid).Denotes x ↔ x = n.value) ∧
      (n.value.isFinite = true → ∃ l : FloatLiteral,
        (∀ l', l'.spelling = n.value.text.toList ↔ l' = l) ∧ ('.' ∈ l.unsigned ∨ 'e' ∈ l.unsigned) ∧
        ∀ x, l.Denotes x ↔ x = n.value)) ∧
    ∀ (source cpp : String) (items : List Item), parse source = .ok items →
      (compile items).result = .ok cpp →
      ∃ ts lead body, source.toList = lead ++ body ∧ Trivia lead ∧ Layout ts body ∧
        ((numbersOf cpp).filter fun n => !n.isInteger).map spelled
          = (ts.filterMap Token.fractional?).map (fun n => n.value.text.toList) ∧
        ∀ n ∈ ts.filterMap Token.fractional?, n.value.isFinite = true := by
  refine ⟨fun n valid => ⟨n.spelling_literal valid, (n.denotes_value valid).iff_eq, fun h => ?_⟩,
    fun source cpp items hparse hcompile => ?_⟩
  · obtain ⟨l, hspelling, -, hdenotes⟩ := exists_literal_text h
    refine ⟨l, fun l' => ⟨fun h' => ?_, ?_⟩, l.mark_mem_unsigned, hdenotes.iff_eq⟩
    · exact FloatLiteral.spelling_inj (h'.trans hspelling.symm)
    · rintro rfl
      exact hspelling
  · obtain ⟨hwell, ts, lead, body, htokens, -, htext, hlead, hlayout⟩ := parse_sound hparse
    obtain ⟨hfaultless, rfl⟩ := faultless_of_compile hcompile
    have hconstants : (constantsOf (items.flatMap Item.exprs)).filter (fun c => !c.isInt)
        = (ts.filterMap Token.fractional?).map fun n => .float n.value := by
      rw [constants_eq_of_tokens htokens, filter_constantsRead]
    have hfinite : ∀ n ∈ ts.filterMap Token.fractional?, n.value.isFinite = true := by
      intro n hn
      have hmem : Constant.float n.value ∈ constantsOf (items.flatMap Item.exprs) := by
        refine (List.mem_filter (p := fun c => !c.isInt).mp ?_).1
        rw [hconstants]
        exact List.mem_map_of_mem hn
      refine hfaultless.literals_finite _ ?_
      rw [← floatsAmong_items]
      exact List.mem_filterMap.mpr ⟨_, hmem, rfl⟩
    refine ⟨ts, lead, body, htext, hlead, hlayout, ?_, hfinite⟩
    have hnumbers := filter_numbersOf hwell hfaultless.literals_finite fun b => !b
    rw [hnumbers, hconstants, if_neg (by decide), List.append_nil, List.map_map, List.map_map]
    refine List.map_congr_left fun n hn => ?_
    exact (toList_text (hfinite n hn)).symm

/-- A numeral of many digits, nearly a tenth below zero. -/
def longTenth : FractionalNumeral := ⟨true, "0".toList, "10000000000000000555111512312578".toList⟩

/-- A program that returns a tenth below zero. -/
def tenthReturned : List Item :=
  [.function ⟨"main", [], "t", [.ret (.float ⟨0xbfb999999999999a⟩)]⟩]

theorem float_literals_tenthReturned :
    (∃ valid : IsWhole longTenth.digits ∧ IsFraction longTenth.fraction,
      (longTenth.literal valid).Denotes ⟨0xbfb999999999999a⟩) ∧
    (Binary64.mk 0xbfb999999999999a).isFinite = true ∧
    (∃ l : FloatLiteral, l.spelling = "-0.1".toList ∧
      ∀ x, l.Denotes x ↔ x = ⟨0xbfb999999999999a⟩) ∧
    parse "fn main()->t\x7breturn -0.10000000000000000555111512312578;\x7d" = .ok tenthReturned ∧
    (compile tenthReturned).result = .ok (cppFile tenthReturned) ∧
    ∃ ts lead body,
      "fn main()->t\x7breturn -0.10000000000000000555111512312578;\x7d".toList = lead ++ body ∧
      Trivia lead ∧ Layout ts body ∧
      ((numbersOf (cppFile tenthReturned)).filter fun n => !n.isInteger).map spelled
        = (ts.filterMap Token.fractional?).map (fun n => n.value.text.toList) ∧
      ∀ n ∈ ts.filterMap Token.fractional?, n.value.isFinite = true := by
  have hvalue : longTenth.value = ⟨0xbfb999999999999a⟩ := by decide +kernel
  have htext : (Binary64.mk 0xbfb999999999999a).text = "-0.1" := by decide +kernel
  have hfinite : (Binary64.mk 0xbfb999999999999a).isFinite = true := by decide +kernel
  have valid : IsWhole longTenth.digits ∧ IsFraction longTenth.fraction :=
    ⟨.inl ⟨by decide, by decide⟩, by decide, List.all_eq_true.mp (by decide)⟩
  have hparse : parse "fn main()->t\x7breturn -0.10000000000000000555111512312578;\x7d"
      = .ok tenthReturned := by decide +kernel
  have hcompile : (compile tenthReturned).result = .ok (cppFile tenthReturned) :=
    compile_of_firstFault (by decide +kernel) (by decide)
  obtain ⟨-, hread, hwritten⟩ := float_literals.1 longTenth valid
  rw [hvalue] at hwritten
  obtain ⟨l, hspelling, -, hdenotes⟩ := hwritten hfinite
  rw [htext] at hspelling
  exact ⟨⟨valid, (hread _).mpr hvalue.symm⟩, hfinite, ⟨l, (hspelling l).mpr rfl, hdenotes⟩, hparse,
    hcompile, float_literals.2 _ _ _ hparse hcompile⟩

end ToyLang.Source
