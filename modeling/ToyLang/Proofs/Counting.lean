import ToyLang.Proofs.Faithfulness
import ToyLang.Proofs.Reparsing

/-!
# The condition of a loop that counts

A loop that counts compares its variable with its bound before each round.  The bound is an
expression of any kind and is written behind `<` as it stands.  That is the comparison with the
whole bound if the bound is a sum, and nothing looser: of a comparison only the left side, and of an
assignment only the variable, is compared, and what is left over changes what the condition says.

## Main definitions

* `Stmt.statements`, `Item.statements` — the statements that occur in a part of a program.
* `condition` — what is written between the two semicolons of a loop that counts.
* `Expr.compared` — the part of a bound with which the variable is compared.

## Main results

* `Stmt.exists_text` — a statement is printed where it occurs.
* `condition_reads` — how a condition is read.
* `count_condition` — the conditions of the loops of a compiled program.
-/

namespace ToyLang.Source

open Reader Text

/-! ### Statements inside statements -/

mutual

/-- A statement and the statements inside it. -/
def Stmt.statements : Stmt → List Stmt
  | .bind b => [.bind b]
  | .ret value => [.ret value]
  | .cond test body otherwise =>
      .cond test body otherwise :: (statementsOfAll body ++ otherwise.statements)
  | .loop test body => .loop test body :: statementsOfAll body
  | .count var first bound body => .count var first bound body :: statementsOfAll body
  | .block body => .block body :: statementsOfAll body
  | .eval value => [.eval value]

/-- The statements behind an `else`. -/
def Else.statements : Else → List Stmt
  | .none => []
  | .block body => statementsOfAll body
  | .cond _ body otherwise => statementsOfAll body ++ otherwise.statements

/-- Some statements and the statements inside them. -/
def statementsOfAll : List Stmt → List Stmt
  | [] => []
  | s :: ss => s.statements ++ statementsOfAll ss

end

/-- The statements inside a declaration at the top level. -/
def Item.statements : Item → List Stmt
  | .function f => statementsOfAll f.body
  | .bind _ => []

mutual

theorem Stmt.WellFormed.statements : {s : Stmt} → s.WellFormed → ∀ t ∈ s.statements, t.WellFormed
  | .bind _, h => List.forall_mem_singleton.mpr h
  | .ret _, h => List.forall_mem_singleton.mpr h
  | .cond _ _ _, .cond htest hbody hotherwise =>
    List.forall_mem_cons.mpr ⟨.cond htest hbody hotherwise, List.forall_mem_append.mpr
      ⟨wellFormed_statementsOfAll hbody, hotherwise.statements⟩⟩
  | .loop _ _, .loop htest hbody =>
    List.forall_mem_cons.mpr ⟨.loop htest hbody, wellFormed_statementsOfAll hbody⟩
  | .count _ _ _ _, .count hvar hfirst hbound hbody =>
    List.forall_mem_cons.mpr ⟨.count hvar hfirst hbound hbody, wellFormed_statementsOfAll hbody⟩
  | .block _, .block hbody =>
    List.forall_mem_cons.mpr ⟨.block hbody, wellFormed_statementsOfAll hbody⟩
  | .eval _, h => List.forall_mem_singleton.mpr h

theorem Else.WellFormed.statements : {o : Else} → o.WellFormed → ∀ t ∈ o.statements, t.WellFormed
  | .none, .none => List.forall_mem_nil _
  | .block _, .block hbody => wellFormed_statementsOfAll hbody
  | .cond _ _ _, .cond _ hbody hotherwise =>
    List.forall_mem_append.mpr ⟨wellFormed_statementsOfAll hbody, hotherwise.statements⟩

theorem wellFormed_statementsOfAll :
    {ss : List Stmt} → (∀ s ∈ ss, s.WellFormed) → ∀ t ∈ statementsOfAll ss, t.WellFormed
  | [], _ => List.forall_mem_nil _
  | _ :: _, h => List.forall_mem_append.mpr
      ⟨(List.forall_mem_cons.mp h).1.statements,
        wellFormed_statementsOfAll (List.forall_mem_cons.mp h).2⟩

end

/-- The statements inside a declaration that the grammar allows are such. -/
theorem Item.WellFormed.statements {i : Item} (h : i.WellFormed) :
    ∀ t ∈ i.statements, t.WellFormed := by
  cases i with
  | function f => exact wellFormed_statementsOfAll h.body
  | bind b => exact List.forall_mem_nil _

/-! ### Where a statement is printed -/

/-- A text stands somewhere in another one. -/
def Inside (part whole : String) : Prop := ∃ before after, whole = before ++ part ++ after

theorem Inside.refl (part : String) : Inside part part := ⟨"", "", by simp⟩

theorem Inside.behind {part whole : String} (h : Inside part whole) (s : String) :
    Inside part (s ++ whole) := by
  obtain ⟨before, after, rfl⟩ := h
  exact ⟨s ++ before, after, by simp only [String.append_assoc]⟩

theorem Inside.before {part whole : String} (h : Inside part whole) (s : String) :
    Inside part (whole ++ s) := by
  obtain ⟨before, after, rfl⟩ := h
  exact ⟨before, after ++ s, by simp only [String.append_assoc]⟩

theorem Inside.labelled {part body : String} (h : Inside part body) (n : Nat) :
    Inside part (labelled n body) := by
  unfold ToyLang.labelled
  exact (((h.behind _).before _).before _).before _

theorem Inside.owned {part body : String} (h : Inside part body) (function : String) :
    Inside part (owned function body) := by
  unfold ToyLang.owned
  exact (((h.behind _).before _).before _).before _

mutual

/-- A statement is printed where it occurs. -/
theorem Stmt.exists_text (n : Nat) :
    (s : Stmt) → ∀ t ∈ s.statements, ∃ m, Inside (t.cpp m) (s.cpp n)
  | .bind _ => List.forall_mem_singleton.mpr ⟨n, .refl _⟩
  | .ret _ => List.forall_mem_singleton.mpr ⟨n, .refl _⟩
  | .cond test body otherwise => by
    refine List.forall_mem_cons.mpr ⟨⟨n, .refl _⟩, List.forall_mem_append.mpr
      ⟨fun t ht => ?_, fun t ht => ?_⟩⟩
    · obtain ⟨m, hm⟩ := exists_text_all (n + 1) body t ht
      exact ⟨m, ((hm.labelled n).behind _).before _⟩
    · obtain ⟨m, hm⟩ := otherwise.exists_text (n + 1 + blocksOfAll body) t ht
      exact ⟨m, hm.behind _⟩
  | .loop test body => by
    refine List.forall_mem_cons.mpr ⟨⟨n, .refl _⟩, fun t ht => ?_⟩
    obtain ⟨m, hm⟩ := exists_text_all (n + 1) body t ht
    exact ⟨m, (hm.labelled n).behind _⟩
  | .count var first bound body => by
    refine List.forall_mem_cons.mpr ⟨⟨n, .refl _⟩, fun t ht => ?_⟩
    obtain ⟨m, hm⟩ := exists_text_all (n + 1) body t ht
    exact ⟨m, (hm.labelled n).behind _⟩
  | .block body => by
    refine List.forall_mem_cons.mpr ⟨⟨n, .refl _⟩, fun t ht => ?_⟩
    obtain ⟨m, hm⟩ := exists_text_all (n + 1) body t ht
    exact ⟨m, hm.labelled n⟩
  | .eval _ => List.forall_mem_singleton.mpr ⟨n, .refl _⟩

theorem Else.exists_text (n : Nat) :
    (o : Else) → ∀ t ∈ o.statements, ∃ m, Inside (t.cpp m) (o.cpp n)
  | .none => List.forall_mem_nil _
  | .block body => fun t ht => by
    obtain ⟨m, hm⟩ := exists_text_all (n + 1) body t ht
    exact ⟨m, (hm.labelled n).behind _⟩
  | .cond test body otherwise => by
    refine List.forall_mem_append.mpr ⟨fun t ht => ?_, fun t ht => ?_⟩
    · obtain ⟨m, hm⟩ := exists_text_all (n + 1) body t ht
      rw [Else.cpp_cond]
      exact ⟨m, ((hm.labelled n).behind _).before _⟩
    · obtain ⟨m, hm⟩ := otherwise.exists_text (n + 1 + blocksOfAll body) t ht
      rw [Else.cpp_cond]
      exact ⟨m, hm.behind _⟩

theorem exists_text_all (n : Nat) :
    (ss : List Stmt) → ∀ t ∈ statementsOfAll ss, ∃ m, Inside (t.cpp m) (cppOfAll n ss)
  | [] => List.forall_mem_nil _
  | s :: ss => by
    refine List.forall_mem_append.mpr ⟨fun t ht => ?_, fun t ht => ?_⟩
    · obtain ⟨m, hm⟩ := s.exists_text n t ht
      exact ⟨m, hm.before _⟩
    · obtain ⟨m, hm⟩ := exists_text_all (n + s.blocks) ss t ht
      exact ⟨m, hm.behind _⟩

end

/-- A statement of a program is printed in the file of the program. -/
theorem exists_text_file {items : List Item} {t : Stmt} (ht : t ∈ items.flatMap Item.statements) :
    ∃ m, Inside (t.cpp m) (cppFile items) := by
  have hitems (n : Nat) : ∃ m, Inside (t.cpp m) (cppOfItems n items) := by
    induction items generalizing n with
    | nil => cases ht
    | cons i is ih =>
      rcases List.mem_append.mp ht with hi | his
      · cases i with
        | function f =>
          obtain ⟨m, hm⟩ := exists_text_all (n + 1) f.body t hi
          exact ⟨m, (((hm.owned _).behind _).before _).before _⟩
        | bind b => cases hi
      · obtain ⟨m, hm⟩ := ih his (n + i.blocks)
        exact ⟨m, hm.behind _⟩
  obtain ⟨m, hm⟩ := hitems 1
  exact ⟨m, ((hm.behind _).before _).before _⟩

/-! ### What a condition compares -/

/-- The condition of a loop that counts a variable up to a bound. -/
def condition (var : String) (bound : Expr) : String := var ++ " < " ++ bound.cpp

/-- The part of a bound with which the variable is compared. -/
def Expr.compared : Expr → Expr
  | .compare _ lhs _ => lhs
  | .assign target _ => .ident target
  | e => e

/-- What the reader of expressions makes of a text, behind leading blanks. -/
def readExpr (text : String) : Option (Reading Expr) := expr text.length (skipTrivia text.toList)

theorem Expr.compared_renamed (e : Expr) : e.renamed.compared = e.compared.renamed := by
  cases e <;> rfl

/-- The variable is compared with the whole bound exactly if the bound is a sum. -/
theorem Expr.compared_eq_iff {e : Expr} (hwell : e.WellFormed) : e.compared = e ↔ e.rank ≤ 2 := by
  cases hwell with
  | compare hleft _ _ _ =>
    refine ⟨fun h => ?_, fun h => absurd h (by simp [rank])⟩
    rw [← h]
    exact hleft
  | assign => simp [compared, rank]
  | @arith op => cases op <;> simp [compared, rank, ArithmeticOp.rank]
  | _ => simp [compared, rank]

/-- A text that reads back is one of a finite number. -/
theorem ReadsBack.isFinite {x : Binary64} (h : ReadsBack x) : x.isFinite = true := by
  by_contra hfinite
  have hlarge : ¬ x.magnitude < Binary64.infiniteMagnitude := by
    simpa [Binary64.isFinite] using hfinite
  have hzero : x.magnitude ≠ 0 := by
    intro hzero
    exact hlarge (hzero ▸ by decide)
  have htext : x.text = "NaN" ∨ x.text = "-inf" ∨ x.text = "inf" := by
    rw [Binary64.text, Binary64.magnitudeText, if_neg hzero, if_neg hlarge]
    split
    · exact .inl rfl
    · split
      · exact .inr (.inl rfl)
      · exact .inr (.inr rfl)
  have hnone : takeFractional? x.text.toList = none := by
    rcases htext with htext | htext | htext <;> rw [htext] <;> decide
  rw [ReadsBack, hnone] at h
  cases h

/-! ### How a condition is read -/

/-- The tokens of a bound are those of what is compared, and others behind them with which no sum
goes on. -/
theorem Expr.WellFormed.exists_compared {e : Expr} (hwell : e.WellFormed) {ts : List Token}
    (h : e.Tokens ts) : ∃ us vs, ts = us ++ vs ∧ e.compared.Fits 2 us ∧
      (vs = [] ↔ e.rank ≤ 2) ∧ Leads vs (· = []) (Follow 2) := by
  by_cases hrank : e.rank ≤ 2
  · have hcompared := (compared_eq_iff hwell).mpr hrank
    refine ⟨ts, [], by simp, by rw [hcompared]; exact ⟨hwell, hrank, h⟩, by simp [hrank], ?_⟩
    refine .nil ?_
    rintro rest rfl c ⟨⟩
  cases h with
  | @compare op lhs rhs us vs hlhs hrhs =>
    cases hwell with | compare hleft _ hlwell _ =>
    refine ⟨us, .compare op :: vs, rfl, ⟨hlwell, hleft, hlhs⟩, by simp [hrank], .cons ?_⟩
    cases op <;> exact opens_follow rfl (by decide)
  | @assign target value ts valid hvalue =>
    have hvar : (Expr.ident target).Fits 2 [.name target valid] :=
      ⟨.ident valid, by simp [rank], .ident valid⟩
    refine ⟨[.name target valid], .mark .equals :: ts, rfl, hvar, by simp [hrank], .cons ?_⟩
    exact opens_follow rfl (by decide)
  | @arith op => cases op <;> simp [rank, ArithmeticOp.rank] at hrank
  | _ => simp [rank] at hrank

/-- A comparison with a name on its left side is read as far as its right side goes. -/
theorem expr_reads_compare {budget : Nat} {n : String} (valid : isName n = true)
    (op : ComparisonOp) {rhs : Expr} {us : List Token} (h : rhs.Fits 2 us)
    (hle : us.length + 2 ≤ budget) :
    Reads (expr budget) (.compare op (.ident n) rhs) (.name n valid :: .compare op :: us)
      (Follow 2) := by
  obtain ⟨budget, rfl⟩ : ∃ b, budget = b + 1 := ⟨budget - 1, by omega⟩
  have hself := expr_complete budget
  have hlhs : Expr.Fits 2 (.ident n) [.name n valid] :=
    ⟨.ident valid, by simp [Expr.rank], .ident valid⟩
  have hassign : Refuses (assign (expr budget)) (.name n valid :: .compare op :: us) (Follow 2) :=
    .bind_right (name_reads valid) (equals_refuses hself (t := .compare op) trivial _)
      leads_anything
  exact .orElse_right hassign
    (comparison_reads_compare hself hlhs h (by simp only [List.length_singleton]; omega))

theorem lexemesOf_condition {var : String} {bound : Expr} (hvar : isName var = true)
    (hwell : bound.WellFormed) (hfinite : ∀ x ∈ bound.floats, x.isFinite = true) :
    lexemesOf (condition var bound)
      = .word var.toList :: .word ComparisonOp.lt.token.toList :: bound.lexemes := by
  have hspread : condition var bound = var ++ " " ++ ComparisonOp.lt.token ++ " " ++ bound.cpp := by
    have hsign : " " ++ (ComparisonOp.lt.token ++ " ") = " < " := by decide
    rw [condition, ← hsign]
    simp only [String.append_assoc]
  rw [hspread, lexemesOf_infix (lexemesOf_compare .lt), lexemesOf_isName hvar,
    lexemesOf_cpp hwell hfinite, List.singleton_append]

/-- A condition is read as the comparison with the part of the bound that binds most tightly; all of
it is read exactly if that is the whole bound. -/
theorem condition_reads {var : String} {bound : Expr} (hvar : isName var = true)
    (hwell : bound.WellFormed) (hliterals : ∀ x ∈ bound.floats, ReadsBack x) :
    ∃ rest, readExpr (condition var bound)
        = some ⟨.compare .lt (.ident var) bound.compared.renamed, [], rest⟩ ∧
      (rest = [] ↔ bound.compared = bound) := by
  have hspell : Spells Lexeme.chars bound.floats :=
    spells_chars fun x hx => ⟨(hliterals x hx).isFinite, hliterals x hx⟩
  -- the condition is laid out as the variable, the operator and the tokens of the bound
  obtain ⟨ts, htokens, hts⟩ := exists_tokens hwell hspell
  have hwritten : Written Lexeme.chars (lexemesOf (condition var bound))
      (.name var hvar :: .compare .lt :: ts) := by
    rw [lexemesOf_condition hvar hwell hspell.finite]
    exact .cons trivial (hspell.name hvar) (.cons trivial (hspell.compare .lt) hts)
  obtain ⟨os, hlaid⟩ := laid_of_cut _ hwritten.2
  obtain rfl := hlaid.overflows_eq_nil.mpr hwritten.1
  have hlength : ts.length + 2 ≤ (condition var bound).length := by
    rw [← String.length_toList]
    exact Nat.le_trans hlaid.length_le (length_skipTriviaFrom_le false _)
  -- what is compared ends where no sum goes on
  obtain ⟨us, vs, rfl, hus, hvs, hleads⟩ := hwell.renamed.exists_compared htokens
  rw [← List.cons_append, ← List.cons_append, laid_append] at hlaid
  obtain ⟨rest, os₁, os₂, hlaid, hrest, hos⟩ := hlaid
  obtain ⟨rfl, rfl⟩ := List.append_eq_nil_iff.mp hos.symm
  have hread := expr_reads_compare hvar .lt hus
    (Nat.le_trans (by simp only [List.length_append]; omega) hlength)
    (visible_skipTrivia _) hlaid (hleads hrest rfl)
  rw [Expr.compared_renamed] at hread
  refine ⟨rest, hread, ?_⟩
  -- and nothing is left over exactly if there are no tokens behind it
  rw [Expr.compared_eq_iff hwell, ← Expr.rank_renamed, ← hvs]
  constructor
  · rintro rfl
    exact List.length_eq_zero_iff.mp (Nat.le_zero.mp hrest.length_le)
  · rintro rfl
    exact hrest.1

/-- **The condition of a loop compares its variable with the whole bound exactly if the bound is no
comparison and no assignment.**  The condition stands between the two semicolons of the loop.
Where the literals of the bound read back, it is read as a comparison of the variable, with the
bound or with what stands first in it; in no case is it read as a comparison with a bound that is
itself a comparison or an assignment. -/
theorem count_condition {text cpp : String} {items : List Item} (hparse : parse text = .ok items)
    (hcompile : (compile items).result = .ok cpp) {var : String} {first bound : Expr}
    {body : List Stmt} (hcount : .count var first bound body ∈ items.flatMap Item.statements) :
    (∃ m, Inside ("for (long long " ++ var ++ " = " ++ first.cpp ++ "; " ++ condition var bound
      ++ "; ++" ++ var ++ ")" ++ labelled m (cppOfAll (m + 1) body)) cpp) ∧
    (∀ os rest, readExpr (condition var bound)
        = some ⟨.compare .lt (.ident var) bound.renamed, os, rest⟩ → bound.compared = bound) ∧
    ((∀ x ∈ bound.floats, ReadsBack x) → ∃ rest, readExpr (condition var bound)
        = some ⟨.compare .lt (.ident var) bound.compared.renamed, [], rest⟩ ∧
      (rest = [] ↔ bound.compared = bound)) := by
  -- the loop is one that the grammar allows
  obtain ⟨hitems, -⟩ := file_yields (parse_eq_ok_iff.mp hparse)
  obtain ⟨i, hi, hstmt⟩ := List.mem_flatMap.mp hcount
  have hwell := (hitems i hi).statements _ hstmt
  cases hwell with | count hvar hfirst hbound hbody =>
  obtain ⟨-, rfl⟩ := faultless_of_compile hcompile
  refine ⟨?_, fun os rest hread => ?_, condition_reads hvar hbound⟩
  · obtain ⟨m, hm⟩ := exists_text_file hcount
    refine ⟨m, ?_⟩
    rw [Stmt.cpp_count] at hm
    simpa only [condition, String.append_assoc] using hm
  · obtain ⟨ts, -, hfits⟩ := expr_yields _ (visible_skipTrivia _) hread
    cases hfits.wellFormed with | compare _ hright _ _ =>
    rwa [Expr.compared_eq_iff hbound, ← Expr.rank_renamed]

/-- A program with a loop that counts up to a comparison. -/
def comparedBound : List Item :=
  [.function ⟨"main", [], "int",
    [.count "i" (.int 0) (.compare .lt (.ident "a") (.ident "b")) [], .ret (.int 0)]⟩]

theorem count_condition_comparedBound :
    parse "fn main() -> int \x7b for i in 0..a < b \x7b \x7d return 0; \x7d" = .ok comparedBound ∧
    (compile comparedBound).result = .ok (cppFile comparedBound) ∧
    .count "i" (.int 0) (.compare .lt (.ident "a") (.ident "b")) []
      ∈ comparedBound.flatMap Item.statements ∧
    ∃ rest, readExpr (condition "i" (.compare .lt (.ident "a") (.ident "b")))
        = some ⟨.compare .lt (.ident "i") (.ident "a"), [], rest⟩ ∧ rest ≠ [] := by
  have hparse : parse "fn main() -> int \x7b for i in 0..a < b \x7b \x7d return 0; \x7d"
      = .ok comparedBound := by decide +kernel
  have hcompile : (compile comparedBound).result = .ok (cppFile comparedBound) :=
    compile_of_firstFault (by decide) (by decide)
  have hcount : .count "i" (.int 0) (.compare .lt (.ident "a") (.ident "b")) []
      ∈ comparedBound.flatMap Item.statements := by decide
  obtain ⟨-, -, hreads⟩ := count_condition hparse hcompile hcount
  obtain ⟨rest, hread, hrest⟩ := hreads (by decide)
  exact ⟨hparse, hcompile, hcount, rest, hread, fun h => absurd (hrest.mp h) (by decide)⟩

end ToyLang.Source
