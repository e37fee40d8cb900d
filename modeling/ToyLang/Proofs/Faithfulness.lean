import ToyLang.Proofs.Acceptance
import ToyLang.Proofs.Decoding

/-!
# Compilation loses nothing but names

Two source texts that are compiled to the same file hold the same program, up to the name of
the entry point.  The file is the one of the direct printer, so its text consists of the lexemes
of the declarations between two texts that are always the same, and the lexemes determine the
declarations.

What is asked of the texts of floating-point numbers is that two literals with one text are one
number.

## Main results

* `Item.WellFormed.floats` — every literal is the value of some numeral.
* `exists_spells` — literals with distinct texts can be written as numerals again.
* `renamed_eq_of_compile_eq` — **programs with the same file are the same up to names.**
-/

namespace ToyLang.Source

open Text

/-! ### Literals -/

/-- The number is what some numeral denotes. -/
def Denoted (x : Binary64) : Prop :=
  ∃ n : FractionalNumeral, (IsWhole n.digits ∧ IsFraction n.fraction) ∧ n.value = x

theorem Expr.WellFormed.floats {e : Expr} (h : e.WellFormed) : ∀ x ∈ e.floats, Denoted x := by
  induction h with
  | int => exact List.forall_mem_nil _
  | float n hdigits hfraction =>
    exact List.forall_mem_singleton.mpr ⟨n, ⟨hdigits, hfraction⟩, rfl⟩
  | bool => exact List.forall_mem_nil _
  | ident _ => exact List.forall_mem_nil _
  | call _ _ ih =>
    rw [Expr.floats_call, floatsOfArgs_eq_flatMap, List.forall_mem_flatMap]
    exact ih
  | arith _ _ _ _ ihl ihr => exact List.forall_mem_append.mpr ⟨ihl, ihr⟩
  | compare _ _ _ _ ihl ihr => exact List.forall_mem_append.mpr ⟨ihl, ihr⟩
  | assign _ _ ih => exact ih
  | paren _ ih => exact ih

mutual

theorem Stmt.WellFormed.floats : {s : Stmt} → s.WellFormed → ∀ x ∈ s.floats, Denoted x
  | .bind _, .bind hb => hb.init.floats
  | .ret _, .ret hvalue => hvalue.floats
  | .cond _ _ _, .cond htest hbody hother =>
    forall_mem_append_append.mpr ⟨htest.floats, denoted_floatsOfAll hbody, hother.floats⟩
  | .loop _ _, .loop htest hbody =>
    List.forall_mem_append.mpr ⟨htest.floats, denoted_floatsOfAll hbody⟩
  | .count _ _ _ _, .count _ hfirst hbound hbody =>
    forall_mem_append_append.mpr ⟨hfirst.floats, hbound.floats, denoted_floatsOfAll hbody⟩
  | .block _, .block hbody => denoted_floatsOfAll hbody
  | .eval _, .eval hvalue => hvalue.floats

theorem Else.WellFormed.floats : {o : Else} → o.WellFormed → ∀ x ∈ o.floats, Denoted x
  | .none, .none => List.forall_mem_nil _
  | .block _, .block hbody => denoted_floatsOfAll hbody
  | .cond _ _ _, .cond htest hbody hother =>
    forall_mem_append_append.mpr ⟨htest.floats, denoted_floatsOfAll hbody, hother.floats⟩

theorem denoted_floatsOfAll :
    {ss : List Stmt} → (∀ s ∈ ss, s.WellFormed) → ∀ x ∈ floatsOfAll ss, Denoted x
  | [], _ => List.forall_mem_nil _
  | _ :: _, h =>
    List.forall_mem_append.mpr
      ⟨(List.forall_mem_cons.mp h).1.floats, denoted_floatsOfAll (List.forall_mem_cons.mp h).2⟩

end

/-- Every literal of a declaration that the grammar allows is the value of some numeral. -/
theorem Item.WellFormed.floats {i : Item} (h : i.WellFormed) : ∀ x ∈ i.floats, Denoted x := by
  cases i with
  | function f => exact denoted_floatsOfAll h.body
  | bind b => exact h.init.floats

/-- Literals with distinct texts can be written as numerals again, each in one way. -/
theorem exists_spells {xs : List Binary64} (hfinite : ∀ x ∈ xs, x.isFinite = true)
    (hdenoted : ∀ x ∈ xs, Denoted x) (hdistinct : ∀ x ∈ xs, ∀ y ∈ xs, x.text = y.text → x = y) :
    ∃ spell, Spells spell xs := by
  have hchoice : ∀ l : Lexeme, ∃ cs : List Char, (l.isFraction = false → cs = l.chars) ∧
      ∀ x ∈ xs, l = .word x.text.toList → ∃ n valid, FractionalNumeral.value n = x ∧
        (Token.fractional n valid).spelling = cs := by
    intro l
    by_cases hl : ∃ x ∈ xs, l = .word x.text.toList
    · -- the text of a literal: a numeral of the only literal that has this text
      obtain ⟨x, hx, rfl⟩ := hl
      obtain ⟨n, valid, hvalue⟩ := hdenoted x hx
      refine ⟨(Token.fractional n valid).spelling, fun hplain => ?_, fun y hy htext => ?_⟩
      · rw [(isFraction_text (hfinite x hx)).fraction] at hplain
        exact absurd hplain (by decide)
      · have hsame : x = y :=
          hdistinct x hx y hy (String.toList_inj.mp (Lexeme.word.inj htext))
        exact ⟨n, valid, hvalue.trans hsame, rfl⟩
    · exact ⟨l.chars, fun _ => rfl, fun x hx htext => absurd ⟨x, hx, htext⟩ hl⟩
  obtain ⟨spell, hspell⟩ := Classical.axiomOfChoice hchoice
  exact ⟨spell, hfinite, fun l hl => (hspell l).1 hl, fun x hx => (hspell _).2 x hx rfl⟩

/-! ### Programs -/

/-- The declarations have the same text if the files have. -/
theorem cppOfItems_inj {items items' : List Item} (h : cppFile items = cppFile items') :
    cppOfItems 1 items = cppOfItems 1 items' := by
  rw [cppFile, cppFile] at h
  exact (String.append_right_inj _).mp
    ((String.append_left_inj _).mp ((String.append_left_inj _).mp h))

/-- **Two texts that are compiled to the same file are the same program, but for the names of
functions**, if no two of their literals have the same text. -/
theorem renamed_eq_of_compile_eq {source source' text : String} {items items' : List Item}
    (hparse : parse source = .ok items) (hparse' : parse source' = .ok items')
    (hcompile : (compile items).result = .ok text)
    (hcompile' : (compile items').result = .ok text)
    (hdistinct : ∀ x ∈ literals items ++ literals items', ∀ y ∈ literals items ++ literals items',
      x.text = y.text → x = y) :
    items.map Item.renamed = items'.map Item.renamed := by
  obtain ⟨hwell, -⟩ := file_yields (parse_eq_ok_iff.mp hparse)
  obtain ⟨hwell', -⟩ := file_yields (parse_eq_ok_iff.mp hparse')
  obtain ⟨hfaultless, rfl⟩ := faultless_of_compile hcompile
  obtain ⟨hfaultless', hfile⟩ := faultless_of_compile hcompile'
  -- the literals of both programs can be written as numerals in one way
  have hdenoted : ∀ x ∈ literals items ++ literals items', Denoted x :=
    List.forall_mem_append.mpr ⟨List.forall_mem_flatMap.mpr fun i hi => (hwell i hi).floats,
      List.forall_mem_flatMap.mpr fun i hi => (hwell' i hi).floats⟩
  obtain ⟨spell, hspell⟩ := exists_spells
    (List.forall_mem_append.mpr ⟨hfaultless.literals_finite, hfaultless'.literals_finite⟩) hdenoted
    hdistinct
  -- the texts of the declarations are equal, and so are their lexemes
  have hlexemes : lexemesOfItems 1 items = lexemesOfItems 1 items' := by
    rw [← lexemesOf_cppOfItems 1 hwell hfaultless.floats_finite, cppOfItems_inj hfile,
      lexemesOf_cppOfItems 1 hwell' hfaultless'.floats_finite]
  exact decodeItems hwell hspell.left hwell' hspell.right hlexemes

/-- A program whose entry point has the name that it gets in C++, and a literal. -/
def renamedProgram : List Item :=
  [.function ⟨"main__func__", [], "t",
    [.ret (.call "main__func__" [.float ⟨0x3fe0000000000000⟩])]⟩]

/-- The same program with the entry point under its own name. -/
def plainProgram : List Item :=
  [.function ⟨"main", [], "t", [.ret (.call "main" [.float ⟨0x3fe0000000000000⟩])]⟩]

theorem renamed_eq_of_compile_eq_plainProgram :
    parse "fn main() -> t \x7breturn main(0.50);\x7d" = .ok plainProgram ∧
    parse "fn main__func__()->t\x7breturn main__func__(0.5);\x7d" = .ok renamedProgram ∧
    (compile plainProgram).result = .ok (cppFile plainProgram) ∧
    (compile renamedProgram).result = .ok (cppFile plainProgram) ∧
    (∀ x ∈ literals plainProgram ++ literals renamedProgram,
      ∀ y ∈ literals plainProgram ++ literals renamedProgram, x.text = y.text → x = y) ∧
    plainProgram.map Item.renamed = renamedProgram.map Item.renamed := by
  have hparse : parse "fn main() -> t \x7breturn main(0.50);\x7d" = .ok plainProgram := by
    decide +kernel
  have hparse' : parse "fn main__func__()->t\x7breturn main__func__(0.5);\x7d"
      = .ok renamedProgram := by
    decide +kernel
  have hcompile : (compile plainProgram).result = .ok (cppFile plainProgram) :=
    compile_of_firstFault (by decide) (by decide)
  have hcompile' : (compile renamedProgram).result = .ok (cppFile plainProgram) := by
    have hfile : cppFile renamedProgram = cppFile plainProgram := by decide +kernel
    rw [← hfile]
    exact compile_of_firstFault (by decide) (by decide)
  have hdistinct : ∀ x ∈ literals plainProgram ++ literals renamedProgram,
      ∀ y ∈ literals plainProgram ++ literals renamedProgram, x.text = y.text → x = y := by
    decide +kernel
  exact ⟨hparse, hparse', hcompile, hcompile', hdistinct,
    renamed_eq_of_compile_eq hparse hparse' hcompile hcompile' hdistinct⟩

end ToyLang.Source
