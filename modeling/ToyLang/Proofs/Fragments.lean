import ToyLang.Proofs.Emission

/-!
# Statements and declarations in a generated file

The lexemes of every part of a generated file.  Blanks and line feeds stand irregularly between
the fragments that a file is put together from, and none of them is a lexeme; labels are, with
the slashes of their comments as a word.

## Main definitions

* `Stmt.lexemes`, `Item.lexemes` — the lexemes of each part, before which `n` blocks open.

## Main results

* `Stmt.lexemesOf_cpp`, `lexemesOf_cppOfItems` — the text of each part consists of its lexemes.
-/

namespace ToyLang.Source

open Text

/-! ### Lexemes -/

/-- The lexemes of a variable. -/
def Binding.lexemes (b : Binding) : List Lexeme :=
  .word b.type.toList :: .word b.name.toList :: .word ['='] :: (b.init.lexemes ++ [.mark ';'])

/-- A closing brace with its label. -/
def closingLexemes (label : String) : List Lexeme :=
  [.mark '\x7d', .word ['/', '/'], .word ['e', 'n', 'd'], .mark ':', .word label.toList]

/-- A block with a number around some lexemes. -/
def labelledLexemes (n : Nat) (body : List Lexeme) : List Lexeme :=
  .mark '\x7b' :: .word ['/', '/'] :: .word ['s', 't', 'a', 'r', 't'] :: .mark ':' ::
    .word (toString n).toList :: (body ++ closingLexemes (toString n))

/-- The body of a function around some lexemes. -/
def ownedLexemes (function : String) (body : List Lexeme) : List Lexeme :=
  .mark '\x7b' :: (body ++ closingLexemes function)

mutual

/-- The lexemes of a statement before which `n` blocks open. -/
def Stmt.lexemes (n : Nat) : Stmt → List Lexeme
  | .bind b => b.lexemes
  | .ret value => .word "return".toList :: (value.lexemes ++ [.mark ';'])
  | .cond test body otherwise =>
      .word "if".toList :: .mark '(' :: (test.lexemes ++ .mark ')' ::
        (labelledLexemes n (lexemesOfAll (n + 1) body)
          ++ otherwise.lexemes (n + 1 + blocksOfAll body)))
  | .loop test body =>
      .word "while".toList :: .mark '(' :: (test.lexemes ++ .mark ')' ::
        labelledLexemes n (lexemesOfAll (n + 1) body))
  | .count var first bound body =>
      .word "for".toList :: .mark '(' :: .word "long".toList :: .word "long".toList ::
        .word var.toList :: .word ['='] :: (first.lexemes ++ .mark ';' ::
          .word var.toList :: .word ['<'] :: (bound.lexemes ++ .mark ';' ::
            .word ('+' :: '+' :: var.toList) :: .mark ')' ::
              labelledLexemes n (lexemesOfAll (n + 1) body)))
  | .block body => labelledLexemes n (lexemesOfAll (n + 1) body)
  | .eval value => value.lexemes ++ [.mark ';']

/-- The lexemes of an `else` with what follows it. -/
def Else.lexemes (n : Nat) : Else → List Lexeme
  | .none => []
  | .block body => .word "else".toList :: labelledLexemes n (lexemesOfAll (n + 1) body)
  | .cond test body otherwise =>
      .word "else".toList :: .word "if".toList :: .mark '(' :: (test.lexemes ++ .mark ')' ::
        (labelledLexemes n (lexemesOfAll (n + 1) body)
          ++ otherwise.lexemes (n + 1 + blocksOfAll body)))

/-- The lexemes of some statements. -/
def lexemesOfAll (n : Nat) : List Stmt → List Lexeme
  | [] => []
  | s :: ss => s.lexemes n ++ lexemesOfAll (n + s.blocks) ss

end

/-- The lexemes of a parameter. -/
def paramLexemes (p : Param) : List Lexeme := [.word p.type.toList, .word p.name.toList]

/-- The lexemes of a function before which `n` blocks open. -/
def Function.lexemes (n : Nat) (f : Function) : List Lexeme :=
  .word f.result.toList :: .word (Cpp.mangle f.name).toList :: .mark '(' ::
    ([.mark ','].intercalate (f.params.map paramLexemes) ++ .mark ')' ::
      ownedLexemes (Cpp.mangle f.name) (lexemesOfAll (n + 1) f.body))

/-- The lexemes of a declaration at the top level. -/
def Item.lexemes (n : Nat) : Item → List Lexeme
  | .function f => f.lexemes n
  | .bind b => b.lexemes

/-- The lexemes of some declarations. -/
def lexemesOfItems (n : Nat) : List Item → List Lexeme
  | [] => []
  | i :: is => i.lexemes n ++ lexemesOfItems (n + i.blocks) is

/-! ### Texts -/

theorem lexemesOf_number (n : Nat) : lexemesOf (toString n) = [.word (toString n).toList] := by
  have hdigits : (toString n).toList = Nat.toDigits 10 n := by
    rw [Nat.toString_eq_repr, Nat.toList_repr]
  refine lexemesOf_word ?_ fun c hc => ?_
  · rw [hdigits]
    exact Nat.toDigits_ne_nil
  · rw [hdigits] at hc
    exact isSolid_of_isNumeralChar (isNumeralChar_of_isDigit (isDigit_toDigits n c hc))

/-- A text that ends in a line feed. -/
def Lined (text : String) : Prop := ∃ front, text = front ++ "\n"

theorem Lined.ended {text : String} (h : Lined text) : Ended text.toList := by
  obtain ⟨front, rfl⟩ := h
  rw [String.toList_append]
  exact Ended.append_left (by decide) (by decide) _

theorem Lined.append {text : String} (h : Lined text) (front : String) :
    Lined (front ++ text) := by
  obtain ⟨front', rfl⟩ := h
  exact ⟨front ++ front', (String.append_assoc ..).symm⟩

theorem Binding.lexemesOf_cpp {b : Binding} (h : b.WellFormed)
    (hfinite : ∀ x ∈ b.init.floats, x.isFinite = true) : lexemesOf b.cpp = b.lexemes := by
  rw [Binding.cpp_eq, lexemesOf_ended, lexemesOf_equals, lexemesOf_blank, lexemesOf_isName h.type,
    lexemesOf_isName h.name, Source.lexemesOf_cpp h.init hfinite, Binding.lexemes]
  simp only [List.cons_append, List.nil_append]

theorem lexemesOf_closing (front label : String) (h : lexemesOf label = [.word label.toList]) :
    lexemesOf (front ++ "\x7d // end: " ++ label ++ "\n")
      = lexemesOf front ++ closingLexemes label := by
  have hclose : Separates "\x7d // end: " := by decide
  have hend : lexemesOf "\x7d // end: "
      = [.mark '\x7d', .word ['/', '/'], .word ['e', 'n', 'd'], .mark ':'] := by decide
  have hline : lexemesOf "\n" = [] := by decide
  rw [lexemesOf_append (.inr (by decide)), hclose.lexemesOf, h, hend, hline, List.append_nil,
    closingLexemes]
  rfl

theorem lexemesOf_labelled (n : Nat) (body : String) :
    lexemesOf (labelled n body) = labelledLexemes n (lexemesOf body) := by
  have hstart : lexemesOf "\n\x7b // start: " = [.mark '\x7b', .word ['/', '/'],
      .word ['s', 't', 'a', 'r', 't'], .mark ':'] := by decide
  have hline : Separates "\n" := by decide
  have hnone : lexemesOf "\n" = [] := by decide
  have hended : Ended "\n\x7b // start: ".toList := by decide
  unfold labelled
  rw [lexemesOf_closing _ _ (lexemesOf_number n), hline.lexemesOf,
    lexemesOf_append (.inl hended), lexemesOf_number, hstart, hnone, labelledLexemes]
  simp only [List.cons_append, List.nil_append]

theorem lexemesOf_owned {function : String} (h : isName function = true) (body : String) :
    lexemesOf (owned function body) = ownedLexemes function (lexemesOf body) := by
  have hopen : lexemesOf "\n\x7b\n" = [.mark '\x7b'] := by decide
  rw [owned, lexemesOf_closing _ _ (lexemesOf_isName h), lexemesOf_append (.inl (by decide)), hopen,
    ownedLexemes]
  simp only [List.cons_append, List.nil_append]

theorem broken_labelled (n : Nat) (body : String) : Broken (labelled n body).toList := by
  have hbroken : Broken "\n\x7b // start: ".toList := by decide
  unfold labelled
  simp only [String.append_assoc, String.toList_append]
  exact hbroken.append (by decide) _

theorem lined_labelled (n : Nat) (body : String) : Lined (labelled n body) := ⟨_, rfl⟩

/-- A branch that is there ends in a line feed. -/
theorem Else.ended_cpp (n : Nat) (o : Else) : Ended (o.cpp n).toList := by
  cases o with
  | none =>
    rw [Else.cpp_none]
    decide
  | block body =>
    rw [Else.cpp_block]
    exact ((lined_labelled n _).append _).ended
  | cond test body otherwise =>
    rw [Else.cpp_cond, String.toList_append]
    exact ((lined_labelled n _).append _).ended.append
      (otherwise.ended_cpp (n + 1 + blocksOfAll body))

/-- No word goes on behind a statement. -/
theorem Stmt.ended_cpp (n : Nat) (s : Stmt) : Ended (s.cpp n).toList := by
  have hsemicolon : Ended ";\n".toList := by decide
  have hne : ";\n".toList ≠ [] := by decide
  cases s with
  | bind b =>
    rw [Stmt.cpp_bind, Binding.cpp_eq, String.toList_append]
    exact hsemicolon.append_left hne _
  | ret value =>
    rw [Stmt.cpp_ret, String.toList_append]
    exact hsemicolon.append_left hne _
  | eval value =>
    rw [Stmt.cpp_eval, String.toList_append]
    exact hsemicolon.append_left hne _
  | cond test body otherwise =>
    rw [Stmt.cpp_cond, String.toList_append]
    exact ((lined_labelled n _).append _).ended.append (otherwise.ended_cpp _)
  | loop test body =>
    rw [Stmt.cpp_loop]
    exact ((lined_labelled n _).append _).ended
  | count var first bound body =>
    rw [Stmt.cpp_count]
    exact ((lined_labelled n _).append _).ended
  | block body =>
    rw [Stmt.cpp_block]
    exact (lined_labelled n _).ended

/-- A condition in parentheses with the block behind it. -/
theorem lexemesOf_guarded {front : String} {test : Expr} (hfront : Ended front.toList)
    (htest : lexemesOf test.cpp = test.lexemes) (n : Nat) (body : String) :
    lexemesOf (front ++ test.cpp ++ ")" ++ labelled n body)
      = lexemesOf front
        ++ (test.lexemes ++ .mark ')' :: labelledLexemes n (lexemesOf body)) := by
  rw [lexemesOf_right, lexemesOf_append (.inl hfront), htest, lexemesOf_labelled,
    List.append_assoc]

theorem lexemesOf_incremented {var : String} (h : isName var = true) :
    lexemesOf ("++" ++ var) = [.word ('+' :: '+' :: var.toList)] := by
  have hchars : ("++" ++ var).toList = '+' :: '+' :: var.toList := by
    rw [String.toList_append]
    rfl
  have hsolid : ∀ c ∈ '+' :: '+' :: var.toList, isSolid c = true :=
    List.forall_mem_cons.mpr ⟨by decide,
      List.forall_mem_cons.mpr ⟨by decide, isSolid_of_isWord (isWord_of_isName h)⟩⟩
  rw [lexemesOf, hchars, cut_solids (List.cons_ne_nil _ _) hsolid]

/-- The head of a loop that counts, and the block behind it. -/
theorem lexemesOf_counted {var : String} {first bound : Expr} (hvar : isName var = true)
    (hfirst : lexemesOf first.cpp = first.lexemes) (hbound : lexemesOf bound.cpp = bound.lexemes)
    (n : Nat) (body : String) :
    lexemesOf ("for (long long " ++ var ++ " = " ++ first.cpp ++ "; " ++ var ++ " < " ++ bound.cpp
        ++ "; ++" ++ var ++ ")" ++ labelled n body)
      = .word "for".toList :: .mark '(' :: .word "long".toList :: .word "long".toList ::
        .word var.toList :: .word ['='] :: (first.lexemes ++ .mark ';' ::
          .word var.toList :: .word ['<'] :: (bound.lexemes ++ .mark ';' ::
            .word ('+' :: '+' :: var.toList) :: .mark ')' ::
              labelledLexemes n (lexemesOf body))) := by
  have hfor : lexemesOf "for (long long "
      = [.word "for".toList, .mark '(', .word "long".toList, .word "long".toList] := by decide
  have hsemicolon : lexemesOf "; " = [.mark ';'] := by decide
  have hless : lexemesOf " < " = [.word ['<']] := by decide
  have hssemicolon : Separates "; " := by decide
  have hsless : Separates " < " := by decide
  have hended : Ended "for (long long ".toList := by decide
  -- the two plus signs belong to the word behind them
  have hplus : "; ++" = "; " ++ "++" := by decide
  have hsplit (front : String) : front ++ "; ++" ++ var = front ++ "; " ++ ("++" ++ var) := by
    simp only [hplus, String.append_assoc]
  rw [lexemesOf_right, hsplit, hssemicolon.lexemesOf, hsless.lexemesOf, hssemicolon.lexemesOf,
    lexemesOf_equals, lexemesOf_append (.inl hended), lexemesOf_incremented hvar,
    lexemesOf_isName hvar, hfirst, hbound, hfor, hsemicolon, hless, lexemesOf_labelled]
  simp only [List.append_assoc, List.cons_append, List.nil_append]

theorem forall_mem_append_append {P : Binary64 → Prop} {xs ys zs : List Binary64} :
    (∀ x ∈ xs ++ ys ++ zs, P x) ↔ (∀ x ∈ xs, P x) ∧ (∀ x ∈ ys, P x) ∧ ∀ x ∈ zs, P x := by
  rw [List.forall_mem_append, List.forall_mem_append, and_assoc]

mutual

/-- The text of a statement consists of its lexemes, if its literals are finite. -/
theorem Stmt.lexemesOf_cpp (n : Nat) : (s : Stmt) → s.WellFormed →
    (∀ x ∈ s.floats, x.isFinite = true) → lexemesOf (s.cpp n) = s.lexemes n
  | .bind b, .bind hb, hfinite => b.lexemesOf_cpp hb hfinite
  | .ret value, .ret hvalue, hfinite => by
    have hreturn : lexemesOf "return " = [.word "return".toList] := by decide
    rw [Stmt.cpp_ret, lexemesOf_ended, lexemesOf_append (.inl (by decide)),
      Source.lexemesOf_cpp hvalue hfinite, hreturn, Stmt.lexemes, List.append_assoc,
      List.singleton_append]
  | .cond test body otherwise, .cond htest hbody hotherwise, hfinite => by
    obtain ⟨hftest, hfbody, hfother⟩ := forall_mem_append_append.mp hfinite
    have hif : lexemesOf "\nif (" = [.word "if".toList, .mark '('] := by decide
    have hended := ((lined_labelled n (cppOfAll (n + 1) body)).append
      ("\nif (" ++ test.cpp ++ ")")).ended
    rw [Stmt.cpp_cond, lexemesOf_append (.inl hended),
      lexemesOf_guarded (by decide) (Source.lexemesOf_cpp htest hftest),
      lexemesOf_cppOfAll (n + 1) body hbody hfbody, hif, Stmt.lexemes,
      otherwise.lexemesOf_cpp (n + 1 + blocksOfAll body) hotherwise hfother]
    simp only [List.append_assoc, List.cons_append, List.nil_append]
  | .loop test body, .loop htest hbody, hfinite => by
    obtain ⟨hftest, hfbody⟩ := List.forall_mem_append.mp hfinite
    have hwhile : lexemesOf "while (" = [.word "while".toList, .mark '('] := by decide
    rw [Stmt.cpp_loop, lexemesOf_guarded (by decide) (Source.lexemesOf_cpp htest hftest),
      lexemesOf_cppOfAll (n + 1) body hbody hfbody, hwhile, Stmt.lexemes]
    rfl
  | .count var first bound body, .count hvar hfirst hbound hbody, hfinite => by
    obtain ⟨hffirst, hfbound, hfbody⟩ := forall_mem_append_append.mp hfinite
    rw [Stmt.cpp_count, lexemesOf_counted hvar (Source.lexemesOf_cpp hfirst hffirst)
      (Source.lexemesOf_cpp hbound hfbound), lexemesOf_cppOfAll (n + 1) body hbody hfbody,
      Stmt.lexemes]
  | .block body, .block hbody, hfinite => by
    rw [Stmt.cpp_block, lexemesOf_labelled, lexemesOf_cppOfAll (n + 1) body hbody hfinite,
      Stmt.lexemes]
  | .eval value, .eval hvalue, hfinite => by
    rw [Stmt.cpp_eval, lexemesOf_ended, Source.lexemesOf_cpp hvalue hfinite, Stmt.lexemes]

theorem Else.lexemesOf_cpp (n : Nat) : (o : Else) → o.WellFormed →
    (∀ x ∈ o.floats, x.isFinite = true) → lexemesOf (o.cpp n) = o.lexemes n
  | .none, .none, _ => by
    rw [Else.cpp_none, Else.lexemes]
    rfl
  | .block body, .block hbody, hfinite => by
    have helse : lexemesOf "else" = [.word "else".toList] := by decide
    rw [Else.cpp_block, lexemesOf_append (.inr (broken_labelled n _)), helse, lexemesOf_labelled,
      lexemesOf_cppOfAll (n + 1) body hbody hfinite, Else.lexemes, List.singleton_append]
  | .cond test body otherwise, .cond htest hbody hotherwise, hfinite => by
    obtain ⟨hftest, hfbody, hfother⟩ := forall_mem_append_append.mp hfinite
    have hif : lexemesOf "else\nif (" = [.word "else".toList, .word "if".toList, .mark '('] := by
      decide
    have hended := ((lined_labelled n (cppOfAll (n + 1) body)).append
      ("else\nif (" ++ test.cpp ++ ")")).ended
    rw [Else.cpp_cond, lexemesOf_append (.inl hended),
      lexemesOf_guarded (by decide) (Source.lexemesOf_cpp htest hftest),
      lexemesOf_cppOfAll (n + 1) body hbody hfbody, hif, Else.lexemes,
      otherwise.lexemesOf_cpp (n + 1 + blocksOfAll body) hotherwise hfother]
    simp only [List.append_assoc, List.cons_append, List.nil_append]

theorem lexemesOf_cppOfAll (n : Nat) : (ss : List Stmt) → (∀ s ∈ ss, s.WellFormed) →
    (∀ x ∈ floatsOfAll ss, x.isFinite = true) → lexemesOf (cppOfAll n ss) = lexemesOfAll n ss
  | [], _, _ => by
    rw [cppOfAll_nil, lexemesOfAll]
    rfl
  | s :: ss, hwell, hfinite => by
    obtain ⟨hs, hss⟩ := List.forall_mem_cons.mp hwell
    obtain ⟨hfs, hfss⟩ := List.forall_mem_append.mp hfinite
    rw [cppOfAll_cons, lexemesOf_append (.inl (s.ended_cpp n)), s.lexemesOf_cpp n hs hfs,
      lexemesOf_cppOfAll (n + s.blocks) ss hss hfss, lexemesOfAll]

end

/-! ### Declarations -/

theorem lexemesOf_params {ps : List Param}
    (h : ∀ p ∈ ps, isName p.name = true ∧ isName p.type = true) :
    lexemesOf (", ".intercalate (ps.map fun p => p.type ++ " " ++ p.name))
      = [.mark ','].intercalate (ps.map paramLexemes) := by
  rw [lexemesOf_intercalate, List.map_map]
  refine congrArg _ (List.map_congr_left fun p hp => ?_)
  obtain ⟨hname, htype⟩ := h p hp
  rw [Function.comp_apply, lexemesOf_blank, lexemesOf_isName hname, lexemesOf_isName htype]
  rfl

theorem Function.lexemesOf_cpp (n : Nat) {f : Function} (h : f.WellFormed)
    (hfinite : ∀ x ∈ floatsOfAll f.body, x.isFinite = true) :
    lexemesOf (f.cpp n) = f.lexemes n := by
  have hline : lexemesOf "\n" = [] := by decide
  have hname := isName_mangle h.name
  rw [Function.cpp_eq, lexemesOf_append (.inr (by decide)), lexemesOf_right, lexemesOf_left,
    lexemesOf_blank, lexemesOf_isName h.result, lexemesOf_isName hname, lexemesOf_params h.params,
    lexemesOf_owned hname, lexemesOf_cppOfAll (n + 1) f.body h.body hfinite, hline,
    Function.lexemes]
  simp only [List.cons_append, List.nil_append, List.append_nil]

theorem Item.lexemesOf_cpp (n : Nat) {i : Item} (h : i.WellFormed)
    (hfinite : ∀ x ∈ i.floats, x.isFinite = true) : lexemesOf (i.cpp n) = i.lexemes n := by
  cases i with
  | function f => exact Function.lexemesOf_cpp n h hfinite
  | bind b => exact Binding.lexemesOf_cpp h hfinite

/-- No word goes on behind a declaration. -/
theorem Item.ended_cpp (n : Nat) (i : Item) : Ended (i.cpp n).toList := by
  cases i with
  | function f => exact Lined.ended ⟨_, rfl⟩
  | bind b => exact Stmt.ended_cpp n (.bind b)

/-- The text of some declarations consists of their lexemes, if their literals are finite. -/
theorem lexemesOf_cppOfItems (n : Nat) {items : List Item} (h : ∀ i ∈ items, i.WellFormed)
    (hfinite : ∀ i ∈ items, ∀ x ∈ i.floats, x.isFinite = true) :
    lexemesOf (cppOfItems n items) = lexemesOfItems n items := by
  induction items generalizing n with
  | nil => rfl
  | cons i items ih =>
    obtain ⟨hi, hitems⟩ := List.forall_mem_cons.mp h
    obtain ⟨hfi, hfitems⟩ := List.forall_mem_cons.mp hfinite
    rw [cppOfItems_cons, lexemesOf_append (.inl (i.ended_cpp n)), Item.lexemesOf_cpp n hi hfi,
      ih _ hitems hfitems, lexemesOfItems]

end ToyLang.Source
