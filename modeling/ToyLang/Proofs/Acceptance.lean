import ToyLang.Proofs.Translation

/-!
# Which programs are accepted

A program is accepted if the names of its functions are free and distinct, one of
them is the entry point, and its floating-point literals are finite.  Otherwise the cause
that is reported is the first one in the order of the tree, where a function's name comes
before its body; a missing entry point counts last.

## Main definitions

* `Faultless` — what the names and the literals of an accepted program satisfy.
* `Checkpoint.Fails` — what is wrong at a checkpoint, given those before it.
* `FailsFirst` — where something is wrong first.

## Main results

* `firstFault_eq_none_iff`, `firstFault_eq_some_iff` — the walk over the checkpoints.
* `clear_checkpoints` — no checkpoint fails in a faultless program, and only there.
* `compile_accepts_iff` — **acceptance, the cause of a refusal, and the counts.**
-/

namespace ToyLang

namespace Ast

/-! ### What is wrong with a program -/

/-- The floating-point literals of a program, in order. -/
def literals (items : List Item) : List Binary64 := items.flatMap Item.floats

/-- The functions of a program have distinct names, other than those of the builtin
functions, and its literals are finite. -/
structure Faultless (items : List Item) : Prop where
  distinct : (functionNames items).Nodup
  free : ∀ n ∈ functionNames items, n ≠ "printi" ∧ n ≠ "printd"
  finite : ∀ x ∈ literals items, x.isFinite = true

/-- What is wrong at a checkpoint, given the checkpoints before it. -/
def Checkpoint.Fails (before : List Checkpoint) : Checkpoint → Prop
  | .name n => n = "printi" ∨ n = "printd" ∨ .name n ∈ before
  | .literal x => x.isFinite = false

/-- The cause of a refusal at a checkpoint. -/
def Checkpoint.cause : Checkpoint → Error
  | .name n => .duplicateFunction n
  | .literal x => .nonFiniteFloat x.text

/-- Behind the checkpoints `before`, none of `cs` fails. -/
def Clear (before cs : List Checkpoint) : Prop :=
  ∀ fine c after, cs = fine ++ c :: after → ¬ c.Fails (before ++ fine)

/-- Behind the checkpoints `before`, the first one of `cs` that fails has the cause `e`. -/
def FailsFirst (before cs : List Checkpoint) (e : Error) : Prop :=
  ∃ fine c after, cs = fine ++ c :: after ∧ Clear before fine ∧ c.Fails (before ++ fine) ∧
    c.cause = e

variable {before : List Checkpoint} {names : List String}

@[simp] theorem clear_nil : Clear before [] := by
  intro fine c after h
  simp at h

theorem clear_cons {c : Checkpoint} {cs : List Checkpoint} :
    Clear before (c :: cs) ↔ ¬ c.Fails before ∧ Clear (before ++ [c]) cs := by
  constructor
  · intro hclear
    refine ⟨by simpa using hclear [] c cs rfl, ?_⟩
    rintro fine c' after rfl
    simpa using hclear (c :: fine) c' after rfl
  · rintro ⟨hc, hclear⟩ fine c' after h
    cases fine with
    | nil =>
      obtain ⟨rfl, -⟩ := List.cons.inj h
      simpa using hc
    | cons d fine =>
      obtain ⟨rfl, h⟩ := List.cons.inj h
      simpa using hclear fine c' after (by simpa using h)

theorem not_failsFirst_nil {e : Error} : ¬ FailsFirst before [] e := by
  rintro ⟨fine, c, after, h, -⟩
  simp at h

theorem failsFirst_cons {c : Checkpoint} {cs : List Checkpoint} {e : Error} :
    FailsFirst before (c :: cs) e ↔
      c.Fails before ∧ c.cause = e ∨ ¬ c.Fails before ∧ FailsFirst (before ++ [c]) cs e := by
  constructor
  · rintro ⟨fine, c', after, h, hclear, hfails, hcause⟩
    cases fine with
    | nil =>
      obtain ⟨rfl, -⟩ := List.cons.inj h
      exact .inl ⟨by simpa using hfails, hcause⟩
    | cons d fine =>
      obtain ⟨rfl, h⟩ := List.cons.inj h
      obtain ⟨hc, hclear⟩ := clear_cons.mp hclear
      exact .inr ⟨hc, fine, c', after, by simpa using h, hclear, by simpa using hfails, hcause⟩
  · rintro (⟨hfails, hcause⟩ | ⟨hc, fine, c', after, rfl, hclear, hfails, hcause⟩)
    · exact ⟨[], c, cs, rfl, clear_nil, by simpa using hfails, hcause⟩
    · exact ⟨c :: fine, c', after, rfl, clear_cons.mpr ⟨hc, hclear⟩, by simpa using hfails,
        hcause⟩

/-! ### The walk over the checkpoints -/

theorem isBuiltinName_iff (n : String) :
    Cpp.isBuiltinName n = true ↔ n = "printi" ∨ n = "printd" := by
  have hint : Cpp.Builtin.printInt.name = "printi" := by decide
  have hfloat : Cpp.Builtin.printFloat.name = "printd" := by decide
  simp only [Cpp.isBuiltinName, Cpp.Builtin.all, List.any_cons, List.any_nil, Bool.or_false,
    Bool.or_eq_true, decide_eq_true_eq, hint, hfloat, eq_comm (a := n)]

/-- The names that are taken are those of the checkpoints before. -/
def Takes (before : List Checkpoint) (names : List String) : Prop :=
  ∀ n, n ∈ names ↔ .name n ∈ before

theorem Takes.name (h : Takes before names) (n : String) :
    Takes (before ++ [.name n]) (n :: names) := by
  intro m
  simp [h m, or_comm]

theorem Takes.literal (h : Takes before names) (x : Binary64) :
    Takes (before ++ [.literal x]) names := by
  intro m
  simp [h m]

theorem Takes.fails_iff (h : Takes before names) (n : String) :
    (Checkpoint.name n).Fails before ↔ Cpp.isBuiltinName n ∨ n ∈ names := by
  rw [Checkpoint.Fails, isBuiltinName_iff, h n, or_assoc]

/-- The walk finds nothing exactly where no checkpoint fails. -/
theorem firstFault_eq_none_iff (h : Takes before names) (cs : List Checkpoint) :
    firstFault names cs = none ↔ Clear before cs := by
  induction cs generalizing before names with
  | nil => simp [firstFault]
  | cons c cs ih =>
    rw [clear_cons]
    cases c with
    | name n =>
      rw [firstFault, h.fails_iff, ← ih (h.name n)]
      split <;> simp_all
    | literal x =>
      rw [firstFault, Checkpoint.Fails, ← ih (h.literal x)]
      split <;> simp_all

/-- The walk finds the cause of the first checkpoint that fails. -/
theorem firstFault_eq_some_iff (h : Takes before names) (cs : List Checkpoint) (e : Error) :
    firstFault names cs = some e ↔ FailsFirst before cs e := by
  induction cs generalizing before names with
  | nil => simp [firstFault, not_failsFirst_nil]
  | cons c cs ih =>
    rw [failsFirst_cons]
    cases c with
    | name n =>
      rw [firstFault, h.fails_iff, ← ih (h.name n)]
      split <;> simp_all [Checkpoint.cause]
    | literal x =>
      rw [firstFault, Checkpoint.Fails, ← ih (h.literal x)]
      split <;> simp_all [Checkpoint.cause]

/-! ### Faultless programs -/

/-- The name at a checkpoint, if it is one of a function. -/
def Checkpoint.name? : Checkpoint → Option String
  | .name n => some n
  | .literal _ => none

/-- The literal at a checkpoint, if it is one. -/
def Checkpoint.literal? : Checkpoint → Option Binary64
  | .name _ => none
  | .literal x => some x

@[simp] theorem Checkpoint.name?_name (n : String) : (name n).name? = some n := rfl

@[simp] theorem Checkpoint.name?_literal (x : Binary64) : (literal x).name? = none := rfl

@[simp] theorem Checkpoint.literal?_name (n : String) : (name n).literal? = none := rfl

@[simp] theorem Checkpoint.literal?_literal (x : Binary64) : (literal x).literal? = some x := rfl

theorem clear_iff (cs : List Checkpoint) : Clear before cs ↔
    (cs.filterMap Checkpoint.name?).Nodup ∧
    (∀ n ∈ cs.filterMap Checkpoint.name?, ¬ (Checkpoint.name n).Fails before) ∧
    ∀ x ∈ cs.filterMap Checkpoint.literal?, x.isFinite = true := by
  induction cs generalizing before with
  | nil => simp
  | cons c cs ih =>
    rw [clear_cons, ih]
    cases c with
    | literal x =>
      simp only [List.filterMap_cons, Checkpoint.name?_literal, Checkpoint.literal?_literal,
        List.forall_mem_cons, Checkpoint.Fails, Bool.not_eq_false]
      simp only [List.mem_append, List.mem_singleton, reduceCtorEq, or_false]
      tauto
    | name n =>
      simp only [List.filterMap_cons, Checkpoint.name?_name, Checkpoint.literal?_name,
        List.forall_mem_cons, List.nodup_cons, Checkpoint.Fails]
      simp only [List.mem_append, List.mem_singleton, Checkpoint.name.injEq, not_or]
      constructor
      · rintro ⟨hn, hdistinct, hnames, hliterals⟩
        refine ⟨⟨fun hmem => (hnames n hmem).2.2.2 rfl, hdistinct⟩, ⟨hn, fun m hm => ?_⟩,
          hliterals⟩
        obtain ⟨hint, hfloat, htaken, -⟩ := hnames m hm
        exact ⟨hint, hfloat, htaken⟩
      · rintro ⟨⟨hfresh, hdistinct⟩, ⟨hn, hnames⟩, hliterals⟩
        refine ⟨hn, hdistinct, fun m hm => ?_, hliterals⟩
        obtain ⟨hint, hfloat, htaken⟩ := hnames m hm
        exact ⟨hint, hfloat, htaken, fun hmn => hfresh (hmn ▸ hm)⟩

theorem names_checkpoints (items : List Item) :
    (checkpoints items).filterMap Checkpoint.name? = functionNames items := by
  have hliterals (xs : List Binary64) :
      (xs.map Checkpoint.literal).filterMap Checkpoint.name? = [] := by
    simp [List.filterMap_map]
  rw [checkpoints, functionNames, List.filterMap_flatMap]
  congr 1
  funext i
  cases i <;> simp [Item.checkpoints, Item.names, hliterals]

theorem literals_checkpoints (items : List Item) :
    (checkpoints items).filterMap Checkpoint.literal? = literals items := by
  have hliterals (xs : List Binary64) :
      (xs.map Checkpoint.literal).filterMap Checkpoint.literal? = xs := by
    simp [List.filterMap_map, Function.comp_def]
  rw [checkpoints, literals, List.filterMap_flatMap]
  congr 1
  funext i
  cases i <;> simp [Item.checkpoints, Item.floats, List.filterMap_cons, hliterals]

/-- No checkpoint fails in a faultless program, and only there. -/
theorem clear_checkpoints (items : List Item) :
    Clear [] (checkpoints items) ↔ Faultless items := by
  rw [clear_iff, names_checkpoints, literals_checkpoints]
  constructor
  · rintro ⟨hdistinct, hfree, hfinite⟩
    refine ⟨hdistinct, fun n hn => ?_, hfinite⟩
    have h := hfree n hn
    simp only [Checkpoint.Fails, not_or] at h
    exact ⟨h.1, h.2.1⟩
  · rintro ⟨hdistinct, hfree, hfinite⟩
    refine ⟨hdistinct, fun n hn => ?_, hfinite⟩
    obtain ⟨hint, hfloat⟩ := hfree n hn
    simp [Checkpoint.Fails, hint, hfloat]

/-! ### Acceptance -/

theorem firstFault_checkpoints_eq_none (items : List Item) :
    firstFault [] (checkpoints items) = none ↔ Faultless items :=
  (firstFault_eq_none_iff (by simp [Takes]) _).trans (clear_checkpoints items)

theorem firstFault_checkpoints_eq_some (items : List Item) (e : Error) :
    firstFault [] (checkpoints items) = some e ↔ FailsFirst [] (checkpoints items) e :=
  firstFault_eq_some_iff (by simp [Takes]) _ e

/-- A checkpoint fails for its name or for its literal. -/
theorem FailsFirst.cause {cs : List Checkpoint} {e : Error} (h : FailsFirst before cs e) :
    (∃ n, e = .duplicateFunction n) ∨ ∃ text, e = .nonFiniteFloat text := by
  obtain ⟨fine, c, after, -, -, -, rfl⟩ := h
  cases c with
  | name n => exact .inl ⟨n, rfl⟩
  | literal x => exact .inr ⟨x.text, rfl⟩

/-- What a compilation gives for a faultless program that has an entry point. -/
theorem compile_of_faultless {items : List Item} (h : Faultless items)
    (hentry : "main__func__" ∈ functionNames items) :
    compile items = ⟨.ok (cppFile items), [.lowered items.length,
      .checked (functionNames items).length (1 + blocksOfItems items)]⟩ := by
  rw [compile_eq, (firstFault_checkpoints_eq_none items).mpr h, if_pos hentry]

/-- What is reported for a program, if anything is. -/
theorem compile_result_eq_error_iff (items : List Item) (e : Error) :
    (compile items).result = .error e ↔ FailsFirst [] (checkpoints items) e ∨
      Faultless items ∧ "main__func__" ∉ functionNames items ∧ e = .missingEntryPoint "main" := by
  rw [compile_eq, ← firstFault_checkpoints_eq_some, ← firstFault_checkpoints_eq_none]
  cases hfault : firstFault [] (checkpoints items) with
  | some e' => simp
  | none =>
    by_cases hentry : "main__func__" ∈ functionNames items
    · simp [hentry]
    · simp [hentry, eq_comm]

/-- **Acceptance, the cause of a refusal, and the counts.**  The cause is the first one in
the order of the tree; a missing entry point is reported where there is no other. -/
theorem compile_accepts_iff (items : List Item) :
    ((∃ text, (compile items).result = .ok text) ↔
      Faultless items ∧ "main__func__" ∈ functionNames items) ∧
    (∀ e, (compile items).result = .error e ↔ FailsFirst [] (checkpoints items) e ∨
      Faultless items ∧ "main__func__" ∉ functionNames items ∧ e = .missingEntryPoint "main") ∧
    (∀ e, (compile items).result = .error e →
      (∀ n, e = .missingEntryPoint n → Faultless items) ∧ (∀ n, e ≠ .missingInitializer n) ∧
      (∀ n, e ≠ .nestedFunction n) ∧ ∀ b, e ≠ .sharedBlock b) ∧
    (∀ text, (compile items).result = .ok text → (compile items).events =
      [.lowered items.length,
        .checked (functionNames items).length (1 + blocksOfItems items)]) := by
  have hok : (∃ text, (compile items).result = .ok text) ↔
      Faultless items ∧ "main__func__" ∈ functionNames items := by
    constructor
    · rintro ⟨text, htext⟩
      have hno : ∀ e, ¬ (compile items).result = .error e := by simp [htext]
      have hfaultless : Faultless items := by
        rw [← firstFault_checkpoints_eq_none, Option.eq_none_iff_forall_ne_some]
        intro e he
        rw [firstFault_checkpoints_eq_some] at he
        exact hno e ((compile_result_eq_error_iff items e).mpr (.inl he))
      refine ⟨hfaultless, Classical.byContradiction fun hentry => ?_⟩
      exact hno _ ((compile_result_eq_error_iff items _).mpr (.inr ⟨hfaultless, hentry, rfl⟩))
    · rintro ⟨hfaultless, hentry⟩
      exact ⟨cppFile items, by rw [compile_of_faultless hfaultless hentry]⟩
  refine ⟨hok, compile_result_eq_error_iff items, fun e he => ?_, fun text htext => ?_⟩
  · rcases (compile_result_eq_error_iff items e).mp he with hfails | ⟨hfaultless, -, rfl⟩
    · obtain ⟨n, rfl⟩ | ⟨x, rfl⟩ := hfails.cause <;> simp
    · simp [hfaultless]
  · obtain ⟨hfaultless, hentry⟩ := hok.mp ⟨text, htext⟩
    rw [compile_of_faultless hfaultless hentry]

end Ast

namespace Source

/-! ### Source files -/

/-- The floating-point literals of a source file, in order. -/
def literals (items : List Item) : List Binary64 := items.flatMap Item.floats

/-- Nothing is wrong with a source file, but that it may lack an entry point. -/
abbrev Faultless (items : List Item) : Prop := Ast.Faultless (items.map Item.ast)

theorem Faultless.literals_finite {items : List Item} (h : Faultless items) :
    ∀ x ∈ literals items, x.isFinite = true := by
  have hsame : Ast.literals (items.map Item.ast) = literals items := by
    rw [Ast.literals, List.flatMap_map]
    rfl
  exact hsame ▸ h.finite

theorem Faultless.floats_finite {items : List Item} (h : Faultless items) :
    ∀ i ∈ items, ∀ x ∈ i.floats, x.isFinite = true :=
  List.forall_mem_flatMap.mp h.literals_finite

/-- A source file with an entry point is compiled if the walk over its checkpoints finds nothing. -/
theorem compile_of_firstFault {items : List Item}
    (hfault : Ast.firstFault [] (checkpoints items) = none)
    (hentry : "main__func__" ∈ functionNames items) :
    (compile items).result = .ok (cppFile items) := by
  rw [compile_eq, hfault, if_pos hentry]

/-- What is compiled is faultless, and printed by the direct printer. -/
theorem faultless_of_compile {items : List Item} {text : String}
    (h : (compile items).result = .ok text) : Faultless items ∧ text = cppFile items := by
  rw [compile_eq] at h
  split at h
  · cases h
  · next hfault =>
    split at h
    · exact ⟨(Ast.firstFault_checkpoints_eq_none _).mp hfault, (Except.ok.inj h).symm⟩
    · cases h

end Source

end ToyLang
