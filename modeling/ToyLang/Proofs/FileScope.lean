import Mathlib.Data.List.Nodup
import ToyLang.Proofs.Faithfulness

/-!
# Names at file scope

A generated file consists of definitions: the builtin functions, what the program declares at its
top level, and the `main` that calls the entry point of the program.  The names of functions reach
the file changed where they would clash, and are checked; the names of variables reach it as they
were written, and nothing asks whether another definition has the same name.

So each function is defined once, whatever the program is, and the call in the generated `main`
finds one function.  Which variables are defined at the top level, and what parameters the entry
point has, is left to the program.

## Main definitions

* `Definition` — a definition at file scope.
* `definitions` — those of a generated file, in order.
* `functionsIn`, `variablesIn` — the names of the functions and of the variables among them.

## Main results

* `definitions_of_compile` — no two functions have the same name; what it takes that no two
  definitions have.
* `entryPoint_of_compile` — the one function that the generated `main` calls.
-/

namespace ToyLang.Source

/-! ### Definitions -/

/-- A definition at file scope: of a function or of a variable, with its type, its name, and what
follows the name. -/
structure Definition where
  isFunction : Bool
  type : String
  name : String
  rest : String
  deriving DecidableEq, Repr

/-- The text of a definition. -/
def Definition.text (d : Definition) : String := d.type ++ " " ++ d.name ++ d.rest

/-- The parameters of a function in C++. -/
def Function.parameters (f : Function) : String :=
  ", ".intercalate (f.params.map fun p => p.type ++ " " ++ p.name)

/-- What defines a function in C++, before the body of which `n` blocks open. -/
def Function.definition (n : Nat) (f : Function) : Definition where
  isFunction := true
  type := f.result
  name := Cpp.mangle f.name
  rest := "(" ++ f.parameters ++ ")" ++ owned (Cpp.mangle f.name) (cppOfAll (n + 1) f.body) ++ "\n"

/-- What defines a variable in C++. -/
def Binding.definition (b : Binding) : Definition where
  isFunction := false
  type := b.type
  name := b.name
  rest := " = " ++ b.init.cpp ++ ";\n"

/-- The definition that a declaration at the top level becomes. -/
def Item.definition (n : Nat) : Item → Definition
  | .function f => f.definition n
  | .bind b => b.definition

/-- The definitions that some declarations become. -/
def definitionsOfItems (n : Nat) : List Item → List Definition
  | [] => []
  | i :: is => i.definition n :: definitionsOfItems (n + i.blocks) is

/-- The definition of a builtin function. -/
def builtinDefinition (b : Cpp.Builtin) : Definition where
  isFunction := true
  type := "void"
  name := b.name
  rest := "(" ++ b.argumentType ++ " arg) \x7b\nstd::cout << arg << std::endl;\n\x7d\n"

/-- The definition of the generated `main`, which calls a function without arguments. -/
def mainDefinition (callee : String) : Definition where
  isFunction := true
  type := "int"
  name := "main"
  rest := "(int argc, char** argv) \x7b\n" ++ callee ++ "();\nreturn 0;\n\x7d\n"

/-- The definitions at file scope of a generated file, in order. -/
def definitions (items : List Item) : List Definition :=
  Cpp.Builtin.all.map builtinDefinition ++ definitionsOfItems 1 items
    ++ [mainDefinition "main__func__"]

/-- The names of the functions among some definitions. -/
def functionsIn (ds : List Definition) : List String :=
  (ds.filter fun d => d.isFunction).map Definition.name

/-- The names of the variables among some definitions. -/
def variablesIn (ds : List Definition) : List String :=
  (ds.filter fun d => !d.isFunction).map Definition.name

/-- The file that consists of the builtin functions, some definitions, and a `main` that calls the
entry point. -/
def fileOf (ds : List Definition) : String :=
  "#include <iostream>\n\n"
    ++ "\n".intercalate (Cpp.Builtin.all.map fun b => (builtinDefinition b).text) ++ "\n\n"
    ++ String.join (ds.map Definition.text) ++ "\n" ++ (mainDefinition "main__func__").text

/-! ### Their texts -/

theorem Item.text_definition (n : Nat) (i : Item) : (i.definition n).text = i.cpp n := by
  cases i with
  | function f =>
    simp only [definition, Function.definition, Definition.text, Item.cpp_function,
      Function.cpp_eq, Function.parameters, String.append_assoc]
  | bind b =>
    simp only [definition, Binding.definition, Definition.text, Item.cpp_bind, Binding.cpp_eq,
      String.append_assoc]

theorem join_definitionsOfItems (n : Nat) (items : List Item) :
    String.join ((definitionsOfItems n items).map Definition.text) = cppOfItems n items := by
  induction items generalizing n with
  | nil => rfl
  | cons i is ih =>
    rw [definitionsOfItems, List.map_cons, String.join_cons, ih, Item.text_definition,
      cppOfItems_cons]

theorem prelude_eq : prelude = "#include <iostream>\n\n"
    ++ "\n".intercalate (Cpp.Builtin.all.map fun b => (builtinDefinition b).text) := by
  decide +kernel

theorem epilogue_eq : epilogue = (mainDefinition "main__func__").text := by decide +kernel

theorem cppFile_eq_fileOf (items : List Item) :
    cppFile items = fileOf (definitionsOfItems 1 items) := by
  unfold fileOf
  rw [join_definitionsOfItems, ← prelude_eq, ← epilogue_eq, cppFile_eq]

/-! ### Their names -/

theorem functionsIn_append (ds ds' : List Definition) :
    functionsIn (ds ++ ds') = functionsIn ds ++ functionsIn ds' := by
  rw [functionsIn, List.filter_append, List.map_append]
  rfl

theorem functionsIn_definitionsOfItems (n : Nat) (items : List Item) :
    functionsIn (definitionsOfItems n items) = functionNames items := by
  induction items generalizing n with
  | nil => rfl
  | cons i is ih =>
    rw [definitionsOfItems, ← List.singleton_append, functionsIn_append, ih]
    cases i <;> rfl

theorem functionsIn_definitions (items : List Item) : functionsIn (definitions items)
    = ["printi", "printd"] ++ functionNames items ++ ["main"] := by
  have hbuiltins : functionsIn (Cpp.Builtin.all.map builtinDefinition) = ["printi", "printd"] := by
    decide
  rw [definitions, functionsIn_append, functionsIn_append, functionsIn_definitionsOfItems,
    hbuiltins]
  rfl

/-- The names of all definitions are distinct if those of the functions are, those of the variables
are, and no variable has the name of a function. -/
theorem nodup_names_iff (ds : List Definition) : (ds.map Definition.name).Nodup ↔
    (functionsIn ds).Nodup ∧ (variablesIn ds).Nodup ∧ ∀ v ∈ variablesIn ds, v ∉ functionsIn ds := by
  have hperm := (List.filter_append_perm (fun d : Definition => d.isFunction) ds).map
    Definition.name
  rw [← hperm.nodup_iff, List.map_append, List.nodup_append]
  refine and_congr_right fun _ => and_congr_right fun _ => ?_
  constructor
  · exact fun hdisjoint v hv hf => hdisjoint v hf v hv rfl
  · rintro hdisjoint f hf v hv rfl
    exact hdisjoint f hv hf

/-- The name of the variable that a declaration declares, if it does. -/
def Item.variable? : Item → Option String
  | .function _ => none
  | .bind b => some b.name

theorem variablesIn_append (ds ds' : List Definition) :
    variablesIn (ds ++ ds') = variablesIn ds ++ variablesIn ds' := by
  rw [variablesIn, List.filter_append, List.map_append]
  rfl

/-- Variables have the names that they were written with. -/
theorem variablesIn_definitions (items : List Item) :
    variablesIn (definitions items) = items.filterMap Item.variable? := by
  have hitems (n : Nat) :
      variablesIn (definitionsOfItems n items) = items.filterMap Item.variable? := by
    induction items generalizing n with
    | nil => rfl
    | cons i is ih =>
      rw [definitionsOfItems, ← List.singleton_append, variablesIn_append, ih]
      cases i <;> rfl
  have hbuiltins : variablesIn (Cpp.Builtin.all.map builtinDefinition) = [] := by decide
  have hmain : variablesIn [mainDefinition "main__func__"] = [] := rfl
  rw [definitions, variablesIn_append, variablesIn_append, hitems, hbuiltins, hmain,
    List.nil_append, List.append_nil]

/-! ### Compiled programs -/

section

variable {items : List Item} {cpp : String} (h : (compile items).result = .ok cpp)

include h

theorem entryPoint_mem_of_compile : "main__func__" ∈ functionNames items := by
  rw [compile_eq] at h
  split at h
  · cases h
  · split at h
    · next hentry => exact hentry
    · cases h

/-- The names of functions are checked, and those of the program are never that of the generated
`main`. -/
theorem nodup_functionsIn_of_compile : (functionsIn (definitions items)).Nodup := by
  obtain ⟨hfaultless, -⟩ := faultless_of_compile h
  have hmain : "main" ∉ ["printi", "printd"] ++ functionNames items := by
    intro hmem
    rcases List.mem_append.mp hmem with hmem | hmem
    · simp at hmem
    · obtain ⟨i, -, hi⟩ := List.mem_flatMap.mp hmem
      cases i with
      | function f => exact Cpp.mangle_ne_entryPoint f.name (List.mem_singleton.mp hi).symm
      | bind b => cases hi
  have hbuiltins : ∀ n ∈ ["printi", "printd"], n ∉ functionNames items := by
    intro n hn hmem
    obtain ⟨hint, hfloat⟩ := hfaultless.free n hmem
    simp [hint, hfloat] at hn
  rw [functionsIn_definitions, List.nodup_append]
  refine ⟨List.nodup_append.mpr ⟨by decide, hfaultless.distinct, ?_⟩, List.nodup_singleton _, ?_⟩
  · rintro n hn m hm rfl
    exact hbuiltins n hn hm
  · rintro n hn m hm rfl
    exact hmain (List.mem_singleton.mp hm ▸ hn)

/-- **Each function at file scope is defined once**, among them those that the file needs for
itself.  Variables keep their names, so the names of all definitions are distinct exactly if no
variable has the name of another one or of a function. -/
theorem definitions_of_compile :
    cpp = fileOf (definitionsOfItems 1 items) ∧
    (functionsIn (definitions items)).Nodup ∧
    (∀ n ∈ ["main", "printi", "printd", "main__func__"],
      (functionsIn (definitions items)).count n = 1) ∧
    variablesIn (definitions items) = items.filterMap Item.variable? ∧
    (((definitions items).map Definition.name).Nodup ↔
      (variablesIn (definitions items)).Nodup ∧
        ∀ v ∈ variablesIn (definitions items), v ∉ functionsIn (definitions items)) := by
  obtain ⟨-, htext⟩ := faultless_of_compile h
  have hnodup := nodup_functionsIn_of_compile h
  have hentry := entryPoint_mem_of_compile h
  have hneeded : ∀ n ∈ ["main", "printi", "printd", "main__func__"],
      n ∈ functionsIn (definitions items) := by
    simp [functionsIn_definitions, hentry]
  refine ⟨htext.trans (cppFile_eq_fileOf items), hnodup, fun n hn => ?_,
    variablesIn_definitions items, ?_⟩
  · exact List.count_eq_one_of_mem hnodup (hneeded n hn)
  · exact (nodup_names_iff _).trans (and_iff_right hnodup)

end

/-- A program with a variable that has the name of a builtin function. -/
def clashing : List Item :=
  [.bind ⟨"printi", "int", .int 1⟩, .function ⟨"main", [], "int", [.ret (.int 0)]⟩]

theorem compile_clashing : (compile clashing).result = .ok (cppFile clashing) :=
  compile_of_firstFault (by decide) (by decide)

theorem definitions_of_compile_clashing :
    (compile clashing).result = .ok (cppFile clashing) ∧
    (functionsIn (definitions clashing)).Nodup ∧
    (functionsIn (definitions clashing)).count "printi" = 1 := by
  obtain ⟨-, hnodup, hneeded, -⟩ := definitions_of_compile compile_clashing
  exact ⟨compile_clashing, hnodup, hneeded "printi" (by decide)⟩

/-- A program that compiles may define one name twice at file scope. -/
theorem names_clash :
    parse "let printi: int = 1;\nfn main() -> int \x7b return 0; \x7d" = .ok clashing ∧
    (compile clashing).result = .ok (cppFile clashing) ∧
    ¬ ((definitions clashing).map Definition.name).Nodup :=
  ⟨by decide +kernel, compile_clashing, by decide⟩

/-! ### The entry point -/

/-- Parameters are written as nothing only if there are none. -/
theorem Function.parameters_eq_empty_iff (f : Function) : f.parameters = "" ↔ f.params = [] := by
  rw [parameters]
  cases f.params <;> simp

theorem functionNames_append (items items' : List Item) :
    functionNames (items ++ items') = functionNames items ++ functionNames items' := by
  simp only [functionNames_eq_flatMap, List.flatMap_append]

theorem mem_functionNames {items : List Item} {g : Function} (hg : .function g ∈ items) :
    Cpp.mangle g.name ∈ functionNames items :=
  functionNames_eq_flatMap items ▸
    List.mem_flatMap.mpr ⟨.function g, hg, List.mem_singleton.mpr rfl⟩

theorem definitionsOfItems_append (n : Nat) (items items' : List Item) :
    definitionsOfItems n (items ++ items')
      = definitionsOfItems n items ++ definitionsOfItems (n + blocksOfItems items) items' := by
  induction items generalizing n with
  | nil => rfl
  | cons i is ih =>
    rw [List.cons_append, definitionsOfItems, ih, definitionsOfItems, blocksOfItems, Nat.add_assoc]
    rfl

/-- **The generated `main` calls the one function that gets the name of the entry point.**  If a
function is declared as `main`, it is this one.  The call passes no argument, while the function
keeps the parameters that it was declared with. -/
theorem entryPoint_of_compile {items : List Item} {cpp : String}
    (h : (compile items).result = .ok cpp) :
    ∃ before f after, items = before ++ .function f :: after ∧
      (∀ g, .function g ∈ before ++ after →
        g.name ≠ "main" ∧ Cpp.mangle g.name ≠ "main__func__") ∧
      Cpp.mangle f.name = "main__func__" ∧
      cpp = fileOf (definitionsOfItems 1 items) ∧
      definitions items
        = Cpp.Builtin.all.map builtinDefinition ++ definitionsOfItems 1 before
          ++ f.definition (1 + blocksOfItems before)
          :: (definitionsOfItems (1 + blocksOfItems before + (Item.function f).blocks) after
            ++ [mainDefinition (Cpp.mangle f.name)]) ∧
      (functionsIn (definitions items)).count (Cpp.mangle f.name) = 1 ∧
      (f.parameters = "" ↔ f.params = []) := by
  have hmem := entryPoint_mem_of_compile h
  rw [functionNames_eq_flatMap] at hmem
  obtain ⟨i, hi, hentry⟩ := List.mem_flatMap.mp hmem
  obtain ⟨before, after, rfl⟩ := List.append_of_mem hi
  obtain ⟨hfaultless, htext⟩ := faultless_of_compile h
  cases i with
  | bind b => cases hentry
  | function f =>
    have hname : Cpp.mangle f.name = "main__func__" := (List.mem_singleton.mp hentry).symm
    have hother : ∀ g, .function g ∈ before ++ after → Cpp.mangle g.name ≠ "main__func__" := by
      have hdistinct : (functionNames (before ++ .function f :: after)).Nodup :=
        hfaultless.distinct
      have hsplit : functionNames (.function f :: after)
          = Cpp.mangle f.name :: functionNames after := rfl
      rw [functionNames_append, hsplit, List.nodup_middle, ← functionNames_append,
        List.nodup_cons, hname] at hdistinct
      intro g hg hsame
      exact hdistinct.1 (hsame ▸ mem_functionNames hg)
    refine ⟨before, f, after, rfl, fun g hg => ⟨fun hmain => ?_, hother g hg⟩, hname,
      htext.trans (cppFile_eq_fileOf _), ?_, ?_, f.parameters_eq_empty_iff⟩
    · exact hother g hg (by rw [hmain]; decide)
    · rw [hname, definitions, definitionsOfItems_append, definitionsOfItems]
      simp only [List.append_assoc, List.cons_append]
      rfl
    · rw [hname]
      refine List.count_eq_one_of_mem (nodup_functionsIn_of_compile h) ?_
      simp [functionsIn_definitions, entryPoint_mem_of_compile h]

/-- A program whose entry point takes a parameter. -/
def withParameter : List Item :=
  [.function ⟨"main", [⟨"n", "int"⟩], "int", [.ret (.ident "n")]⟩]

/-- A program whose entry point has the name in C++ already. -/
def withSuffix : List Item := [.function ⟨"main__func__", [], "int", [.ret (.int 0)]⟩]

theorem compile_withParameter : (compile withParameter).result = .ok (cppFile withParameter) :=
  compile_of_firstFault (by decide) (by decide)

theorem entryPoint_of_compile_withParameter :
    (compile withParameter).result = .ok (cppFile withParameter) ∧
    ∃ f, .function f ∈ withParameter ∧ Cpp.mangle f.name = "main__func__" ∧
      (functionsIn (definitions withParameter)).count (Cpp.mangle f.name) = 1 := by
  obtain ⟨before, f, after, hitems, -, hname, -, -, hcount, -⟩ :=
    entryPoint_of_compile compile_withParameter
  exact ⟨compile_withParameter, f, by simp [hitems], hname, hcount⟩

/-- A program that compiles may have an entry point that takes a parameter, or no function that is
declared as `main`. -/
theorem entryPoint_unchecked :
    (parse "fn main(n: int) -> int \x7b return n; \x7d" = .ok withParameter ∧
      (compile withParameter).result = .ok (cppFile withParameter) ∧
      ∀ f, .function f ∈ withParameter → f.params ≠ []) ∧
    (parse "fn main__func__() -> int \x7b return 0; \x7d" = .ok withSuffix ∧
      (compile withSuffix).result = .ok (cppFile withSuffix) ∧
      ∀ f, .function f ∈ withSuffix → f.name ≠ "main") := by
  refine ⟨⟨by decide +kernel, compile_withParameter, ?_⟩,
    by decide +kernel, compile_of_firstFault (by decide) (by decide), ?_⟩
  · simp [withParameter]
  · simp [withSuffix]

end ToyLang.Source
