import ToyLang.Compilation
import ToyLang.Proofs.Walk

/-!
# The text of a compiled program

Compilation goes through a graph and a walk over it; what comes out is what the direct
printer prints, whatever tree is handed over.

## Main results

* `Ast.compile_eq`, `Source.compile_eq` — compilation as a function of the tree.
* `compile_text` — **the text of a compiled program is printed directly from the tree.**
-/

namespace ToyLang

namespace Ast

theorem length_of_itemsAreAt {g : Graph} {n : Nat} {is : List Item} {refs : List StmtRef}
    (h : ItemsAreAt g n is refs) : refs.length = is.length := by
  induction is generalizing n refs with
  | nil =>
    obtain rfl := h
    rfl
  | cons i is ih =>
    obtain ⟨r, rs, rfl, -, his⟩ := h
    simp [ih his]

/-- The number of items that the top level of the program holds. -/
theorem length_root (items : List Item) :
    ((toProgram items).graph.block (toProgram items).root).stmts.length = items.length := by
  obtain ⟨refs, hroot, hblock, hitems, -⟩ := toProgram_isAt items
  rw [hroot, block_eq hblock]
  exact length_of_itemsAreAt hitems

/-- Compilation without the graph. -/
theorem compile_eq (items : List Item) : compile items =
    match firstFault [] (checkpoints items) with
    | some e => ⟨.error e, [.lowered items.length]⟩
    | none =>
      if "main__func__" ∈ functionNames items then
        ⟨.ok (cppFile items), [.lowered items.length,
          .checked (functionNames items).length (1 + blocksOfItems items)]⟩
      else ⟨.error (.missingEntryPoint "main"), [.lowered items.length]⟩ := by
  rw [compile, length_root, Program.render, Program.checkLogged, check_toProgram]
  cases firstFault [] (checkpoints items) with
  | some e => rfl
  | none =>
    by_cases hentry : "main__func__" ∈ functionNames items
    · simp [hentry, Except.map, text_fileTarget]
    · simp [hentry, Except.map]

/-- **The text of a compiled program is the one that the direct printer prints.** -/
theorem compile_text {items : List Item} {text : String}
    (h : (compile items).result = .ok text) : text = cppFile items := by
  rw [compile_eq] at h
  split at h
  · cases h
  · split at h
    · exact (Except.ok.inj h).symm
    · cases h

/-- A program with blocks inside blocks.  An operator is no token, and a bare statement follows an
`else`. -/
def looseProgram : List Item :=
  [.function ⟨"main", [], "int",
    [.cond (.ident "a") [.block []] (some (.eval (.call "main" []))),
      .ret (.arith "%" (.ident "n") (.compare "<" (.int 1) (.bool true)))]⟩]

/-- The declarations of that program in C++. -/
def looseText : String :=
  "int main__func__()\n\x7b\n\nif (a)\n\x7b // start: 2\n\n\x7b // start: 3\n\x7d // end: 3\n" ++
  "\x7d // end: 2\nelsemain__func__();\nreturn n <unknown binary op `%`> 1 <  true;\n" ++
  "\x7d // end: main__func__\n\n"

theorem cppOfItems_looseProgram : cppOfItems 1 looseProgram = looseText := by
  decide +kernel

theorem compile_text_looseProgram :
    (compile looseProgram).result = .ok (prelude ++ "\n\n" ++ looseText ++ "\n" ++ epilogue) ∧
    prelude ++ "\n\n" ++ looseText ++ "\n" ++ epilogue = cppFile looseProgram := by
  have hfault : firstFault [] (checkpoints looseProgram) = none := by decide
  have hentry : "main__func__" ∈ functionNames looseProgram := by decide
  have hrun : (compile looseProgram).result
      = .ok (prelude ++ "\n\n" ++ looseText ++ "\n" ++ epilogue) := by
    rw [compile_eq, hfault, if_pos hentry, cppFile, cppOfItems_looseProgram]
  exact ⟨hrun, compile_text hrun⟩

end Ast

namespace Source

/-- Compilation of a source file without the graph. -/
theorem compile_eq (items : List Item) : compile items =
    match Ast.firstFault [] (checkpoints items) with
    | some e => ⟨.error e, [.lowered items.length]⟩
    | none =>
      if "main__func__" ∈ functionNames items then
        ⟨.ok (cppFile items), [.lowered items.length,
          .checked (functionNames items).length (1 + blocksOfItems items)]⟩
      else ⟨.error (.missingEntryPoint "main"), [.lowered items.length]⟩ := by
  have hcompile := Ast.compile_eq (items.map Item.ast)
  rwa [List.length_map] at hcompile

end Source

end ToyLang
