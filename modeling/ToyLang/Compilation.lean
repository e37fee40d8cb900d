import ToyLang.Cpp.Render
import ToyLang.Lowering
import ToyLang.Source.Grammar

/-!
# Compilation

From declarations, or from a program graph, to the text of a C++ file, with the events that a log
of the run would show.

## Main definitions

* `Event` — what a run reports about its stages.
* `Program.render` — a program as C++ text.
* `Ast.compile`, `compile` — declarations as C++ text.
-/

namespace ToyLang

/-- What a compilation reports about its stages. -/
inductive Event where
  /-- The declarations of a source file became a graph. -/
  | lowered (items : Nat)
  /-- A program passed its check. -/
  | checked (functions blocks : Nat)
  deriving DecidableEq, Repr

/-- The wording of an event. -/
def Event.message : Event → String
  | lowered items => "lowered " ++ toString items ++ " top-level item(s)"
  | checked functions blocks =>
      "validated " ++ toString functions ++ " function(s), " ++ toString blocks ++ " block(s)"

/-- A result with the events on the way to it. -/
structure Logged (α : Type) where
  result : Except Error α
  events : List Event

namespace Program

/-- Check a program; passing the check is an event. -/
def checkLogged (p : Program) : Logged Checked :=
  match p.check with
  | .error e => ⟨.error e, []⟩
  | .ok c => ⟨.ok c, [.checked c.functions c.blocks]⟩

/-- Check a program and render it. -/
def render (p : Program) : Logged String :=
  let checked := p.checkLogged
  ⟨checked.result.map fun c => c.file.text, checked.events⟩

end Program

/-- The C++ text of declarations. -/
def Ast.compile (items : List Item) : Logged String :=
  let program := toProgram items
  let rendered := program.render
  ⟨rendered.result,
    .lowered (program.graph.block program.root).stmts.length :: rendered.events⟩

/-- The C++ text of the declarations of a source file. -/
def compile (items : List Source.Item) : Logged String := Ast.compile (items.map Source.Item.ast)

end ToyLang
