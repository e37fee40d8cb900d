/-!
# Names of functions in C++

The generated file defines a `main` of its own, which calls the user's entry point; so
the user's `main` gets another name there.  Two functions that print a number are defined at
the top of every generated file; no program may define them again.
-/

namespace ToyLang.Cpp

/-! ### Mangling -/

/-- The name under which a source program declares its entry point. -/
def entryPoint : String := "main"

/-- The name in C++ of a function with a given name in the source. -/
def mangle (name : String) : String :=
  if name = entryPoint then name ++ "__func__" else name

/-- No function keeps the name of the generated entry point. -/
theorem mangle_ne_entryPoint (name : String) : mangle name ≠ entryPoint := by
  unfold mangle
  split
  · subst_vars; decide
  · assumption

/-! ### Builtin functions -/

/-- A function that every generated file defines. -/
inductive Builtin where
  | printInt
  | printFloat
  deriving DecidableEq, Repr

namespace Builtin

/-- The builtin functions in the order of their definitions. -/
def all : List Builtin := [printInt, printFloat]

/-- The name under which a program calls the function. -/
def name : Builtin → String
  | printInt => mangle "printi"
  | printFloat => mangle "printd"

/-- The type in C++ of its one parameter. -/
def argumentType : Builtin → String
  | printInt => "long long"
  | printFloat => "double"

/-- The definition of the function. -/
def definition (b : Builtin) : String :=
  "void " ++ b.name ++ "(" ++ b.argumentType ++ " arg) \x7b\n"
    ++ "std::cout << arg << std::endl;\n"
    ++ "\x7d\n"

end Builtin

/-- Whether a function name in C++ belongs to a builtin function. -/
def isBuiltinName (name : String) : Bool := Builtin.all.any fun b => b.name = name

end ToyLang.Cpp
