import ToyLang.Binary64.Text
import ToyLang.Cpp.Basic
import ToyLang.Cpp.Builtin

/-!
# Rendering C++

The text of a generated file: the builtin functions, the program, and a `main` that calls
the program's entry point.  Expressions get no parentheses beyond their own groups.

Both braces of a block are followed by a comment.  The opening one says `start:` and the
number of the block, and the closing one `end:` and the number; the body of a function has
no first comment and is closed with the name of the function.
-/

namespace ToyLang.Cpp

/-- The words for the two truth values, each after a blank. -/
def boolText (b : Bool) : String := if b then " true" else " false"

mutual

/-- The text of an expression. -/
def Expr.text : Expr → String
  | .int value => toString value.toInt
  | .float value => value.text
  | .bool value => boolText value
  | .ident name => name
  | .call callee args => callee ++ "(" ++ argsText args ++ ")"
  | .arith lhs op rhs => lhs.text ++ op.text ++ rhs.text
  | .compare lhs op rhs => lhs.text ++ op.text ++ rhs.text
  | .assign target value => target ++ " = " ++ value.text
  | .group inner => "(" ++ inner.text ++ ")"

/-- Arguments with commas between them. -/
def argsText : List Expr → String
  | [] => ""
  | e :: es => e.text ++ moreArgsText es

/-- Arguments, each after a comma. -/
def moreArgsText : List Expr → String
  | [] => ""
  | e :: es => ", " ++ e.text ++ moreArgsText es

end

/-- The opening brace of a block with its label. -/
def openBrace (number : Nat) : Option String → String
  | none => "\x7b // start: " ++ toString number
  | some _ => "\x7b"

/-- The closing brace of a block with its label. -/
def closeBrace (number : Nat) : Option String → String
  | none => "\x7d // end: " ++ toString number
  | some owner => "\x7d // end: " ++ owner

mutual

/-- The text of a statement. -/
def Stmt.text : Stmt → String
  | .eval value => value.text ++ ";\n"
  | .ret value => "return " ++ value.text ++ ";\n"
  | .var type name init => type ++ " " ++ name ++ " = " ++ init.text ++ ";\n"
  | .block body => body.text
  | .ifThen test body => "\nif (" ++ test.text ++ ")" ++ body.text
  | .ifElse test body otherwise =>
      "\nif (" ++ test.text ++ ")" ++ body.text ++ "else" ++ otherwise.text
  | .loop test body => "while (" ++ test.text ++ ")" ++ body.text
  | .count var first bound body =>
      "for (long long " ++ var ++ " = " ++ first.text ++ "; " ++ var ++ " < " ++ bound.text
        ++ "; ++" ++ var ++ ")" ++ body.text

/-- The text of a block. -/
def Block.text : Block → String
  | .mk number owner body =>
      "\n" ++ openBrace number owner ++ "\n" ++ stmtsText body ++ closeBrace number owner
        ++ "\n"

/-- The text of some statements, one after the other. -/
def stmtsText : List Stmt → String
  | [] => ""
  | s :: ss => s.text ++ stmtsText ss

end

section

variable (value test first bound : Expr) (body otherwise : Stmt) (block : Block)

@[simp] theorem Stmt.text_eval : (Stmt.eval value).text = value.text ++ ";\n" := rfl

@[simp] theorem Stmt.text_ret : (Stmt.ret value).text = "return " ++ value.text ++ ";\n" := rfl

@[simp] theorem Stmt.text_var (type name : String) : (Stmt.var type name value).text
    = type ++ " " ++ name ++ " = " ++ value.text ++ ";\n" := rfl

@[simp] theorem Stmt.text_block : (Stmt.block block).text = block.text := rfl

@[simp] theorem Stmt.text_ifThen :
    (Stmt.ifThen test body).text = "\nif (" ++ test.text ++ ")" ++ body.text := rfl

@[simp] theorem Stmt.text_ifElse : (Stmt.ifElse test body otherwise).text
    = "\nif (" ++ test.text ++ ")" ++ body.text ++ "else" ++ otherwise.text := rfl

@[simp] theorem Stmt.text_loop :
    (Stmt.loop test block).text = "while (" ++ test.text ++ ")" ++ block.text := rfl

@[simp] theorem Stmt.text_count (var : String) : (Stmt.count var first bound block).text
    = "for (long long " ++ var ++ " = " ++ first.text ++ "; " ++ var ++ " < " ++ bound.text
      ++ "; ++" ++ var ++ ")" ++ block.text := rfl

theorem Block.text_mk (number : Nat) (owner : Option String) (ss : List Stmt) :
    (Block.mk number owner ss).text
      = "\n" ++ openBrace number owner ++ "\n" ++ stmtsText ss ++ closeBrace number owner
        ++ "\n" := rfl

@[simp] theorem stmtsText_nil : stmtsText [] = "" := rfl

@[simp] theorem stmtsText_cons (s : Stmt) (ss : List Stmt) :
    stmtsText (s :: ss) = s.text ++ stmtsText ss := rfl

end

/-- Parameters, each after a comma. -/
def moreParamsText : List Param → String
  | [] => ""
  | p :: ps => ", " ++ p.text ++ moreParamsText ps

/-- Parameters with commas between them. -/
def paramsText : List Param → String
  | [] => ""
  | p :: ps => p.text ++ moreParamsText ps

/-- The text of a function definition. -/
def Function.text (f : Function) : String :=
  f.result ++ " " ++ f.name ++ "(" ++ paramsText f.params ++ ")" ++ f.body.text ++ "\n"

/-- The text of a declaration at the top level. -/
def Item.text : Item → String
  | .function f => f.text
  | .stmt s => s.text

/-- The text of some declarations and statements at the top level. -/
def itemsText : List Item → String
  | [] => ""
  | i :: is => i.text ++ itemsText is

/-- What every file begins with. -/
def opening : String :=
  "#include <iostream>\n\n" ++ "\n".intercalate (Builtin.all.map Builtin.definition)

/-- What every file ends with. -/
def closing : String :=
  "int main(int argc, char** argv) \x7b\n" ++ mangle entryPoint ++ "();\n"
    ++ "return 0;\n"
    ++ "\x7d\n"

/-- The text of the whole file.  The top level has no braces. -/
def File.text (f : File) : String :=
  opening ++ "\n\n" ++ itemsText f.items ++ "\n" ++ closing

end ToyLang.Cpp
