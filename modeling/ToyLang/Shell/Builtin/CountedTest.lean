import ToyLang.Shell.Builtin.Test
import ToyLang.Text.Quoted

/-!
# Tests by their number of arguments

Up to four arguments of a test have a meaning that their number decides; more of them are read as
an expression.  The extended shell and the program of the same name differ in their operators and
in their words.

## Main definitions

* `TestStyle` — what differs.
* `countedTest` — the truth of some arguments.
* `test` — the truth of some arguments, in the dialect of the shell.
-/

namespace ToyLang.Shell

open Run Text

/-- How a test is read, and how it complains. -/
structure TestStyle where
  /-- The operators with one operand. -/
  unary : List String
  /-- The operators with two operands. -/
  binary : List String
  /-- Whether the number of arguments decides between parentheses too. -/
  nested : Bool
  /-- Whether whatever looks like an operator with one operand has to be one. -/
  strict : Bool
  /-- Whether numbers have to fit into a word. -/
  bounded : Bool
  /-- An argument is missing behind the last one. -/
  missing : String → String
  unaryExpected : String → String
  binaryExpected : String → String
  closeExpected : String
  closeExpectedAt : String → String
  /-- Something is left over. -/
  surplus : String → String
  badNumber : String → String

/-- The tests of the extended shell. -/
def TestStyle.builtin : TestStyle where
  unary := unaryTests ++ ["-a", "-o", "-v", "-N", "-R"]
  binary := binaryTests ++ ["==", "<", ">"]
  nested := false
  strict := false
  bounded := true
  missing _ := "argument expected"
  unaryExpected a := a ++ ": unary operator expected"
  binaryExpected op := op ++ ": binary operator expected"
  closeExpected := "\x60)' expected"
  closeExpectedAt a := "\x60)' expected, found " ++ a
  surplus a :=
    if a.startsWith "-" then "syntax error: \x60" ++ a ++ "' unexpected" else "too many arguments"
  badNumber text := text ++ ": integer expression expected"

/-- The tests of a program. -/
def TestStyle.program : TestStyle where
  unary := unaryTests ++ ["-N"]
  binary := binaryTests ++ ["=="]
  nested := true
  strict := true
  bounded := false
  missing last := "missing argument after " ++ mentioned last
  unaryExpected a := mentioned a ++ ": unary operator expected"
  binaryExpected op := mentioned op ++ ": binary operator expected"
  closeExpected := mentioned ")" ++ " expected"
  closeExpectedAt a := mentioned ")" ++ " expected, found " ++ mentioned a
  surplus a := "extra argument " ++ mentioned a
  badNumber text := "invalid integer " ++ mentioned text

namespace TestStyle

/-- A number among the arguments. -/
def number (s : TestStyle) (text : String) : Testing Int :=
  match wholeNumber? s.bounded text with
  | some n => pure n
  | none => throwThe String (s.badNumber text)

/-- Whether a text is a dash and a single sign. -/
def looksUnary (text : String) : Bool :=
  match text.toList with
  | ['-', _] => true
  | _ => false

/-- The truth of an operator and its operand, which are the next arguments. -/
def one (s : TestStyle) (op a : String) : Testing Bool := do
  if !s.unary.contains op then throwThe String (s.unaryExpected op)
  -- What is no number is left where it is.
  let taken := if op = "-t" ∧ !s.strict ∧ (wholeNumber? s.bounded a).isNone then 1 else 2
  modify (List.drop taken)
  match op with
  | "-a" => liftM (m := Run) (fileTest "-e" a)
  | "-o" => liftM (m := Run) (isOptionOn a)
  | "-t" =>
      if s.strict then discard (s.number a)
      return false
  | op => liftM (m := Run) (unaryTest op a)

/-- The truth of an operator between its operands, which are the next arguments. -/
def between (s : TestStyle) (a op b : String) : Testing Bool := do
  modify (List.drop 3)
  binaryTest .extended s.number op a b

/-- The truth of two arguments. -/
def two (s : TestStyle) (last a b : String) : Testing Bool := do
  if a = "!" then
    modify (List.drop 2)
    return b = ""
  else if looksUnary a then s.one a b
  else throwThe String (if s.strict then s.missing last else s.unaryExpected a)

/-- The truth of three arguments, given how an expression is read. -/
def three (s : TestStyle) (last a op b : String) (expression : Testing Bool) : Testing Bool := do
  if s.binary.contains op then s.between a op b
  else if (op = "-a" ∨ op = "-o") ∧ !s.strict then
    modify (List.drop 3)
    return if op = "-a" then a ≠ "" && b ≠ "" else a ≠ "" || b ≠ ""
  else if a = "!" then
    modify (List.drop 1)
    return !(← s.two last op b)
  else if a = "(" ∧ b = ")" then
    modify (List.drop 3)
    return op ≠ ""
  else if op = "-a" ∨ op = "-o" then expression
  else throwThe String (s.binaryExpected op)

mutual

/-- The truth of as many arguments as are counted. -/
def counted (s : TestStyle) (last : String) : (depth : Nat) → (count : Nat) → Testing Bool
  | 0, _ => return false
  | depth + 1, count => do
      match (← get).take count with
      | [a] =>
          modify (List.drop 1)
          return a ≠ ""
      | [a, b] =>
          let rest := (← get).drop 2
          let truth ← s.two last a b
          set rest
          return truth
      | [a, op, b] => s.three last a op b (s.anyOf last depth)
      | [a, b, c, d] =>
          if a = "!" then
            modify (List.drop 1)
            return !(← s.three last b c d (s.anyOf last depth))
          else if a = "(" ∧ d = ")" then
            modify (List.drop 1)
            let truth ← s.two last b c
            modify (List.drop 1)
            return truth
          else s.anyOf last depth
      | _ => s.anyOf last depth

/-- The truth of conditions joined by `-o`. -/
def anyOf (s : TestStyle) (last : String) : (depth : Nat) → Testing Bool
  | 0 => return false
  | depth + 1 => do
      let first ← s.allOf last depth
      if (← get).head? = some "-o" then
        modify (List.drop 1)
        let second ← s.anyOf last depth
        return first || second
      return first

/-- The truth of conditions joined by `-a`. -/
def allOf (s : TestStyle) (last : String) : (depth : Nat) → Testing Bool
  | 0 => return false
  | depth + 1 => do
      let first ← s.single last depth
      if (← get).head? = some "-a" then
        modify (List.drop 1)
        let second ← s.allOf last depth
        return first && second
      return first

/-- The truth of a condition that is not joined. -/
def single (s : TestStyle) (last : String) : (depth : Nat) → Testing Bool
  | 0 => return false
  | depth + 1 => do
      match ← get with
      | [] => throwThe String (s.missing last)
      | "!" :: _ =>
          modify (List.drop 1)
          return !(← s.single last depth)
      | "(" :: rest =>
          modify (List.drop 1)
          if rest.isEmpty then throwThe String (s.missing last)
          -- Far from a closing mark, all that is left counts.
          let near := 1 + ((rest.drop 1).takeWhile (· ≠ ")")).length
          let count := if near ≤ 4 then near else rest.length
          let truth ← if s.nested then s.counted last depth count else s.anyOf last depth
          match (← get).head? with
          | some ")" =>
              modify (List.drop 1)
              return truth
          | some other => throwThe String (s.closeExpectedAt other)
          | none => throwThe String s.closeExpected
      | a :: rest =>
          match rest with
          | op :: b :: _ =>
              if s.binary.contains op then return ← s.between a op b
          | _ => pure ()
          let isOp := if s.strict then looksUnary a else s.unary.contains a
          match isOp, rest with
          | true, b :: _ => s.one a b
          | true, [] =>
              if s.strict then
                throwThe String (if s.unary.contains a then s.missing last else s.unaryExpected a)
              modify (List.drop 1)
              return a ≠ ""
          | false, _ =>
              modify (List.drop 1)
              return a ≠ ""

end

/-- The truth of all arguments. -/
def all (s : TestStyle) (arguments : List String) : Testing Bool := do
  match arguments.getLast? with
  | none => return false
  | some last =>
      let truth ← s.counted last (4 * arguments.length + 8) arguments.length
      match (← get).head? with
      | some left => throwThe String (s.surplus left)
      | none => return truth

end TestStyle

/-- The truth of some arguments, or a complaint about them. -/
def countedTest (s : TestStyle) (arguments : List String) : Run (Except String Bool) :=
  ((s.all arguments).run' arguments).run

/-- The truth of some arguments, or a complaint about them, in the dialect of the shell.  A
closing bracket may stand behind them. -/
def test (bracket : Bool) (arguments : List String) : Run (Except String Bool) := do
  match (← shell).dialect with
  | .extended =>
      let s := TestStyle.builtin
      let s := if bracket then { s with closeExpected := s.closeExpectedAt "]" } else s
      countedTest s arguments
  | .plain => ((testAll (arguments.length + 2) arguments).run' arguments).run

end ToyLang.Shell
