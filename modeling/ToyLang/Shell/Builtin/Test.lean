import ToyLang.Process.Program
import ToyLang.Shell.State

/-!
# Tests

Conditions on texts, numbers and files, as arguments of a command.  How many arguments there are
decides what they mean.

## Main definitions

* `fileTest`, `unaryTest`, `binaryTest` — the meaning of the operators.
* `testAll` — the truth of the arguments of a test of the standard shell.
-/

namespace ToyLang.Shell

open Run

/-- The kinds of operators. -/
inductive TestKind where
  | unary
  | binary
  | not
  | both
  | either
  | openMark
  | closeMark
  deriving DecidableEq, Repr

/-- The operators with one operand. -/
def unaryTests : List String :=
  ["-r", "-w", "-x", "-e", "-f", "-d", "-c", "-b", "-p", "-u", "-g", "-k", "-s", "-t", "-z", "-n",
    "-h", "-L", "-O", "-G", "-S"]

/-- The operators with two operands. -/
def binaryTests : List String :=
  ["=", "!=", "-eq", "-ne", "-ge", "-gt", "-le", "-lt", "-nt", "-ot", "-ef"]

/-- The kind of an operator of the standard shell, if a text is one. -/
def testKind? (text : String) : Option TestKind :=
  if unaryTests.contains text then some .unary
  else if binaryTests.contains text ∨ text = "<" ∨ text = ">" then some .binary
  else if text = "!" then some .not
  else if text = "-a" then some .both
  else if text = "-o" then some .either
  else if text = "(" then some .openMark
  else if text = ")" then some .closeMark
  else none

/-- The truth of a test of a file. -/
def fileTest (op path : String) : Run Bool := do
  let follow := !(op = "-h" || op = "-L")
  let t ← tree
  match t.locate (← process).folder path follow with
  | .error _ => return false
  | .ok number =>
      let n := t.node number
      match op with
      | "-e" | "-r" | "-w" | "-O" | "-G" | "-N" => return true
      | "-x" => return t.isFolder number || Program.mayExecute n.mode
      | "-f" => return match n.content with
        | .file _ => true
        | _ => false
      | "-d" => return t.isFolder number
      | "-h" | "-L" => return match n.content with
        | .link _ => true
        | _ => false
      | "-c" => return match n.content with
        | .device (.stream _) | .device (.pipe _) | .device (.numbered true _ _) => false
        | .device _ => true
        | _ => false
      | "-b" => return match n.content with
        | .device (.numbered block _ _) => block
        | _ => false
      | "-p" => return match n.content with
        | .device (.stream _) | .device (.pipe _) => true
        | _ => false
      | "-s" => return match n.content with
        | .file bytes => !bytes.isEmpty
        | .folder _ _ => true
        | _ => false
      | "-u" => return n.mode &&& 0o4000 ≠ 0
      | "-g" => return n.mode &&& 0o2000 ≠ 0
      | "-k" => return n.mode &&& 0o1000 ≠ 0
      | _ => return false

/-- Whether two paths lead to the same node. -/
def sameFile (a b : String) : Run Bool := do
  let t ← tree
  let folder := (← process).folder
  match t.locate folder a, t.locate folder b with
  | .ok m, .ok n => return m = n
  | _, _ => return false

/-- Whether the first of two files was changed after the second one.  In the extended shell a file
that is there counts as newer than one that is not. -/
def newerFile (dialect : Dialect) (a b : String) : Run Bool := do
  let t ← tree
  let folder := (← process).folder
  match t.locate folder a, t.locate folder b with
  | .ok m, .ok n => return decide ((t.node n).time < (t.node m).time)
  | .ok _, .error _ => return decide (dialect = .extended)
  | .error _, _ => return false

/-- A test in progress: the arguments that are left, and a complaint that ends it. -/
abbrev Testing := StateT (List String) (ExceptT String Run)

/-- Compare two numbers among the arguments. -/
def compareNumbers (number : String → Testing Int) (a b : String) (holds : Int → Int → Bool) :
    Testing Bool := do
  let m ← number a
  let n ← number b
  return holds m n

/-- The truth of an operator with two operands, given how numbers are read. -/
def binaryTest (dialect : Dialect) (number : String → Testing Int) (op a b : String) :
    Testing Bool := do
  match op with
  | "=" | "==" => return a = b
  | "!=" => return a ≠ b
  | "<" => return a < b
  | ">" => return b < a
  | "-eq" => compareNumbers number a b (· == ·)
  | "-ne" => compareNumbers number a b (· != ·)
  | "-lt" => compareNumbers number a b (decide <| · < ·)
  | "-le" => compareNumbers number a b (decide <| · ≤ ·)
  | "-gt" => compareNumbers number a b (decide <| · > ·)
  | "-ge" => compareNumbers number a b (decide <| · ≥ ·)
  | "-ef" => liftM (m := Run) (sameFile a b)
  | "-nt" => liftM (m := Run) (newerFile dialect a b)
  | "-ot" => liftM (m := Run) (newerFile dialect b a)
  | _ => return false

/-- A number among the arguments of the standard shell. -/
def plainNumber (text : String) : Testing Int :=
  match wholeNumber? true text with
  | some n => pure n
  | none => throwThe String ("Illegal number: " ++ text)

/-- The truth of an operator with one operand. -/
def unaryTest (op a : String) : Run Bool := do
  match op with
  | "-z" => return a = ""
  | "-n" => return a ≠ ""
  | "-t" => return false
  | "-v" =>
      match a.toNat? with
      | some n => return decide (n ≤ (← shell).arguments.length)
      | none =>
          match splitIndexed a with
          | (base, some index) =>
              let (_, entries) ← entriesOf (← aim base).1
              if index = "@" ∨ index = "*" then return !entries.isEmpty
              return (← textAt base index).isSome
          | (_, none) => return (← lookup? a).isSome
  | "-R" =>
      match ← itself? a with
      | some v => return v.isReference && !(v.value matches .unset)
      | none => return false
  | op => fileTest op a

/-- The kind of the first argument that is left.  An operator with one operand counts as a text
if nothing follows that it could apply to. -/
def lexTest : List String → Option TestKind
  | [] => none
  | a :: rest =>
      match testKind? a with
      | some .unary => match rest with
        | [] => none
        | [_] => some .unary
        | b :: _ =>
            match testKind? b with
            | some .binary => none
            | _ => some .unary
      | some .openMark => if rest.isEmpty then none else some .openMark
      | kind => kind

/-- Drop the first argument that is left. -/
def dropTest : Testing Unit := modify (List.drop 1)

mutual

/-- A condition joined by `-o`. -/
def testEither : (depth : Nat) → Testing Bool
  | 0 => return false
  | depth + 1 => do
      let first ← testBoth depth
      match lexTest (← get) with
      | some .either =>
          dropTest
          let second ← testEither depth
          return first || second
      | _ => return first

/-- A condition joined by `-a`. -/
def testBoth : (depth : Nat) → Testing Bool
  | 0 => return false
  | depth + 1 => do
      let first ← testNot depth
      match lexTest (← get) with
      | some .both =>
          dropTest
          let second ← testBoth depth
          return first && second
      | _ => return first

/-- A condition that may be negated. -/
def testNot : (depth : Nat) → Testing Bool
  | 0 => return false
  | depth + 1 => do
      match lexTest (← get) with
      | some .not =>
          if (← get).length = 1 then
            dropTest
            return true
          dropTest
          return !(← testNot depth)
      | _ => testPrimary depth

/-- A condition that is not joined. -/
def testPrimary : (depth : Nat) → Testing Bool
  | 0 => return false
  | depth + 1 => do
      match ← get with
      | [] => return false
      | a :: rest =>
          match lexTest (a :: rest) with
          | some .openMark =>
              dropTest
              if (← get).head? = some ")" then
                return false
              let inner ← testEither depth
              if (← get).head? ≠ some ")" then throwThe String "closing paren expected"
              dropTest
              return inner
          | some .unary =>
              match rest with
              | [] => throwThe String (a ++ ": argument expected")
              | b :: _ =>
                  modify (List.drop 2)
                  if a = "-t" then discard (plainNumber b)
                  liftM (m := Run) (unaryTest a b)
          | _ =>
              match rest with
              | op :: more =>
                  match testKind? op with
                  | some .binary =>
                      match more with
                      | [] => throwThe String (op ++ ": argument expected")
                      | b :: _ =>
                          modify (List.drop 3)
                          binaryTest .plain plainNumber op a b
                  | _ =>
                      dropTest
                      return a ≠ ""
              | [] =>
                  dropTest
                  return a ≠ ""

end

/-- The truth of some arguments.  With three of them an operator in the middle decides; with three
or four, parentheses around them or an exclamation mark in front come next. -/
def testAll : (depth : Nat) → List String → Testing Bool
  | 0, _ => return false
  | depth + 1, arguments => do
      let whole : Testing Bool := do
        set arguments
        let truth ← testEither (4 * arguments.length + 8)
        let left := (← get).length
        if left = 0 then return truth
        let last := arguments.getD (arguments.length - left - 1) ""
        throwThe String ((if last = "" then "" else last ++ ": ") ++ "unexpected operator")
      let reduced : Testing Bool := do
        if arguments.head? = some "(" ∧ arguments.getLast? = some ")" then
          testAll depth arguments.tail.dropLast
        else if arguments.head? = some "!" then return !(← testAll depth arguments.tail)
        else whole
      match arguments with
      | [] => return false
      | [a, op, b] =>
          match testKind? op with
          | some .binary => binaryTest .plain plainNumber op a b
          | _ => reduced
      | [_, _, _, _] => reduced
      | _ => whole

end ToyLang.Shell
