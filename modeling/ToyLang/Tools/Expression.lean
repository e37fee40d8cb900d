import ToyLang.Text.RegexSyntax
import ToyLang.Tools.Basic

/-!
# Expressions on arguments

An expression is given by words: whole numbers, texts, operators and parentheses.

## Main definitions

* `Expr` — actions that evaluate an expression.
* `expr` — the value of an expression.
-/

namespace ToyLang.Tools

open Run Text

/-- What is wrong with an expression, with the status for it. -/
structure ExprFault where
  status : Nat
  text : String

/-- How far an expression has been read: the words that are left, the last one that was taken, and
whether values still matter. -/
structure ExprState where
  rest : List String
  last : Option String := none
  active : Bool := true

/-- Actions that evaluate an expression from its words. -/
abbrev Expr := EStateM ExprFault ExprState

namespace Expr

/-- Refuse an expression. -/
def refuse {α : Type} (text : String) : Expr α := throw ⟨2, text⟩

/-- Take the next word if it is one of some words. -/
def takeIf (words : List String) : Expr (Option String) := do
  match (← get).rest with
  | w :: rest =>
      if words.contains w then
        modify fun s => { s with rest := rest, last := some w }
        return some w
      return none
  | [] => return none

/-- Take a word. -/
def takeWord : Expr String := do
  match (← get).rest with
  | w :: rest =>
      modify fun s => { s with rest := rest, last := some w }
      return w
  | [] =>
      match (← get).last with
      | some w => refuse ("syntax error: missing argument after " ++ mentioned w)
      | none => refuse "syntax error: missing argument"

/-- The whole number that a text is. -/
def number? (text : String) : Option Int :=
  match text.toList with
  | '-' :: cs => if cs.isEmpty || !cs.all Char.isDigit then none
      else some (-(Nat.ofDigitChars 10 cs 0 : Int))
  | cs => if cs.isEmpty || !cs.all Char.isDigit then none else some (Nat.ofDigitChars 10 cs 0)

/-- A number, or a refusal. -/
def number (text : String) : Expr Int :=
  match number? text with
  | some n => pure n
  | none => refuse "non-integer argument"

/-- Whether a value counts as false. -/
def isNull (text : String) : Bool :=
  text = "" || (let cs := text.toList
    let cs := if cs.head? = some '-' then cs.drop 1 else cs
    !cs.isEmpty && cs.all (· = '0'))

/-- Evaluate something, if values still matter. -/
def ifActive (value : Expr String) : Expr String := do
  if (← get).active then value else return "0"

/-- What a pattern matches at the start of a text: its first group, or how long it is. -/
def matched (text pattern : String) : Expr String := ifActive do
  match Regex.ofText? { extended := false } (widen pattern) with
  | .error e => refuse e
  | .ok (r, groups) =>
      let cs := (widen text).toList.toArray
      match r.match? { text := cs, wide := true } 0 with
      | some (stop, found) =>
          if groups = 0 then return toString stop
          match found.lookup 1 with
          | some (i, j) => return narrow (String.ofList (cs.extract i j).toList)
          | none => return ""
      | none => return if groups = 0 then "0" else ""

/-- A word, an expression in parentheses, or a function on words.  `whole` evaluates an
expression. -/
def primary (whole : Expr String) : Expr String := do
  let w ← takeWord
  match w with
  | "(" =>
      let value ← whole
      match ← takeIf [")"] with
      | some _ => return value
      | none =>
          let s ← get
          match s.rest with
          | next :: _ => refuse ("syntax error: expecting ')' instead of " ++ mentioned next)
          | [] => refuse ("syntax error: expecting ')' after " ++ mentioned (s.last.getD ""))
  | ")" => refuse "syntax error: unexpected ')'"
  | w => return w

/-- A function on words, or a primary.  `steps` bounds how deep functions nest. -/
def function (whole : Expr String) : (steps : Nat) → Expr String
  | 0 => primary whole
  | steps + 1 => do
      match ← takeIf ["+", "length", "match", "index", "substr"] with
      | some "+" => takeWord
      | some "length" => return toString (widen (← function whole steps)).length
      | some "match" =>
          let a ← function whole steps
          let b ← function whole steps
          matched a b
      | some "index" =>
          let a ← function whole steps
          let b ← function whole steps
          return toString (match (widen a).toList.findIdx? fun c => (widen b).contains c with
            | some i => i + 1
            | none => 0)
      | some "substr" =>
          let a ← function whole steps
          let start ← function whole steps
          let count ← function whole steps
          match number? start, number? count with
          | some i, some n =>
              if i ≤ 0 ∨ n ≤ 0 then return ""
              let part := ((widen a).toList.drop (i.toNat - 1)).take n.toNat
              return narrow (String.ofList part)
          | _, _ => return ""
      | _ => primary whole

/-- Operands joined by operators of one level; each step takes one of them. -/
def chain (operand : Expr String) (words : List String)
    (join : String → String → String → Expr String) :
    (steps : Nat) → String → Expr String
  | 0, value => return value
  | steps + 1, value => do
      match ← takeIf words with
      | none => return value
      | some op => chain operand words join steps (← join op value (← operand))

/-- Operands joined by an operator whose second operand may not matter; each step takes one. -/
def choose (operand : Expr String) (op : String) (matters : String → Bool)
    (join : String → String → String) : (steps : Nat) → String → Expr String
  | 0, value => return value
  | steps + 1, value => do
      match ← takeIf [op] with
      | none => return value
      | some _ =>
          let active := (← get).active
          modify fun s => { s with active := active && matters value }
          let next ← operand
          modify fun s => { s with active := active }
          choose operand op matters join steps (join value next)

/-- The result of a comparison, by number if both are numbers. -/
def compared (op a b : String) : Expr String := ifActive do
  let order : Ordering := match number? a, number? b with
    | some m, some n => Ord.compare m n
    | _, _ => Ord.compare a b
  let truth : Bool := match op with
    | "<" => order.isLT
    | "<=" => order.isLE
    | "=" | "==" => order.isEq
    | "!=" => order.isNe
    | ">=" => order.isGE
    | _ => order.isGT
  return if truth then "1" else "0"

/-- The result of arithmetic. -/
def computed (op a b : String) : Expr String := ifActive do
  let m ← number a
  let n ← number b
  match op with
  | "+" => return toString (m + n)
  | "-" => return toString (m - n)
  | "*" => return toString (m * n)
  | op =>
      if n = 0 then refuse "division by zero"
      return toString (if op = "/" then m.tdiv n else m.tmod n)

/-- The value of an expression; `depth` bounds how deep parentheses nest. -/
def whole : (depth : Nat) → Expr String
  | 0 => refuse "syntax error: nested too deep"
  | depth + 1 => do
      let steps := (← get).rest.length + 1
      let level (operand : Expr String) (words : List String)
          (join : String → String → String → Expr String) : Expr String := do
        chain operand words join steps (← operand)
      let matches_ := level (function (whole depth) steps) [":"] fun _ a b => matched a b
      let products := level matches_ ["*", "/", "%"] computed
      let sums := level products ["+", "-"] computed
      let comparisons := level sums ["<", "<=", "=", "==", "!=", ">=", ">"] compared
      let both : Expr String := do
        choose comparisons "&" (fun a => !isNull a)
          (fun a b => if isNull a || isNull b then "0" else a) steps (← comparisons)
      choose both "|" isNull
        (fun a b => if !isNull a then a else if isNull b then "0" else b) steps (← both)

end Expr

/-- Show the value of an expression. -/
def expr : Tool := fun name arguments => do
  let arguments := if arguments.head? = some "--" then arguments.drop 1 else arguments
  if arguments.isEmpty then return ← missingOperand name [] 2
  match (Expr.whole 100).run { rest := arguments } with
  | .error e _ =>
      blame name e.text
      return e.status
  | .ok value s =>
      match s.rest with
      | w :: _ =>
          blame name ("syntax error: unexpected argument " ++ mentioned w)
          return 2
      | [] =>
          put (value ++ "\n")
          return if Expr.isNull value then 1 else 0

end ToyLang.Tools
