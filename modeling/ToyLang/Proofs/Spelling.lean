import ToyLang.Proofs.Layout

/-!
# The tokens of a program

The tokens that a program is written with, in order.  They are not determined by the
program: a number has many numerals, and one more comma may follow the last element of a
list.

Precedence and grouping are no matter of tokens.  A program is *well formed* if its operators
are nested as the grammar nests them and its names are names.

## Main definitions

* `Each`, `Commas` — lists of things, one after the other or with commas between them.
* `Expr.Tokens`, `Stmt.Tokens`, `Item.Tokens` — the tokens of each notion.
* `Expr.rank` — how loosely an expression is bound together.
* `Expr.WellFormed`, `Stmt.WellFormed`, `Item.WellFormed` — what the grammar promises.
-/

namespace ToyLang.Source

open Text

/-! ### Lists -/

section

variable {α : Type}

/-- Things one after the other. -/
inductive Each (P : α → List Token → Prop) : List α → List Token → Prop
  | nil : Each P [] []
  | cons {a : α} {as : List α} {ts us : List Token} :
      P a ts → Each P as us → Each P (a :: as) (ts ++ us)

/-- Things with a comma before each of them, and maybe one more at the end. -/
inductive CommaTail (P : α → List Token → Prop) : List α → List Token → Prop
  | nil : CommaTail P [] []
  | trailing : CommaTail P [] [.mark .comma]
  | cons {a : α} {as : List α} {ts us : List Token} :
      P a ts → CommaTail P as us → CommaTail P (a :: as) (.mark .comma :: (ts ++ us))

/-- Things with commas between them.  One more comma may follow the last one. -/
inductive Commas (P : α → List Token → Prop) : List α → List Token → Prop
  | nil : Commas P [] []
  | cons {a : α} {as : List α} {ts us : List Token} :
      P a ts → CommaTail P as us → Commas P (a :: as) (ts ++ us)

variable {P Q : α → List Token → Prop} {as : List α} {ts : List Token}

theorem Each.singleton {a : α} (ha : P a ts) : Each P [a] ts := by
  simpa using Each.cons ha .nil

theorem Each.append {bs : List α} {us : List Token} (has : Each P as ts) (hbs : Each P bs us) :
    Each P (as ++ bs) (ts ++ us) := by
  induction has with
  | nil => exact hbs
  | cons ha _ ih =>
    rw [List.append_assoc]
    exact .cons ha ih

theorem Each.imp (h : Each P as ts)
    (hPQ : ∀ a ∈ as, ∀ us, us.length ≤ ts.length → P a us → Q a us) : Each Q as ts := by
  induction h with
  | nil => exact .nil
  | cons ha _ ih =>
    refine .cons (hPQ _ List.mem_cons_self _ (by simp) ha) (ih fun a has us hus => ?_)
    exact hPQ a (List.mem_cons_of_mem _ has) us (by simp only [List.length_append]; omega)

theorem Each.forall_mem {R : α → Prop} (h : Each P as ts) (hR : ∀ a us, P a us → R a) :
    ∀ a ∈ as, R a := by
  induction h with
  | nil => simp
  | cons ha _ ih => exact List.forall_mem_cons.mpr ⟨hR _ _ ha, ih⟩

/-- There are as many tokens as things, or more. -/
theorem Each.length_le (h : Each P as ts) (hP : ∀ a us, P a us → us ≠ []) :
    as.length ≤ ts.length := by
  induction h with
  | nil => exact Nat.le_refl _
  | cons ha _ ih =>
    have hpos := List.length_pos_iff.mpr (hP _ _ ha)
    simp only [List.length_cons, List.length_append]
    omega

theorem CommaTail.imp (h : CommaTail P as ts)
    (hPQ : ∀ a ∈ as, ∀ us, us.length ≤ ts.length → P a us → Q a us) : CommaTail Q as ts := by
  induction h with
  | nil => exact .nil
  | trailing => exact .trailing
  | cons ha _ ih =>
    have hfirst := hPQ _ List.mem_cons_self _
      (by simp only [List.length_cons, List.length_append]; omega) ha
    refine .cons hfirst (ih fun a has us hus => ?_)
    exact hPQ a (List.mem_cons_of_mem _ has) us
      (by simp only [List.length_cons, List.length_append]; omega)

theorem CommaTail.forall_mem {R : α → Prop} (h : CommaTail P as ts) (hR : ∀ a us, P a us → R a) :
    ∀ a ∈ as, R a := by
  induction h with
  | nil => simp
  | trailing => simp
  | cons ha _ ih => exact List.forall_mem_cons.mpr ⟨hR _ _ ha, ih⟩

theorem CommaTail.length_le (h : CommaTail P as ts) : as.length ≤ ts.length := by
  induction h with
  | nil => exact Nat.le_refl _
  | trailing => exact Nat.zero_le _
  | cons _ _ ih =>
    simp only [List.length_cons, List.length_append]
    omega

theorem Commas.imp (h : Commas P as ts)
    (hPQ : ∀ a ∈ as, ∀ us, us.length ≤ ts.length → P a us → Q a us) : Commas Q as ts := by
  cases h with
  | nil => exact .nil
  | cons ha htail =>
    refine .cons (hPQ _ List.mem_cons_self _ (by simp) ha) (htail.imp fun a has us hus => ?_)
    exact hPQ a (List.mem_cons_of_mem _ has) us (by simp only [List.length_append]; omega)

theorem Commas.forall_mem {R : α → Prop} (h : Commas P as ts) (hR : ∀ a us, P a us → R a) :
    ∀ a ∈ as, R a := by
  cases h with
  | nil => simp
  | cons ha htail => exact List.forall_mem_cons.mpr ⟨hR _ _ ha, htail.forall_mem hR⟩

/-- There are as many tokens as things, or one less than that and a thing without tokens. -/
theorem Commas.length_le (h : Commas P as ts) : as.length ≤ ts.length + 1 := by
  cases h with
  | nil => exact Nat.zero_le _
  | cons _ htail =>
    have hle := htail.length_le
    simp only [List.length_cons, List.length_append]
    omega

end

/-- Tokens in braces. -/
def inBraces (ts : List Token) : List Token := .mark .leftBrace :: (ts ++ [.mark .rightBrace])

@[simp] theorem length_inBraces (ts : List Token) : (inBraces ts).length = ts.length + 2 := by
  simp [inBraces]

/-! ### Tokens -/

/-- The tokens of an expression. -/
inductive Expr.Tokens : Expr → List Token → Prop
  | int (n : WholeNumeral) (valid : IsWhole n.digits) : Tokens (.int n.value) [.whole n valid]
  | float (n : FractionalNumeral) (valid : IsWhole n.digits ∧ IsFraction n.fraction) :
      Tokens (.float n.value) [.fractional n valid]
  | true : Tokens (.bool Bool.true) [.keyword .trueWord]
  | false : Tokens (.bool Bool.false) [.keyword .falseWord]
  | ident {name : String} (valid : isName name = Bool.true) :
      Tokens (.ident name) [.name name valid]
  | call {callee : String} {args : List Expr} {ts : List Token}
      (valid : isName callee = Bool.true) : Commas Tokens args ts →
      Tokens (.call callee args)
        (.name callee valid :: .mark .leftParen :: (ts ++ [.mark .rightParen]))
  | arith {op : ArithmeticOp} {lhs rhs : Expr} {ts us : List Token} :
      Tokens lhs ts → Tokens rhs us → Tokens (.arith op lhs rhs) (ts ++ .arith op :: us)
  | compare {op : ComparisonOp} {lhs rhs : Expr} {ts us : List Token} :
      Tokens lhs ts → Tokens rhs us → Tokens (.compare op lhs rhs) (ts ++ .compare op :: us)
  | assign {target : String} {value : Expr} {ts : List Token}
      (valid : isName target = Bool.true) : Tokens value ts →
      Tokens (.assign target value) (.name target valid :: .mark .equals :: ts)
  | paren {inner : Expr} {ts : List Token} : Tokens inner ts →
      Tokens (.paren inner) (.mark .leftParen :: (ts ++ [.mark .rightParen]))

/-- The tokens of the declaration of a variable. -/
inductive Binding.Tokens : Binding → List Token → Prop
  | mk {name type : String} {init : Expr} {ts : List Token} (hname : isName name = true)
      (htype : isName type = true) : init.Tokens ts →
      Tokens ⟨name, type, init⟩ (.keyword .letWord :: .name name hname :: .mark .colon ::
        .name type htype :: .mark .equals :: (ts ++ [.mark .semicolon]))

mutual

/-- The tokens of a statement. -/
inductive Stmt.Tokens : Stmt → List Token → Prop
  | bind {b : Binding} {ts : List Token} : b.Tokens ts → Stmt.Tokens (.bind b) ts
  | ret {value : Expr} {ts : List Token} : value.Tokens ts →
      Stmt.Tokens (.ret value) (.keyword .returnWord :: (ts ++ [.mark .semicolon]))
  | cond {test : Expr} {body : List Stmt} {otherwise : Else} {ts us vs : List Token} :
      test.Tokens ts → Each Stmt.Tokens body us → otherwise.Tokens vs →
      Stmt.Tokens (.cond test body otherwise) (.keyword .ifWord :: (ts ++ (inBraces us ++ vs)))
  | loop {test : Expr} {body : List Stmt} {ts us : List Token} :
      test.Tokens ts → Each Stmt.Tokens body us →
      Stmt.Tokens (.loop test body) (.keyword .whileWord :: (ts ++ inBraces us))
  | count {var : String} {first bound : Expr} {body : List Stmt} {ts us vs : List Token}
      (valid : isName var = true) :
      first.Tokens ts → bound.Tokens us → Each Stmt.Tokens body vs →
      Stmt.Tokens (.count var first bound body) (.keyword .forWord :: .name var valid ::
        .keyword .inWord :: (ts ++ .mark .dots :: (us ++ inBraces vs)))
  | block {body : List Stmt} {ts : List Token} : Each Stmt.Tokens body ts →
      Stmt.Tokens (.block body) (inBraces ts)
  | eval {value : Expr} {ts : List Token} : value.Tokens ts →
      Stmt.Tokens (.eval value) (ts ++ [.mark .semicolon])

/-- The tokens of an `else` with what follows it. -/
inductive Else.Tokens : Else → List Token → Prop
  | none : Else.Tokens .none []
  | block {body : List Stmt} {ts : List Token} : Each Stmt.Tokens body ts →
      Else.Tokens (.block body) (.keyword .elseWord :: inBraces ts)
  | cond {test : Expr} {body : List Stmt} {otherwise : Else} {ts us vs : List Token} :
      test.Tokens ts → Each Stmt.Tokens body us → otherwise.Tokens vs →
      Else.Tokens (.cond test body otherwise)
        (.keyword .elseWord :: .keyword .ifWord :: (ts ++ (inBraces us ++ vs)))

end

/-- The tokens of a parameter. -/
inductive ParamTokens : Param → List Token → Prop
  | mk {name type : String} (hname : isName name = true) (htype : isName type = true) :
      ParamTokens ⟨name, type⟩ [.name name hname, .mark .colon, .name type htype]

/-- The tokens of a function. -/
inductive Function.Tokens : Function → List Token → Prop
  | mk {name result : String} {params : List Param} {body : List Stmt} {ts us : List Token}
      (hname : isName name = true) (hresult : isName result = true) :
      Commas ParamTokens params ts → Each Stmt.Tokens body us →
      Tokens ⟨name, params, result, body⟩ (.keyword .fnWord :: .name name hname ::
        .mark .leftParen :: (ts ++ .mark .rightParen :: .mark .arrow ::
          .name result hresult :: inBraces us))

/-- The tokens of a declaration at the top level. -/
inductive Item.Tokens : Item → List Token → Prop
  | function {f : Function} {ts : List Token} : f.Tokens ts → Tokens (.function f) ts
  | bind {b : Binding} {ts : List Token} : b.Tokens ts → Tokens (.bind b) ts

/-! ### Well-formed programs -/

/-- How loosely the operands of an arithmetic operator are bound together. -/
def ArithmeticOp.rank : ArithmeticOp → Nat
  | .mul | .div => 1
  | .add | .sub => 2

/-- How loosely an expression is bound together: an atom not at all, then products, sums,
and last comparisons and assignments, which stand only as whole expressions. -/
def Expr.rank : Expr → Nat
  | .arith op _ _ => ArithmeticOp.rank op
  | .compare _ _ _ | .assign _ _ => 3
  | _ => 0

/-- An expression that the grammar allows: operators of one rank group from the left, a
comparison is one of two sums, and every name is a name. -/
inductive Expr.WellFormed : Expr → Prop
  | int {value : Int64} : WellFormed (.int value)
  | float (n : FractionalNumeral) : IsWhole n.digits → IsFraction n.fraction →
      WellFormed (.float n.value)
  | bool {value : Bool} : WellFormed (.bool value)
  | ident {name : String} : isName name = true → WellFormed (.ident name)
  | call {callee : String} {args : List Expr} : isName callee = true →
      (∀ a ∈ args, WellFormed a) → WellFormed (.call callee args)
  | arith {op : ArithmeticOp} {lhs rhs : Expr} : lhs.rank ≤ ArithmeticOp.rank op →
      rhs.rank < ArithmeticOp.rank op → WellFormed lhs → WellFormed rhs →
      WellFormed (.arith op lhs rhs)
  | compare {op : ComparisonOp} {lhs rhs : Expr} : lhs.rank ≤ 2 → rhs.rank ≤ 2 →
      WellFormed lhs → WellFormed rhs → WellFormed (.compare op lhs rhs)
  | assign {target : String} {value : Expr} : isName target = true → WellFormed value →
      WellFormed (.assign target value)
  | paren {inner : Expr} : WellFormed inner → WellFormed (.paren inner)

/-- A declaration of a variable that the grammar allows. -/
structure Binding.WellFormed (b : Binding) : Prop where
  name : isName b.name = true
  type : isName b.type = true
  init : b.init.WellFormed

mutual

/-- A statement that the grammar allows. -/
inductive Stmt.WellFormed : Stmt → Prop
  | bind {b : Binding} : b.WellFormed → Stmt.WellFormed (.bind b)
  | ret {value : Expr} : value.WellFormed → Stmt.WellFormed (.ret value)
  | cond {test : Expr} {body : List Stmt} {otherwise : Else} : test.WellFormed →
      (∀ s ∈ body, s.WellFormed) → otherwise.WellFormed →
      Stmt.WellFormed (.cond test body otherwise)
  | loop {test : Expr} {body : List Stmt} : test.WellFormed → (∀ s ∈ body, s.WellFormed) →
      Stmt.WellFormed (.loop test body)
  | count {var : String} {first bound : Expr} {body : List Stmt} : isName var = true →
      first.WellFormed → bound.WellFormed → (∀ s ∈ body, s.WellFormed) →
      Stmt.WellFormed (.count var first bound body)
  | block {body : List Stmt} : (∀ s ∈ body, s.WellFormed) → Stmt.WellFormed (.block body)
  | eval {value : Expr} : value.WellFormed → Stmt.WellFormed (.eval value)

/-- What the grammar allows behind an `else`. -/
inductive Else.WellFormed : Else → Prop
  | none : Else.WellFormed .none
  | block {body : List Stmt} : (∀ s ∈ body, s.WellFormed) → Else.WellFormed (.block body)
  | cond {test : Expr} {body : List Stmt} {otherwise : Else} : test.WellFormed →
      (∀ s ∈ body, s.WellFormed) → otherwise.WellFormed →
      Else.WellFormed (.cond test body otherwise)

end

/-- A function that the grammar allows. -/
structure Function.WellFormed (f : Function) : Prop where
  name : isName f.name = true
  params : ∀ p ∈ f.params, isName p.name = true ∧ isName p.type = true
  result : isName f.result = true
  body : ∀ s ∈ f.body, s.WellFormed

/-- A declaration at the top level that the grammar allows. -/
def Item.WellFormed : Item → Prop
  | .function f => f.WellFormed
  | .bind b => b.WellFormed

end ToyLang.Source
