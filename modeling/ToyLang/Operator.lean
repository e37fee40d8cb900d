/-!
# Operators and parameters

What source programs and C++ files have in common.

The infix operators form two closed tables, one for arithmetic and one for comparison.
A tag that is in no table is kept as it is, and rendered as a visible placeholder.

## Main definitions

* `ArithmeticOp`, `ComparisonOp` — the two tables, with the token of each operator.
* `OperatorFamily` — what the tables have in common.
* `Operator` — an operator of a table, or a tag outside it.
* `Operator.ofTag` — the operator that a tag stands for.
* `Param` — a parameter of a function.

## Main results

* `Operator.ofTag_eq_known_iff`, `Operator.ofTag_eq_unknown_iff` — what a tag stands for.
* `Operator.text_ofTag` — how a tag is rendered.
-/

namespace ToyLang

/-! ### Operators -/

/-- The arithmetic operators. -/
inductive ArithmeticOp where
  | add | sub | mul | div
  deriving DecidableEq, Repr

/-- The comparison operators. -/
inductive ComparisonOp where
  | eq | ne | le | ge | lt | gt
  deriving DecidableEq, Repr

/-- The token of an arithmetic operator. -/
def ArithmeticOp.token : ArithmeticOp → String
  | add => "+"
  | sub => "-"
  | mul => "*"
  | div => "/"

/-- The arithmetic operators in the order of their table. -/
def ArithmeticOp.all : List ArithmeticOp := [.add, .sub, .mul, .div]

/-- The token of a comparison operator. -/
def ComparisonOp.token : ComparisonOp → String
  | eq => "=="
  | ne => "!="
  | le => "<="
  | ge => ">="
  | lt => "<"
  | gt => ">"

/-- The comparison operators in the order of their table, in which no token comes after
one that it begins with. -/
def ComparisonOp.all : List ComparisonOp := [.eq, .ne, .le, .ge, .lt, .gt]

/-- A closed table of infix operators. -/
class OperatorFamily (α : Type) where
  /-- The operators in order. -/
  all : List α
  /-- The token of an operator. -/
  token : α → String
  /-- The word for such operators in a placeholder. -/
  kind : String
  /-- The table leaves out no operator. -/
  mem_all (op : α) : op ∈ all
  /-- No two operators have the same token. -/
  token_inj {op op' : α} : token op = token op' → op = op'

instance : OperatorFamily ArithmeticOp where
  all := ArithmeticOp.all
  token := ArithmeticOp.token
  kind := "binary"
  mem_all op := by cases op <;> decide
  token_inj {op op'} := by cases op <;> cases op' <;> decide

instance : OperatorFamily ComparisonOp where
  all := ComparisonOp.all
  token := ComparisonOp.token
  kind := "comparison"
  mem_all op := by cases op <;> decide
  token_inj {op op'} := by cases op <;> cases op' <;> decide

/-- An operator as it was handed over: one of a table, or a tag outside it. -/
inductive Operator (α : Type) where
  | known (op : α)
  | unknown (tag : String)
  deriving DecidableEq, Repr

namespace Operator

variable {α : Type} [OperatorFamily α]

/-- The operator whose token is exactly the given tag, if the table has one. -/
def ofTag (tag : String) : Operator α :=
  match (OperatorFamily.all : List α).find? fun op => OperatorFamily.token op = tag with
  | some op => known op
  | none => unknown tag

/-- The text between two operands, with the blanks around it. -/
def text : Operator α → String
  | known op => " " ++ OperatorFamily.token op ++ " "
  | unknown tag => " <unknown " ++ OperatorFamily.kind α ++ " op `" ++ tag ++ "`> "

/-- Where an operator is asked for, a tag may be given. -/
instance : Coe String (Operator α) := ⟨ofTag⟩

open OperatorFamily (all token kind mem_all token_inj)

/-- A tag stands for an operator of the table if it is the token of this operator. -/
theorem ofTag_eq_known_iff {tag : String} {op : α} : ofTag tag = known op ↔ token op = tag := by
  rw [ofTag]
  constructor
  · intro h
    split at h
    · next hfound =>
      cases h
      simpa using List.find?_some hfound
    · cases h
  · rintro rfl
    cases hfound : (all : List α).find? fun op' => token op' = token op with
    | some op' =>
      have hsame : token op' = token op := by simpa using List.find?_some hfound
      rw [token_inj hsame]
    | none => simpa using List.find?_eq_none.mp hfound op (mem_all op)

/-- A tag is kept as it is if it is the token of no operator. -/
theorem ofTag_eq_unknown_iff {tag tag' : String} :
    (ofTag tag : Operator α) = unknown tag' ↔ tag' = tag ∧ ∀ op : α, token op ≠ tag := by
  constructor
  · intro h
    refine ⟨?_, fun op hop => ?_⟩
    · rw [ofTag] at h
      split at h
      · cases h
      · cases h
        rfl
    · rw [ofTag_eq_known_iff.mpr hop] at h
      cases h
  · rintro ⟨rfl, hno⟩
    cases h : (ofTag tag' : Operator α) with
    | known op => exact absurd (ofTag_eq_known_iff.mp h) (hno op)
    | unknown tag =>
      rw [ofTag] at h
      split at h <;> cases h
      rfl

/-- The token of an operator stands for this operator. -/
@[simp] theorem ofTag_token (op : α) : ofTag (token op) = known op := ofTag_eq_known_iff.mpr rfl

/-- A token is rendered between blanks, and any other tag as a placeholder. -/
theorem text_ofTag (tag : String) : (ofTag tag : Operator α).text =
    if tag ∈ (all : List α).map token then " " ++ tag ++ " "
    else " <unknown " ++ kind α ++ " op `" ++ tag ++ "`> " := by
  cases h : (ofTag tag : Operator α) with
  | known op =>
    obtain rfl := ofTag_eq_known_iff.mp h
    rw [if_pos (List.mem_map_of_mem (mem_all op)), text]
  | unknown tag' =>
    obtain ⟨rfl, hno⟩ := ofTag_eq_unknown_iff.mp h
    have hout : tag' ∉ (all : List α).map token := by simpa using fun op _ => hno op
    rw [if_neg hout, text]

end Operator

/-! ### Parameters -/

/-- A parameter of a function: its name and its type. -/
structure Param where
  name : String
  type : String
  deriving DecidableEq, Repr

/-- A parameter in C++: the type first. -/
def Param.text (p : Param) : String := p.type ++ " " ++ p.name

end ToyLang
