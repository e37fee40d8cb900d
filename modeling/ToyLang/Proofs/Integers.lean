import Mathlib.Data.Nat.Digits.Lemmas
import ToyLang.Proofs.Counting
import ToyLang.Proofs.Faults

/-!
# Whole numbers, read and written

A whole numeral may have any number of digits.  What it denotes is the sum of its digits by their
places, under its sign, and the parser returns exactly this number if it is one of 64 bits; the
range is one wider below zero than above, and the sign belongs to the numeral.  Every other numeral
is one fault, whatever it denotes.  The text that a number is written with is a numeral of it.

## Main definitions

* `WholeNumeral.denoted` — the number that a numeral denotes.
* `WholeNumeral.IsReadAs` — the value that a numeral is read as, and the faults on the way.

## Main results

* `atom_eq_int_iff` — where the reader of atoms takes a whole numeral.
* `parse_of_apart` — what is parsed of a text that is cut into the tokens of declarations.
* `int_atoms` — **numerals are read as what they denote, and numbers are written as such.**
-/

namespace ToyLang.Source

open Reader Text

/-! ### What a numeral denotes -/

/-- The value of a decimal digit. -/
def digitOf (c : Char) : ℕ := c.toNat - '0'.toNat

/-- The whole number that a numeral denotes: the sum of its digits by their places, under its
sign. -/
def WholeNumeral.denoted (n : WholeNumeral) : ℤ :=
  (if n.negative then -1 else 1) * (Nat.ofDigits 10 (n.digits.reverse.map digitOf) : ℕ)

/-- The number that is made of digits from the left is their sum by places. -/
theorem digitsValue_eq_ofDigits (ds : List Char) :
    digitsValue ds = Nat.ofDigits 10 (ds.reverse.map digitOf) := by
  induction ds using List.reverseRecOn with
  | nil => rfl
  | append_singleton ds c ih =>
    rw [digitsValue, Nat.ofDigitChars_append, ← digitsValue, ih, List.reverse_append,
      List.reverse_singleton, List.singleton_append, List.map_cons, Nat.ofDigits_cons]
    exact Nat.add_comm _ _

theorem signedValue_eq_denoted (n : WholeNumeral) :
    signedValue n.negative n.digits = n.denoted := by
  rw [WholeNumeral.denoted, ← digitsValue_eq_ofDigits, signedValue]
  split
  · rw [neg_one_mul]
  · rw [one_mul]

/-- The bounds of the range: one more number lies below zero than above. -/
theorem inRange_whole_iff {n : WholeNumeral} {valid : IsWhole n.digits} :
    (Token.whole n valid).InRange ↔ -2 ^ 63 ≤ n.denoted ∧ n.denoted ≤ 2 ^ 63 - 1 := by
  have hmin : Int64.minValue.toInt = -2 ^ 63 := by decide
  have hmax : Int64.maxValue.toInt = 2 ^ 63 - 1 := by decide
  rw [Token.InRange, signedValue_eq_denoted, hmin, hmax]

/-- A numeral in range is read as the number that it denotes. -/
theorem WholeNumeral.toInt_value {n : WholeNumeral} (valid : IsWhole n.digits)
    (h : (Token.whole n valid).InRange) : n.value.toInt = n.denoted := by
  have hvalue : int64Of? (signedValue n.negative n.digits)
      = some (Int64.ofInt (signedValue n.negative n.digits)) := if_pos h
  rw [WholeNumeral.value, hvalue, Option.getD_some, signedValue_eq_denoted]
  obtain ⟨hlow, hhigh⟩ := inRange_whole_iff.mp h
  exact Int64.toInt_ofInt_of_le hlow (by omega)

/-- A numeral out of range counts as zero. -/
theorem WholeNumeral.value_of_not_inRange {n : WholeNumeral} (valid : IsWhole n.digits)
    (h : ¬ (Token.whole n valid).InRange) : n.value = 0 := by
  have hvalue : int64Of? (signedValue n.negative n.digits) = none := if_neg h
  rw [WholeNumeral.value, hvalue, Option.getD_none]

/-- The value that a numeral is read as where the text from its first character on has `tail` bytes,
with the faults on the way: what it denotes if this is a number of 64 bits, and otherwise one
fault. -/
def WholeNumeral.IsReadAs (n : WholeNumeral) (tail : ℕ) (value : Int64)
    (faults : List Overflow) : Prop :=
  if -2 ^ 63 ≤ n.denoted ∧ n.denoted ≤ 2 ^ 63 - 1 then value.toInt = n.denoted ∧ faults = []
  else value = 0 ∧ faults = [⟨tail, n.width⟩]

theorem WholeNumeral.width_eq (n : WholeNumeral) (valid : IsWhole n.digits) :
    n.width = (Token.whole n valid).spelling.length := by
  rw [WholeNumeral.width, Token.spelling, List.length_append, signChars]
  cases n.negative <;> rfl

theorem WholeNumeral.isReadAs_iff {n : WholeNumeral} (valid : IsWhole n.digits) {cs : List Char}
    {value : Int64} {faults : List Overflow} : n.IsReadAs (byteLength cs) value faults ↔
      value = n.value ∧ faults = (Token.whole n valid).overflows cs := by
  rw [IsReadAs]
  split
  · next h =>
    have hrange : (Token.whole n valid).InRange := inRange_whole_iff.mpr h
    rw [(Token.overflows_eq_nil cs).mpr hrange, ← n.toInt_value valid hrange, Int64.toInt_inj]
  · next h =>
    have hrange : ¬ (Token.whole n valid).InRange := fun hrange => h (inRange_whole_iff.mp hrange)
    rw [Token.overflows_of_not_inRange hrange, n.value_of_not_inRange valid hrange,
      n.width_eq valid]

/-! ### Atoms that are whole numbers -/

/-- A token is looked for behind trivia. -/
theorem token_skipTrivia {α : Type} (take : List Char → Option (α × List Char)) (cs : List Char) :
    token take (skipTrivia cs) = token take cs := by
  simp only [token, bind, Reader.bind, trivia]
  rw [show skipTrivia (skipTrivia cs) = skipTrivia cs from visible_skipTrivia cs]

theorem whole_skipTrivia (cs : List Char) : whole (skipTrivia cs) = whole cs := by
  simp only [whole, bind, Reader.bind, trivia]
  rw [show skipTrivia (skipTrivia cs) = skipTrivia cs from visible_skipTrivia cs]

theorem fractional_skipTrivia (cs : List Char) : fractional (skipTrivia cs) = fractional cs := by
  simp only [fractional, bind, Reader.bind, token_skipTrivia]

/-- Every value that a reader returns is of some kind. -/
def Returns {α : Type} (p : Reader α) (P : α → Prop) : Prop :=
  ∀ ⦃cs r⦄, p cs = some r → P r.value

namespace Returns

variable {α β : Type} {p q : Reader α} {P : α → Prop}

theorem pure {a : α} (h : P a) : Returns (pure a) P := by
  rintro cs r hr
  obtain rfl := Option.some.inj hr
  exact h

theorem bind {Q : β → Prop} {f : α → Reader β} (h : ∀ a, Returns (f a) Q) :
    Returns (p >>= f) Q := by
  intro cs r hr
  obtain ⟨r₁, -, r₂, hr₂, rfl⟩ := bind_eq_some.mp hr
  exact h r₁.value (r := r₂) hr₂

theorem orElse (hp : Returns p P) (hq : Returns q P) : Returns (p <|> q) P := by
  intro cs r hr
  cases hread : p cs with
  | some r' =>
    rw [orElse_of_some hread] at hr
    obtain rfl := Option.some.inj hr
    exact hp hread
  | none =>
    rw [orElse_of_none hread] at hr
    exact hq hr

end Returns

/-- An expression that is no whole number. -/
def Expr.NoInt (e : Expr) : Prop := ∀ value, e ≠ .int value

/-- Behind the two kinds of numerals, no atom is a whole number. -/
theorem returns_noInt {budget : ℕ} {self : Reader Expr} :
    Returns ((do keyword .trueWord; pure (Expr.bool true))
      <|> (do keyword .falseWord; pure (Expr.bool false))
      <|> call budget self <|> (Expr.ident <$> name) <|> paren self) Expr.NoInt := by
  refine .orElse ?_ (.orElse ?_ (.orElse ?_ (.orElse ?_ ?_)))
  · exact .bind fun _ => .pure fun _ => by simp
  · exact .bind fun _ => .pure fun _ => by simp
  · exact .bind fun _ => .bind fun _ => .bind fun _ => .bind fun _ => .pure fun _ => by simp
  · exact .bind fun _ => .pure fun _ => by simp
  · exact .bind fun _ => .bind fun _ => .bind fun _ => .pure fun _ => by simp

/-- An atom is a whole number exactly where a whole numeral stands behind the trivia, as long as it
goes and without a fraction. -/
theorem atom_eq_int_iff {budget : ℕ} {self : Reader Expr} {cs rest : List Char} {value : Int64}
    {faults : List Overflow} : atom budget self cs = some ⟨.int value, faults, rest⟩ ↔
      ∃ n valid after, skipTrivia cs = (Token.whole n valid).spelling ++ after ∧
        (Token.whole n valid).Ends after ∧ rest = skipTrivia after ∧
        n.IsReadAs (byteLength (skipTrivia cs)) value faults := by
  constructor
  · intro h
    cases hfractional : fractional cs with
    | some r =>
      rw [atom, orElse_of_some (map_of_some hfractional _)] at h
      cases h
    | none =>
      rw [atom, orElse_of_none (map_of_none hfractional _)] at h
      cases hwhole : whole cs with
      | some r =>
        rw [orElse_of_some (map_of_some hwhole _)] at h
        obtain ⟨value', os, rest'⟩ := r
        obtain ⟨rfl, rfl, rfl⟩ : value' = value ∧ os = faults ∧ rest' = rest := by simpa using h
        rw [← whole_skipTrivia] at hwhole
        rw [← fractional_skipTrivia] at hfractional
        obtain ⟨n, valid, ⟨after, os', htext, hends, hos, hrest, rfl⟩, rfl⟩ :=
          whole_yields (visible_skipTrivia cs) hfractional hwhole
        rw [List.append_nil] at hos
        exact ⟨n, valid, after, htext, hends, hrest.symm, (n.isReadAs_iff valid).mpr ⟨rfl, hos⟩⟩
      | none =>
        rw [orElse_of_none (map_of_none hwhole _)] at h
        exact absurd rfl (returns_noInt h value)
  · rintro ⟨n, valid, after, htext, hends, rfl, hread⟩
    obtain ⟨rfl, rfl⟩ := (n.isReadAs_iff valid).mp hread
    have hlaid : Laid [.whole n valid] (skipTrivia cs)
        ((Token.whole n valid).overflows (skipTrivia cs)) (skipTrivia after) :=
      ⟨after, [], htext, hends, (List.append_nil _).symm, rfl, rfl⟩
    have hvisible := visible_skipTrivia cs
    have hnone := fractional_refuses_whole (F := Anything) n valid hvisible hlaid trivial
    have hsome := whole_reads (F := Anything) n valid hvisible hlaid trivial
    rw [fractional_skipTrivia] at hnone
    rw [whole_skipTrivia] at hsome
    rw [atom, orElse_of_none (map_of_none hnone _), orElse_of_some (map_of_some hsome _)]

/-! ### Whole texts -/

/-- A text that is cut into the tokens of well-formed declarations is parsed as these, if its
numerals are in range, and otherwise the numerals out of range are its faults. -/
theorem parse_of_apart {text : String} {items : List Item} {ss : List Segment}
    (htext : text.toList = joined ss) (hapart : Apart ss [])
    (hwell : ∀ i ∈ items, i.WellFormed)
    (htokens : Each Item.Tokens items (ss.map Segment.token)) :
    parse text = if faultsFrom 0 ss = [] then .ok items else .error (faultsFrom 0 ss) := by
  have hlaid := hapart.laid
  rw [List.append_nil, ← htext] at hlaid
  have hmap := map_fault_overflowsOf 0 ss []
  rw [Nat.zero_add, List.append_nil, ← htext] at hmap
  rw [parse_eq_of_file (file_reads hwell htokens hlaid), Reading.faults, hmap, if_pos rfl,
    List.append_nil]

theorem faultsFrom_of_inRange {t : Token} (h : t.InRange) (offset : ℕ) (gap : List Char)
    (ss : List Segment) :
    faultsFrom offset (⟨t, gap⟩ :: ss)
      = faultsFrom (offset + byteLength (t.spelling ++ gap)) ss := by
  rw [faultsFrom, if_pos h, List.nil_append]

/-- The tokens of a declaration whose initial value is a numeral, with the blanks behind them. -/
def letSegments {x type : String} (hx : isName x = true) (htype : isName type = true)
    (n : WholeNumeral) (valid : IsWhole n.digits) : List Segment :=
  [⟨.keyword .letWord, [' ']⟩, ⟨.name x hx, []⟩, ⟨.mark .colon, [' ']⟩, ⟨.name type htype, [' ']⟩,
   ⟨.mark .equals, [' ']⟩, ⟨.whole n valid, []⟩, ⟨.mark .semicolon, []⟩]

section

variable {x type : String} (hx : isName x = true) (htype : isName type = true) (n : WholeNumeral)
  (valid : IsWhole n.digits)

theorem apart_letSegments : Apart (letSegments hx htype n valid) [] := by
  have hblank : Trivia [' '] := .blank (by decide) .nil
  have hsemicolon (cs : List Char) : (Token.whole n valid).Ends (';' :: cs) :=
    Token.ends_of_stop _ (by decide) (by decide) (by decide) (by decide) (by decide) cs
  have hcolon (cs : List Char) : (Token.name x hx).Ends (':' :: cs) :=
    Token.ends_of_stop _ (by decide) (by decide) (by decide) (by decide) (by decide) cs
  exact ⟨hblank, Token.ends_of_isBlank _ (by decide) _, .nil, hcolon _, hblank, trivial, hblank,
    Token.ends_of_isBlank _ (by decide) _, hblank, trivial, .nil, hsemicolon _, .nil, trivial,
    trivial⟩

/-- Of the tokens of such a declaration only the numeral can be a fault. -/
theorem faultsFrom_letSegments : faultsFrom 0 (letSegments hx htype n valid)
    = if -2 ^ 63 ≤ n.denoted ∧ n.denoted ≤ 2 ^ 63 - 1 then []
      else [.intOutOfRange (byteLength ("let " ++ x ++ ": " ++ type ++ " = ").toList) n.width] := by
  have hfront : byteLength ("let " ++ x ++ ": " ++ type ++ " = ").toList
      = 0 + byteLength ("let".toList ++ [' ']) + byteLength (x.toList ++ [])
        + byteLength (":".toList ++ [' ']) + byteLength (type.toList ++ [' '])
        + byteLength ("=".toList ++ [' ']) := by
    have hequals : " = ".toList = [' '] ++ ("=".toList ++ [' ']) := by decide
    have hlet : "let ".toList = "let".toList ++ [' '] := by decide
    have hcolon : ": ".toList = ":".toList ++ [' '] := by decide
    simp only [String.toList_append, hequals, hlet, hcolon, byteLength_append, List.append_nil]
    omega
  rw [letSegments, faultsFrom_of_inRange (t := .keyword .letWord) trivial,
    faultsFrom_of_inRange (t := .name x hx) trivial,
    faultsFrom_of_inRange (t := .mark .colon) trivial,
    faultsFrom_of_inRange (t := .name type htype) trivial,
    faultsFrom_of_inRange (t := .mark .equals) trivial, hfront]
  split
  · next h =>
    rw [faultsFrom_of_inRange (inRange_whole_iff.mpr h),
      faultsFrom_of_inRange (t := .mark .semicolon) trivial]
    rfl
  · next h =>
    have hrange : ¬ (Token.whole n valid).InRange := fun hrange => h (inRange_whole_iff.mp hrange)
    rw [faultsFrom, if_neg hrange, faultsFrom_of_inRange (t := .mark .semicolon) trivial,
      n.width_eq valid]
    rfl

include hx htype in
/-- A declaration whose initial value is a numeral has the value of the numeral, or one fault. -/
theorem parse_let : parse
    ("let " ++ x ++ ": " ++ type ++ " = " ++ String.ofList (Token.whole n valid).spelling ++ ";")
      = if -2 ^ 63 ≤ n.denoted ∧ n.denoted ≤ 2 ^ 63 - 1 then .ok [.bind ⟨x, type, .int n.value⟩]
        else .error [.intOutOfRange
          (byteLength ("let " ++ x ++ ": " ++ type ++ " = ").toList) n.width] := by
  have htext : ("let " ++ x ++ ": " ++ type ++ " = "
      ++ String.ofList (Token.whole n valid).spelling ++ ";").toList
        = joined (letSegments hx htype n valid) := by
    simp [letSegments, joined, Token.spelling, Mark.text, Keyword.spelling]
  have hwell : Item.WellFormed (.bind ⟨x, type, .int n.value⟩) := ⟨hx, htype, .int⟩
  have htokens : Each Item.Tokens [.bind ⟨x, type, .int n.value⟩]
      ((letSegments hx htype n valid).map Segment.token) :=
    .singleton (.bind (.mk hx htype (.int n valid)))
  rw [parse_of_apart htext (apart_letSegments hx htype n valid)
    (List.forall_mem_singleton.mpr hwell) htokens, faultsFrom_letSegments]
  split
  · rw [if_pos rfl]
  · rw [if_neg (List.cons_ne_nil _ _)]

end

/-- The text that a number is written with is read as the number. -/
theorem readExpr_int (value : Int64) (g : Graph) :
    readExpr ((Expr.int value).emitted g) = some ⟨.int value, [], []⟩ := by
  let t : Token := .whole (decimalOf value) (isWhole_decimalOf value)
  have htext : ((Expr.int value).emitted g).toList = t.spelling := by
    rw [emitted_eq, Expr.cpp]
    exact (spelling_decimalOf value).symm
  have hends : t.Ends [] := ⟨.inr fun _ hc => by simp at hc, rfl⟩
  have hvisible : Visible t.spelling := by simpa using Token.visible hends
  have hlaid : Laid [t] t.spelling [] [] := by
    refine ⟨[], [], (List.append_nil _).symm, hends, ?_, rfl, rfl⟩
    rw [(Token.overflows_eq_nil _).mpr (inRange_decimalOf value), List.append_nil]
  have hfits : Expr.Fits 3 (.int value) [t] := by
    refine ⟨.int, by simp [Expr.rank], ?_⟩
    have htokens : Expr.Tokens (.int (decimalOf value).value) [t] := .int _ _
    rwa [value_decimalOf] at htokens
  have hlength : [t].length ≤ ((Expr.int value).emitted g).length := by
    rw [← String.length_toList, htext]
    exact List.length_pos_iff.mpr t.spelling_ne_nil
  rw [readExpr, htext, show skipTrivia t.spelling = t.spelling from hvisible]
  exact (expr_complete _).reads hfits hlength hvisible hlaid (by simp [Follow])

/-- **Whole numerals are read as what they denote, and numbers are written as such.**  An atom is a
whole number exactly where a whole numeral stands.  A declaration whose initial value is a numeral,
of however many digits, has the number that the numeral denotes as its value if this is one of
64 bits, and otherwise one fault, the numeral.  What is written for a number is read as it. -/
theorem int_atoms :
    (∀ (budget : ℕ) (self : Reader Expr) (cs rest : List Char) (value : Int64)
        (faults : List Overflow),
      atom budget self cs = some ⟨.int value, faults, rest⟩ ↔
        ∃ n valid after, skipTrivia cs = (Token.whole n valid).spelling ++ after ∧
          (Token.whole n valid).Ends after ∧ rest = skipTrivia after ∧
          n.IsReadAs (byteLength (skipTrivia cs)) value faults) ∧
    (∀ x type : String, isName x = true → isName type = true →
      ∀ n : WholeNumeral, IsWhole n.digits →
        if -2 ^ 63 ≤ n.denoted ∧ n.denoted ≤ 2 ^ 63 - 1 then
          ∃ value : Int64, value.toInt = n.denoted ∧
            parse ("let " ++ x ++ ": " ++ type ++ " = "
              ++ String.ofList (signChars n.negative ++ n.digits) ++ ";")
              = .ok [.bind ⟨x, type, .int value⟩]
        else
          parse ("let " ++ x ++ ": " ++ type ++ " = "
            ++ String.ofList (signChars n.negative ++ n.digits) ++ ";")
            = .error [.intOutOfRange
                (byteLength ("let " ++ x ++ ": " ++ type ++ " = ").toList) n.width]) ∧
    ∀ (value : Int64) (g : Graph),
      readExpr ((Expr.int value).emitted g) = some ⟨.int value, [], []⟩ := by
  refine ⟨fun _ _ _ _ _ _ => atom_eq_int_iff, fun x type hx htype n valid => ?_, readExpr_int⟩
  have hparse := parse_let hx htype n valid
  split
  · next h =>
    rw [if_pos h] at hparse
    exact ⟨n.value, n.toInt_value valid (inRange_whole_iff.mpr h), hparse⟩
  · next h =>
    rw [if_neg h] at hparse
    exact hparse

theorem int_atoms_lowest :
    IsWhole (WholeNumeral.mk true "9223372036854775808".toList).digits ∧
    ∃ value : Int64, value.toInt = -2 ^ 63 ∧
      parse "let x: t = -9223372036854775808;" = .ok [.bind ⟨"x", "t", .int value⟩] := by
  have valid : IsWhole (WholeNumeral.mk true "9223372036854775808".toList).digits :=
    .inr ⟨by decide, by decide, List.all_eq_true.mp (by decide)⟩
  have hdenoted : (WholeNumeral.mk true "9223372036854775808".toList).denoted = -2 ^ 63 := by
    decide +kernel
  obtain ⟨-, hparse, -⟩ := int_atoms
  have hlowest := hparse "x" "t" (by decide) (by decide) _ valid
  rw [hdenoted, if_pos (by decide)] at hlowest
  exact ⟨valid, hlowest⟩

example : parse "let x: t = 9223372036854775808;" = .error [.intOutOfRange 11 19] := by
  decide +kernel

end ToyLang.Source
