import ToyLang.Binary64.Text
import ToyLang.Proofs.Lexemes

/-!
# The texts of numbers

A whole number is written with the one numeral that has no needless digits.  A finite
floating-point number is written as a word that is neither a name nor a whole numeral: it
begins with a digit, perhaps behind a minus sign, and has a point or an exponent.

## Main definitions

* `decimalOf` — the numeral that a word of 64 bits is written with.
* `Lexeme.isFraction` — a lexeme with the look of a floating-point number.

## Main results

* `value_decimalOf` — the numeral of a number denotes the number.
* `isFraction_text` — the text of a finite number looks like one.
-/

namespace ToyLang.Source

open Text

/-! ### Whole numbers -/

/-- Only the digits of zero begin with zero. -/
theorem exists_leading {n : Nat} (h : 0 < n) :
    ∃ c ds, Nat.toDigits 10 n = c :: ds ∧ c ≠ '0' := by
  induction n using Nat.strongRecOn with
  | ind n ih =>
    rw [Nat.toDigits_eq_if (by decide)]
    split
    · next hlt =>
      refine ⟨_, [], rfl, ?_⟩
      have hdigits : ∀ d < 10, 0 < d → Nat.digitChar d ≠ '0' := by decide
      exact hdigits n hlt h
    · next hge =>
      obtain ⟨c, ds, hdigits, hc⟩ := ih (n / 10) (by omega) (by omega)
      exact ⟨c, ds ++ [Nat.digitChar (n % 10)], by rw [hdigits, List.cons_append], hc⟩

theorem isDigit_toDigits (n : Nat) : ∀ c ∈ Nat.toDigits 10 n, c.isDigit = true :=
  fun _ hc => Nat.isDigit_of_mem_toDigits (by decide) (by decide) hc

/-- The digits of a number are those of a numeral. -/
theorem isWhole_toDigits (n : Nat) : IsWhole (Nat.toDigits 10 n) := by
  rcases Nat.eq_zero_or_pos n with rfl | hpos
  · exact .inl ⟨rfl, rfl⟩
  · obtain ⟨c, ds, hdigits, hc⟩ := exists_leading hpos
    have hall := isDigit_toDigits n
    rw [hdigits, List.forall_mem_cons] at hall
    rw [hdigits]
    exact .inr ⟨hc, hall.1, hall.2⟩

/-- The numeral that a number is written with. -/
def decimalOf (value : Int64) : WholeNumeral :=
  ⟨decide (value.toInt < 0), Nat.toDigits 10 value.toInt.natAbs⟩

theorem isWhole_decimalOf (value : Int64) : IsWhole (decimalOf value).digits :=
  isWhole_toDigits _

theorem toList_toString_int (i : Int) :
    (toString i).toList = signChars (decide (i < 0)) ++ Nat.toDigits 10 i.natAbs := by
  rw [Int.toString_eq_repr]
  cases i with
  | ofNat m => simp [Int.repr, Nat.toList_repr, signChars]
  | negSucc m =>
    have hneg : Int.negSucc m < 0 := Int.negSucc_lt_zero m
    simp [Int.repr, Nat.toList_repr, signChars, hneg]

/-- A whole number is written with digits and perhaps a minus sign. -/
theorem minus_or_digit (i : Int) : ∀ c ∈ (toString i).toList, c = '-' ∨ c.isDigit = true := by
  rw [toList_toString_int]
  refine List.forall_mem_append.mpr ⟨?_, fun c hc => .inr (isDigit_toDigits _ c hc)⟩
  cases decide (i < 0) with
  | true => exact List.forall_mem_singleton.mpr (.inl rfl)
  | false => exact List.forall_mem_nil _

theorem spelling_decimalOf (value : Int64) :
    (Token.whole (decimalOf value) (isWhole_decimalOf value)).spelling
      = (toString value.toInt).toList :=
  (toList_toString_int value.toInt).symm

theorem signedValue_decimalOf (value : Int64) :
    signedValue (decimalOf value).negative (decimalOf value).digits = value.toInt := by
  have hdigits : digitsValue (Nat.toDigits 10 value.toInt.natAbs) = value.toInt.natAbs :=
    Nat.ofDigitChars_toDigits (by decide) (by decide)
  rw [decimalOf, signedValue, hdigits]
  by_cases hneg : value.toInt < 0
  · rw [decide_eq_true hneg, if_pos rfl]
    omega
  · rw [decide_eq_false hneg, if_neg Bool.false_ne_true]
    omega

theorem inRange_decimalOf (value : Int64) :
    (Token.whole (decimalOf value) (isWhole_decimalOf value)).InRange := by
  rw [Token.InRange, signedValue_decimalOf]
  exact ⟨Int64.minValue_le_toInt value, Int64.toInt_le value⟩

/-- The numeral of a number denotes the number. -/
theorem value_decimalOf (value : Int64) : (decimalOf value).value = value := by
  rw [WholeNumeral.value, signedValue_decimalOf, int64Of?,
    if_pos ⟨Int64.minValue_le_toInt value, Int64.toInt_le value⟩, Int64.ofInt_toInt]
  rfl

/-! ### Floating-point numbers -/

/-- A character that numbers are written with. -/
def isNumeralChar (c : Char) : Bool := c.isDigit || c = '-' || c = '.' || c = 'e'

/-- A lexeme with the look of a floating-point number. -/
def Lexeme.isFraction : Lexeme → Bool
  | word cs => (cs.head?.any fun c => c = '-' || c.isDigit) && cs.any fun c => c = '.' || c = 'e'
  | mark _ => false

/-- The text of a positive number: a digit comes first, and somewhere a point or an exponent. -/
structure LooksPositive (cs : List Char) : Prop where
  first : ∃ c ds, cs = c :: ds ∧ c.isDigit = true
  chars : ∀ c ∈ cs, isNumeralChar c = true
  fraction : '.' ∈ cs ∨ 'e' ∈ cs

theorem isNumeralChar_of_isDigit {c : Char} (h : c.isDigit = true) : isNumeralChar c = true := by
  simp [isNumeralChar, h]

theorem isSolid_of_isNumeralChar {c : Char} (h : isNumeralChar c = true) : isSolid c = true := by
  cases hsolid : isSolid c with
  | true => rfl
  | false =>
    have hends : wordEnds.all (fun d => !isNumeralChar d) = true := by decide +kernel
    have hstop := of_not_solid hends hsolid
    simp [h] at hstop

theorem isNumeralChar_int (i : Int) : ∀ c ∈ (toString i).toList, isNumeralChar c = true := by
  intro c hc
  rcases minus_or_digit i c hc with rfl | hdigit
  · decide
  · exact isNumeralChar_of_isDigit hdigit

section

open Binary64

variable (d : Decimal)

theorem digits_ne_nil : d.digits ≠ [] := Nat.toDigits_ne_nil

theorem isDigit_digits : ∀ c ∈ d.digits, c.isDigit = true := isDigit_toDigits _

theorem exists_first_digit {ds : List Char} (hne : ds ≠ []) (hds : ∀ c ∈ ds, c.isDigit = true)
    (rest : List Char) : ∃ c cs, ds ++ rest = c :: cs ∧ c.isDigit = true := by
  cases ds with
  | nil => exact absurd rfl hne
  | cons c cs => exact ⟨c, cs ++ rest, rfl, hds c List.mem_cons_self⟩

/-- Digits, a point and digits. -/
theorem looksPositive_point {ds es : List Char} (hne : ds ≠ [])
    (hds : ∀ c ∈ ds, c.isDigit = true) (hes : ∀ c ∈ es, c.isDigit = true) :
    LooksPositive (ds ++ '.' :: es) := by
  refine ⟨exists_first_digit hne hds _, ?_, .inl (by simp)⟩
  refine List.forall_mem_append.mpr ⟨fun c hc => isNumeralChar_of_isDigit (hds c hc), ?_⟩
  exact List.forall_mem_cons.mpr ⟨by decide, fun c hc => isNumeralChar_of_isDigit (hes c hc)⟩

theorem isDigit_zeros (n : Nat) : ∀ c ∈ List.replicate n '0', c.isDigit = true := by
  intro c hc
  rw [List.eq_of_mem_replicate hc]
  decide

theorem looksPositive_positional : LooksPositive d.positional := by
  have hdigits := isDigit_digits d
  rw [Decimal.positional]
  -- the point stands behind the digits, among them, or in front of them
  split
  · next =>
    have hwhole : ∀ c ∈ d.digits ++ List.replicate d.exponent.toNat '0', c.isDigit = true :=
      List.forall_mem_append.mpr ⟨hdigits, isDigit_zeros _⟩
    exact looksPositive_point (List.append_ne_nil_of_left_ne_nil (digits_ne_nil d) _) hwhole
      (List.forall_mem_singleton.mpr (by decide))
  split
  · next hplaces =>
    refine looksPositive_point ?_ (fun c hc => hdigits c (List.mem_of_mem_take hc))
      (fun c hc => hdigits c (List.mem_of_mem_drop hc))
    rw [Ne, List.take_eq_nil_iff, not_or]
    exact ⟨by omega, digits_ne_nil d⟩
  · next =>
    have hfraction := List.forall_mem_append.mpr
      ⟨isDigit_zeros ((-d.exponent).toNat - d.digits.length), hdigits⟩
    have hzero : ∀ c ∈ ['0'], c.isDigit = true := List.forall_mem_singleton.mpr (by decide)
    exact looksPositive_point (List.cons_ne_nil _ _) hzero hfraction

theorem looksPositive_scientific : LooksPositive d.scientific := by
  have hdigits := isDigit_digits d
  have hne := digits_ne_nil d
  have hexponent : ∀ c ∈ 'e' :: (toString d.leading).toList, isNumeralChar c = true :=
    List.forall_mem_cons.mpr ⟨by decide, isNumeralChar_int _⟩
  rw [Decimal.scientific]
  -- one digit, or a point behind the first of several
  rcases hcases : d.digits with _ | ⟨c, _ | ⟨c', cs⟩⟩
  · exact absurd hcases hne
  · rw [hcases, List.forall_mem_singleton] at hdigits
    refine ⟨⟨c, _, rfl, hdigits⟩, ?_, .inr (by simp)⟩
    exact List.forall_mem_cons.mpr ⟨isNumeralChar_of_isDigit hdigits, hexponent⟩
  · rw [hcases, List.forall_mem_cons] at hdigits
    refine ⟨⟨c, _, rfl, hdigits.1⟩, ?_, .inl (by simp)⟩
    refine List.forall_mem_append.mpr ⟨?_, hexponent⟩
    refine List.forall_mem_cons.mpr ⟨isNumeralChar_of_isDigit hdigits.1, ?_⟩
    exact List.forall_mem_cons.mpr
      ⟨by decide, fun c hc => isNumeralChar_of_isDigit (hdigits.2 c hc)⟩

theorem looksPositive_magnitudeText {magnitude : Nat} (h : magnitude < infiniteMagnitude) :
    LooksPositive (magnitudeText magnitude) := by
  by_cases hzero : magnitude = 0
  · rw [magnitudeText, if_pos hzero]
    exact ⟨⟨'0', _, rfl, by decide⟩, List.all_eq_true.mp (by decide), .inl (by decide)⟩
  · rw [magnitudeText, if_neg hzero, if_pos h, Decimal.text]
    split
    · exact looksPositive_positional _
    · exact looksPositive_scientific _

/-- The text of a finite number, with its sign. -/
theorem toList_text {x : Binary64} (h : x.isFinite = true) :
    x.text.toList = signChars x.isNegative ++ magnitudeText x.magnitude := by
  have hlt : x.magnitude < infiniteMagnitude := by simpa [isFinite] using h
  have hdefined : x.isUndefined = false := by
    rw [isUndefined, decide_eq_false_iff_not]
    omega
  rw [Binary64.text, hdefined, if_neg Bool.false_ne_true, String.toList_ofList]
  cases x.isNegative <;> rfl

end

/-- Behind a sign stands the text of a positive number. -/
structure LooksFractional (cs : List Char) : Prop where
  ne_nil : cs ≠ []
  solid : ∀ c ∈ cs, isSolid c = true
  fraction : (Lexeme.word cs).isFraction = true

theorem LooksPositive.signed {cs : List Char} (h : LooksPositive cs) (negative : Bool) :
    LooksFractional (signChars negative ++ cs) := by
  obtain ⟨⟨c, ds, rfl, hc⟩, hchars, hfraction⟩ := h
  have hsolid : ∀ d ∈ c :: ds, isSolid d = true :=
    fun d hd => isSolid_of_isNumeralChar (hchars d hd)
  have hany : (c :: ds).any (fun d => d = '.' || d = 'e') = true := by
    rw [List.any_eq_true]
    rcases hfraction with h | h
    · exact ⟨'.', h, by decide⟩
    · exact ⟨'e', h, by decide⟩
  cases negative with
  | false =>
    refine ⟨List.cons_ne_nil c ds, hsolid, ?_⟩
    rw [signChars, if_neg Bool.false_ne_true, List.nil_append, Lexeme.isFraction, hany]
    simp [hc]
  | true =>
    refine ⟨List.cons_ne_nil _ _, List.forall_mem_cons.mpr ⟨by decide, hsolid⟩, ?_⟩
    rw [signChars, if_pos rfl, List.singleton_append, Lexeme.isFraction, List.any_cons, hany]
    simp

/-- The text of a finite number looks like a floating-point number. -/
theorem isFraction_text {x : Binary64} (h : x.isFinite = true) :
    LooksFractional x.text.toList := by
  have hlt : x.magnitude < Binary64.infiniteMagnitude := by simpa [Binary64.isFinite] using h
  rw [toList_text h]
  exact (looksPositive_magnitudeText hlt).signed _

/-! ### What is no floating-point number -/

theorem isFraction_of_isWord {cs : List Char} (h : isWord cs = true) :
    (Lexeme.word cs).isFraction = false := by
  obtain ⟨c, ds, rfl, hc, -⟩ := isWord_iff.mp h
  have hminus : c ≠ '-' := by
    rintro rfl
    exact absurd hc (by decide +kernel)
  have hdigit : c.isDigit = false := by
    cases hd : c.isDigit with
    | false => rfl
    | true => rw [isStart_eq_false_of_isDigit hd] at hc; exact hc.symm
  simp [Lexeme.isFraction, hminus, hdigit]

theorem isFraction_int (value : Int64) :
    (Lexeme.word (toString value.toInt).toList).isFraction = false := by
  have hany : (toString value.toInt).toList.any (fun c => c = '.' || c = 'e') = false := by
    rw [List.any_eq_false]
    intro c hc hfraction
    simp only [Bool.or_eq_true, decide_eq_true_eq] at hfraction
    rcases minus_or_digit _ c hc with rfl | hdigit
    · exact absurd hfraction (by decide)
    · rcases hfraction with rfl | rfl
      · exact absurd hdigit (by decide)
      · exact absurd hdigit (by decide)
  rw [Lexeme.isFraction, hany, Bool.and_false]

/-- A whole number is one word. -/
theorem isSolid_int (i : Int) : ∀ c ∈ (toString i).toList, isSolid c = true :=
  fun c hc => isSolid_of_isNumeralChar (isNumeralChar_int i c hc)

theorem toList_toString_int_ne_nil (i : Int) : (toString i).toList ≠ [] := by
  rw [toList_toString_int]
  exact List.append_ne_nil_of_right_ne_nil _ Nat.toDigits_ne_nil

end ToyLang.Source
