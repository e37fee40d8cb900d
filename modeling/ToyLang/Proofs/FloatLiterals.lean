import ToyLang.Proofs.Numerals
import ToyLang.Proofs.Scanners
import ToyLang.Proofs.Shortest

/-!
# Floating-point literals and what they denote

A floating-point literal is a sign, digits, and behind these a fraction, a power of ten, or both.
It denotes a rational number exactly, and the binary number that this one rounds to, under the sign
of the literal: so the two zeros are told apart.  The numerals of the source language are such
literals, and the text of every finite number is one, of which the number is the one denoted.

## Main definitions

* `FloatLiteral` — a literal with the proof that it is one; `FloatLiteral.spelling`, its text.
* `FloatLiteral.size` — the rational number that a literal denotes, but for the sign.
* `FloatLiteral.Denotes` — the binary number that a literal is read as.

## Main results

* `FloatLiteral.spelling_inj` — a text is one literal at most.
* `denotes_iff_eq_value` — numerals are read as what they denote.
* `exists_literal_text` — the text of a finite number is a literal that denotes it.
-/

namespace ToyLang.Source

open Binary64

/-! ### Literals -/

/-- One or more decimal digits. -/
def Digits (cs : List Char) : Prop := cs ≠ [] ∧ ∀ c ∈ cs, c.isDigit = true

/-- A fraction as it is written. -/
def pointChars : Option (List Char) → List Char
  | none => []
  | some ds => '.' :: ds

/-- A power of ten as it is written. -/
def powerChars : Option (Bool × List Char) → List Char
  | none => []
  | some (negative, ds) => 'e' :: (signChars negative ++ ds)

/-- A floating-point literal: digits with a fraction or a power of ten, or both. -/
structure FloatLiteral where
  negative : Bool
  whole : List Char
  fraction : Option (List Char)
  power : Option (Bool × List Char)
  whole_digits : Digits whole
  fraction_digits : ∀ ds ∈ fraction, Digits ds
  power_digits : ∀ p ∈ power, Digits p.2
  marked : fraction ≠ none ∨ power ≠ none

namespace FloatLiteral

/-- A literal as it is written behind its sign. -/
def unsigned (l : FloatLiteral) : List Char :=
  l.whole ++ (pointChars l.fraction ++ powerChars l.power)

/-- A literal as it is written. -/
def spelling (l : FloatLiteral) : List Char := signChars l.negative ++ l.unsigned

/-- The digits behind the point. -/
def places (l : FloatLiteral) : List Char := l.fraction.getD []

/-- The power of ten. -/
def exponent (l : FloatLiteral) : ℤ := (l.power.map fun p => signedValue p.1 p.2).getD 0

/-- The rational number that a literal denotes, but for the sign. -/
def size (l : FloatLiteral) : ℚ :=
  digitsValue (l.whole ++ l.places) * 10 ^ (l.exponent - l.places.length)

/-- The binary number that a literal is read as: its size rounded, under its sign. -/
def Denotes (l : FloatLiteral) (x : Binary64) : Prop :=
  Rounds l.size x.magnitude ∧ x.isNegative = l.negative

variable {l l' : FloatLiteral} {x y : Binary64}

/-- Digits end where something else stands. -/
theorem digits_append_inj {ds es rest rest' : List Char} (hds : Digits ds) (hes : Digits es)
    (hrest : ∀ c ∈ rest.head?, c.isDigit = false) (hrest' : ∀ c ∈ rest'.head?, c.isDigit = false)
    (h : ds ++ rest = es ++ rest') : ds = es ∧ rest = rest' := by
  have hfront := takeWhile_append_of_stop hds.2 hrest
  have hback := dropWhile_append_of_stop hds.2 hrest
  rw [h] at hfront hback
  exact ⟨hfront.symm.trans (takeWhile_append_of_stop hes.2 hrest'),
    hback.symm.trans (dropWhile_append_of_stop hes.2 hrest')⟩

theorem exists_first {ds : List Char} (h : Digits ds) (rest : List Char) :
    ∃ c cs, ds ++ rest = c :: cs ∧ c.isDigit = true :=
  exists_first_digit h.1 h.2 rest

/-- A sign is told by the first character, where digits stand behind it. -/
theorem signChars_append_inj {n n' : Bool} {ds es rest rest' : List Char} (hds : Digits ds)
    (hes : Digits es) (h : signChars n ++ (ds ++ rest) = signChars n' ++ (es ++ rest')) :
    n = n' ∧ ds ++ rest = es ++ rest' := by
  have hminus : Char.isDigit '-' = false := by decide
  obtain ⟨c, cs, hc, hdigit⟩ := exists_first hds rest
  obtain ⟨d, es', hd, hdigit'⟩ := exists_first hes rest'
  rw [hc, hd] at h ⊢
  cases n <;> cases n'
  · exact ⟨rfl, h⟩
  · obtain ⟨rfl, -⟩ := List.cons.inj h
    exact absurd (hdigit.symm.trans hminus) (by decide)
  · obtain ⟨rfl, -⟩ := List.cons.inj h
    exact absurd (hdigit'.symm.trans hminus) (by decide)
  · exact ⟨rfl, List.cons_injective h⟩

theorem head?_powerChars (p : Option (Bool × List Char)) : ∀ c ∈ (powerChars p).head?, c = 'e' := by
  cases p with
  | none => exact fun c hc => by cases hc
  | some p => exact fun c hc => (Option.some.inj hc).symm

theorem isDigit_head?_powerChars (p : Option (Bool × List Char)) :
    ∀ c ∈ (powerChars p).head?, c.isDigit = false := by
  intro c hc
  rw [head?_powerChars p c hc]
  decide

theorem powerChars_inj {p p' : Option (Bool × List Char)} (hp : ∀ r ∈ p, Digits r.2)
    (hp' : ∀ r ∈ p', Digits r.2) (h : powerChars p = powerChars p') : p = p' := by
  cases p with
  | none =>
    cases p' with
    | none => rfl
    | some r' => cases h
  | some r =>
    cases p' with
    | none => cases h
    | some r' =>
      obtain ⟨n, ds⟩ := r
      obtain ⟨n', ds'⟩ := r'
      have hbody : signChars n ++ (ds ++ []) = signChars n' ++ (ds' ++ []) := by
        rw [List.append_nil, List.append_nil]
        exact List.cons_injective h
      obtain ⟨rfl, hdigits⟩ := signChars_append_inj (hp _ rfl) (hp' _ rfl) hbody
      rw [List.append_nil, List.append_nil] at hdigits
      exact congrArg (fun es => some (n, es)) hdigits

/-- Behind the whole digits stands a point, an `e`, or nothing. -/
theorem isDigit_head?_tail (f : Option (List Char)) (p : Option (Bool × List Char)) :
    ∀ c ∈ (pointChars f ++ powerChars p).head?, c.isDigit = false := by
  cases f with
  | none => exact isDigit_head?_powerChars p
  | some ds =>
    intro c hc
    obtain rfl := Option.some.inj hc
    decide

theorem tail_inj {f f' : Option (List Char)} {p p' : Option (Bool × List Char)}
    (hf : ∀ ds ∈ f, Digits ds) (hf' : ∀ ds ∈ f', Digits ds)
    (h : pointChars f ++ powerChars p = pointChars f' ++ powerChars p') :
    f = f' ∧ powerChars p = powerChars p' := by
  have hpoint {ds es : List Char} {r : Option (Bool × List Char)} :
      powerChars r ≠ '.' :: (ds ++ es) := by
    intro heq
    have hfirst := head?_powerChars r '.' (by rw [heq]; rfl)
    exact absurd hfirst (by decide)
  cases f with
  | none =>
    cases f' with
    | none => exact ⟨rfl, h⟩
    | some ds' => exact absurd h hpoint
  | some ds =>
    cases f' with
    | none => exact absurd h.symm hpoint
    | some ds' =>
      obtain ⟨rfl, hpower⟩ := digits_append_inj (hf _ rfl) (hf' _ rfl)
        (isDigit_head?_powerChars p) (isDigit_head?_powerChars p') (List.cons_injective h)
      exact ⟨rfl, hpower⟩

/-- A text is one literal at most. -/
theorem spelling_inj (h : l.spelling = l'.spelling) : l = l' := by
  obtain ⟨n, w, f, p, hw, hf, hp, hmarked⟩ := l
  obtain ⟨n', w', f', p', hw', hf', hp', hmarked'⟩ := l'
  obtain ⟨rfl, hbody⟩ := signChars_append_inj hw hw' h
  obtain ⟨rfl, htail⟩ := digits_append_inj hw hw' (isDigit_head?_tail f p)
    (isDigit_head?_tail f' p') hbody
  obtain ⟨rfl, hpower⟩ := tail_inj hf hf' htail
  obtain rfl := powerChars_inj hp hp' hpower
  rfl

/-- A literal is no whole numeral: it has a point or an `e`. -/
theorem mark_mem_unsigned (l : FloatLiteral) : '.' ∈ l.unsigned ∨ 'e' ∈ l.unsigned := by
  rcases l.marked with h | h
  · obtain ⟨ds, hds⟩ := Option.ne_none_iff_exists'.mp h
    refine .inl ?_
    rw [unsigned, hds]
    simp [pointChars]
  · obtain ⟨r, hr⟩ := Option.ne_none_iff_exists'.mp h
    refine .inr ?_
    rw [unsigned, hr]
    simp [powerChars]

/-! ### What a literal denotes -/

theorem magnitude_ofMagnitude (negative : Bool) {m : ℕ} (h : m ≤ infiniteMagnitude) :
    (ofMagnitude negative m).magnitude = m ∧ (ofMagnitude negative m).isNegative = negative := by
  have hbound : infiniteMagnitude < twoTo 63 := by decide
  have hlarge : twoTo 63 + twoTo 63 = 2 ^ 64 := by decide
  have hlt : (if negative then twoTo 63 + m else m) < 2 ^ 64 := by
    split <;> omega
  rw [Binary64.magnitude, Binary64.isNegative, ofMagnitude, UInt64.toNat_ofNat_of_lt' hlt]
  cases negative with
  | false =>
    rw [if_neg Bool.false_ne_true, Nat.mod_eq_of_lt (by omega), decide_eq_false (by omega)]
    exact ⟨rfl, rfl⟩
  | true =>
    rw [if_pos rfl, Nat.add_mod_left, Nat.mod_eq_of_lt (by omega), decide_eq_true (by omega)]
    exact ⟨rfl, rfl⟩

/-- A number is its magnitude under its sign. -/
theorem eq_of_magnitude {x y : Binary64} (hm : x.magnitude = y.magnitude)
    (hn : x.isNegative = y.isNegative) : x = y := by
  have hx := x.bits.toNat_lt
  have hy := y.bits.toNat_lt
  have hpow : twoTo 63 = 9223372036854775808 := rfl
  have hbits : x.bits.toNat = y.bits.toNat := by
    rw [Binary64.magnitude, Binary64.magnitude, hpow] at hm
    rw [Binary64.isNegative, Binary64.isNegative, decide_eq_decide, hpow] at hn
    omega
  obtain ⟨b⟩ := x
  obtain ⟨c⟩ := y
  exact congrArg Binary64.mk (UInt64.toNat_inj.mp hbits)

/-- A literal denotes one number. -/
theorem Denotes.iff_eq (h : l.Denotes x) (y : Binary64) : l.Denotes y ↔ y = x := by
  constructor
  · intro hy
    exact eq_of_magnitude (hy.1.unique h.1) (hy.2.trans h.2.symm)
  · rintro rfl
    exact h

end FloatLiteral

open FloatLiteral

theorem IsWhole.digits {cs : List Char} (h : IsWhole cs) : Digits cs := by
  cases cs with
  | nil => exact h.elim
  | cons c cs =>
    refine ⟨List.cons_ne_nil c cs, ?_⟩
    obtain ⟨rfl, rfl⟩ | ⟨-, hc, hcs⟩ := h
    · exact List.forall_mem_singleton.mpr (by decide)
    · exact List.forall_mem_cons.mpr ⟨hc, hcs⟩

theorem IsFraction.digits {cs : List Char} (h : IsFraction cs) : Digits cs := by
  cases cs with
  | nil => exact h.elim
  | cons c cs => exact ⟨List.cons_ne_nil c cs, List.forall_mem_cons.mpr h⟩

/-- A numeral with a fraction is a literal. -/
def FractionalNumeral.literal (n : FractionalNumeral)
    (valid : IsWhole n.digits ∧ IsFraction n.fraction) : FloatLiteral where
  negative := n.negative
  whole := n.digits
  fraction := some n.fraction
  power := none
  whole_digits := valid.1.digits
  fraction_digits := fun _ hds => Option.some.inj hds ▸ valid.2.digits
  power_digits := fun _ hp => by cases hp
  marked := .inl (Option.some_ne_none _)

theorem FractionalNumeral.spelling_literal (n : FractionalNumeral)
    (valid : IsWhole n.digits ∧ IsFraction n.fraction) :
    (n.literal valid).spelling = (Token.fractional n valid).spelling := by
  rw [FloatLiteral.spelling, unsigned, literal, Token.spelling]
  simp only [pointChars, powerChars, List.append_nil]

/-- A numeral is read as what it denotes: the number that is nearest to it, a tie going to the even
one. -/
theorem FractionalNumeral.denotes_value (n : FractionalNumeral)
    (valid : IsWhole n.digits ∧ IsFraction n.fraction) : (n.literal valid).Denotes n.value := by
  have hpos : 0 < tenTo n.fraction.length := Nat.pow_pos (by decide)
  have hrounds := rounds_nearestMagnitude (digitsValue (n.digits ++ n.fraction)) hpos
  obtain ⟨hmagnitude, hsign⟩ := magnitude_ofMagnitude n.negative hrounds.le
  have hsize : (n.literal valid).size
      = digitsValue (n.digits ++ n.fraction) / (tenTo n.fraction.length : ℕ) := by
    have hten : ((tenTo n.fraction.length : ℕ) : ℚ) = 10 ^ n.fraction.length := Nat.cast_pow 10 _
    rw [hten, div_eq_mul_inv, ← zpow_natCast, ← zpow_neg, ← zero_sub]
    rfl
  refine ⟨?_, hsign⟩
  rw [hsize, FractionalNumeral.value, ofDecimal, hmagnitude]
  exact hrounds

/-! ### The text of a number -/

theorem digitsValue_append_zeros (ds : List Char) (k : ℕ) :
    digitsValue (ds ++ List.replicate k '0') = 10 ^ k * digitsValue ds := by
  rw [digitsValue, Nat.ofDigitChars_append, Nat.ofDigitChars_replicate_zero, ← digitsValue]

theorem digitsValue_zeros_append (k : ℕ) (ds : List Char) :
    digitsValue (List.replicate k '0' ++ ds) = digitsValue ds := by
  rw [digitsValue, Nat.ofDigitChars_append, Nat.ofDigitChars_replicate_zero, Nat.mul_zero,
    ← digitsValue]

theorem digitsValue_toDigits (n : ℕ) : digitsValue (Nat.toDigits 10 n) = n :=
  Nat.ofDigitChars_toDigits (by decide) (by decide)

theorem digits_toDigits (n : ℕ) : Digits (Nat.toDigits 10 n) :=
  ⟨Nat.toDigits_ne_nil, isDigit_toDigits n⟩

theorem signedValue_toDigits (i : ℤ) :
    signedValue (decide (i < 0)) (Nat.toDigits 10 i.natAbs) = i := by
  rw [signedValue, digitsValue_toDigits]
  by_cases hneg : i < 0
  · rw [decide_eq_true hneg, if_pos rfl]
    omega
  · rw [decide_eq_false hneg, if_neg Bool.false_ne_true]
    omega

section

variable (negative : Bool) (d : Decimal)

/-- A literal with a fraction and without a power of ten. -/
def pointed {whole places : List Char} (hwhole : Digits whole) (hplaces : Digits places) :
    FloatLiteral where
  negative := negative
  whole := whole
  fraction := some places
  power := none
  whole_digits := hwhole
  fraction_digits := fun _ h => Option.some.inj h ▸ hplaces
  power_digits := fun _ h => by cases h
  marked := .inl (Option.some_ne_none _)

theorem unsigned_pointed {whole places : List Char} (hwhole : Digits whole)
    (hplaces : Digits places) :
    (pointed negative hwhole hplaces).unsigned = whole ++ '.' :: places := by
  rw [unsigned, pointed, pointChars, powerChars, List.append_nil]

/-- A point moves a number by powers of ten. -/
theorem size_pointed {whole places : List Char} (hwhole : Digits whole)
    (hplaces : Digits places) : (pointed negative hwhole hplaces).size
      = digitsValue (whole ++ places) * 10 ^ (-(places.length : ℤ)) := by
  rw [FloatLiteral.size, ← zero_sub]
  rfl

/-- The text is a literal that denotes the decimal. -/
def IsText (text : List Char) : Prop :=
  ∃ l : FloatLiteral, l.negative = negative ∧ l.unsigned = text ∧ l.size = d.value

theorem digits_digits : Digits d.digits := ⟨digits_ne_nil d, isDigit_digits d⟩

theorem digitsValue_digits : digitsValue d.digits = d.coefficient := digitsValue_toDigits _

theorem digits_zero : Digits ['0'] :=
  ⟨List.cons_ne_nil _ _, List.forall_mem_singleton.mpr (by decide)⟩

section

variable {d}

/-- The point stands behind the digits. -/
theorem isText_point_behind (h : 0 ≤ d.exponent) :
    IsText negative d (d.digits ++ List.replicate d.exponent.toNat '0' ++ ['.', '0']) := by
  have hwhole : Digits (d.digits ++ List.replicate d.exponent.toNat '0') :=
    ⟨List.append_ne_nil_of_left_ne_nil (digits_ne_nil d) _,
      List.forall_mem_append.mpr ⟨isDigit_digits d, isDigit_zeros _⟩⟩
  obtain ⟨k, hk⟩ := Int.eq_ofNat_of_zero_le h
  have hvalue : digitsValue (d.digits ++ List.replicate k '0' ++ ['0'])
      = 10 ^ (k + 1) * d.coefficient := by
    rw [List.append_assoc, ← List.replicate_succ', digitsValue_append_zeros, digitsValue_digits]
  refine ⟨pointed negative hwhole digits_zero, rfl, unsigned_pointed _ _ _, ?_⟩
  rw [size_pointed, hk, Int.toNat_natCast, hvalue, Decimal.value, hk]
  push_cast
  rw [List.length_singleton, Nat.cast_one, zpow_natCast, zpow_neg_one, pow_succ]
  ring

/-- The point stands among the digits. -/
theorem isText_point_among {places : ℕ} (hplaces : -d.exponent = places) (hpos : places ≠ 0)
    (hlt : places < d.digits.length) : IsText negative d
      (d.digits.take (d.digits.length - places) ++
        '.' :: d.digits.drop (d.digits.length - places)) := by
  have htake : Digits (d.digits.take (d.digits.length - places)) := by
    refine ⟨?_, fun c hc => isDigit_digits d c (List.mem_of_mem_take hc)⟩
    rw [Ne, List.take_eq_nil_iff, not_or]
    exact ⟨by omega, digits_ne_nil d⟩
  have hdrop : Digits (d.digits.drop (d.digits.length - places)) := by
    refine ⟨?_, fun c hc => isDigit_digits d c (List.mem_of_mem_drop hc)⟩
    rw [Ne, List.drop_eq_nil_iff]
    omega
  have hlength : -((d.digits.drop (d.digits.length - places)).length : ℤ) = d.exponent := by
    rw [List.length_drop]
    omega
  refine ⟨pointed negative htake hdrop, rfl, unsigned_pointed _ _ _, ?_⟩
  rw [size_pointed, hlength, List.take_append_drop, digitsValue_digits, Decimal.value]

/-- The point stands in front of the digits. -/
theorem isText_point_before {places : ℕ} (hplaces : -d.exponent = places)
    (hle : d.digits.length ≤ places) : IsText negative d
      ('0' :: '.' :: (List.replicate (places - d.digits.length) '0' ++ d.digits)) := by
  have hfraction : Digits (List.replicate (places - d.digits.length) '0' ++ d.digits) :=
    ⟨List.append_ne_nil_of_right_ne_nil _ (digits_ne_nil d),
      List.forall_mem_append.mpr ⟨isDigit_zeros _, isDigit_digits d⟩⟩
  have hlength : -((List.replicate (places - d.digits.length) '0' ++ d.digits).length : ℤ)
      = d.exponent := by
    rw [List.length_append, List.length_replicate]
    omega
  have hvalue : digitsValue (['0'] ++ (List.replicate (places - d.digits.length) '0' ++ d.digits))
      = d.coefficient := by
    rw [List.singleton_append, ← List.cons_append, ← List.replicate_succ,
      digitsValue_zeros_append, digitsValue_digits]
  refine ⟨pointed negative digits_zero hfraction, rfl, unsigned_pointed _ _ _, ?_⟩
  rw [size_pointed, hlength, hvalue, Decimal.value]

end

theorem isText_positional : IsText negative d d.positional := by
  rw [Decimal.positional]
  split
  · exact isText_point_behind negative (by omega)
  split
  · next hpos hlt => exact isText_point_among negative (by omega) hpos hlt
  · next hle => exact isText_point_before negative (by omega) (not_lt.mp hle)

/-- A literal with a power of ten. -/
def powered {whole : List Char} (hwhole : Digits whole) {fraction : Option (List Char)}
    (hfraction : ∀ ds ∈ fraction, Digits ds) (i : ℤ) : FloatLiteral where
  negative := negative
  whole := whole
  fraction := fraction
  power := some (decide (i < 0), Nat.toDigits 10 i.natAbs)
  whole_digits := hwhole
  fraction_digits := hfraction
  power_digits := fun _ h => Option.some.inj h ▸ digits_toDigits _
  marked := .inr (Option.some_ne_none _)

theorem unsigned_powered {whole : List Char} (hwhole : Digits whole)
    {fraction : Option (List Char)} (hfraction : ∀ ds ∈ fraction, Digits ds) (i : ℤ) :
    (powered negative hwhole hfraction i).unsigned
      = whole ++ (pointChars fraction ++ 'e' :: (toString i).toList) := by
  rw [unsigned, powered, powerChars, toList_toString_int]

theorem size_powered {whole : List Char} (hwhole : Digits whole)
    {fraction : Option (List Char)} (hfraction : ∀ ds ∈ fraction, Digits ds) (i : ℤ) :
    (powered negative hwhole hfraction i).size
      = digitsValue (whole ++ fraction.getD []) * 10 ^ (i - (fraction.getD []).length) := by
  have hpower : (powered negative hwhole hfraction i).exponent = i := signedValue_toDigits i
  rw [FloatLiteral.size, hpower]
  rfl

theorem isText_scientific : IsText negative d d.scientific := by
  have hdigits := digits_digits d
  have hvalue := digitsValue_digits d
  have hleading : d.leading = d.exponent + (d.digits.length : ℤ) - 1 := rfl
  rw [Decimal.scientific]
  -- one digit, or a point behind the first of several
  rcases hcases : d.digits with _ | ⟨c, _ | ⟨c', cs⟩⟩
  · exact absurd hcases (digits_ne_nil d)
  · rw [hcases] at hdigits hvalue hleading
    have hnone : ∀ ds ∈ (none : Option (List Char)), Digits ds := fun _ h => by cases h
    refine ⟨powered negative hdigits hnone d.leading, rfl, unsigned_powered _ _ _ _, ?_⟩
    have hexponent : d.leading - (([] : List Char).length : ℤ) = d.exponent := by
      rw [hleading]
      simp
    rw [size_powered, Option.getD_none, List.append_nil, hvalue, hexponent, Decimal.value]
  · rw [hcases] at hdigits hvalue hleading
    obtain ⟨hc, hcs⟩ := List.forall_mem_cons.mp hdigits.2
    have hfirst : Digits [c] := ⟨List.cons_ne_nil _ _, List.forall_mem_singleton.mpr hc⟩
    have htail : ∀ ds ∈ some (c' :: cs), Digits ds :=
      fun _ h => Option.some.inj h ▸ ⟨List.cons_ne_nil _ _, hcs⟩
    refine ⟨powered negative hfirst htail d.leading, rfl, unsigned_powered _ _ _ _, ?_⟩
    have hexponent : d.leading - ((c' :: cs).length : ℤ) = d.exponent := by
      rw [hleading, List.length_cons, List.length_cons]
      push_cast
      ring
    rw [size_powered, Option.getD_some, List.singleton_append, hvalue, hexponent, Decimal.value]

theorem isText_text : IsText negative d d.text := by
  rw [Decimal.text]
  split
  · exact isText_positional negative d
  · exact isText_scientific negative d

end

/-- The text of a finite number is a literal that denotes it. -/
theorem exists_literal_text {x : Binary64} (h : x.isFinite = true) :
    ∃ l : FloatLiteral, l.spelling = x.text.toList ∧ l.unsigned = magnitudeText x.magnitude ∧
      l.Denotes x := by
  have hlt : x.magnitude < infiniteMagnitude := by simpa [isFinite] using h
  have hsigned {l : FloatLiteral} (hn : l.negative = x.isNegative)
      (hu : l.unsigned = magnitudeText x.magnitude) : l.spelling = x.text.toList := by
    rw [toList_text h, FloatLiteral.spelling, hn, hu]
  by_cases hzero : x.magnitude = 0
  · have hdigits : Digits ['0'] :=
      ⟨List.cons_ne_nil _ _, List.forall_mem_singleton.mpr (by decide)⟩
    have htext : (pointed x.isNegative hdigits hdigits).unsigned = magnitudeText x.magnitude := by
      rw [unsigned_pointed, magnitudeText, if_pos hzero]
      rfl
    refine ⟨_, hsigned rfl htext, htext, ?_, rfl⟩
    have hsize : (pointed x.isNegative hdigits hdigits).size = 0 := by
      have hvalue : digitsValue (['0'] ++ ['0']) = 0 := by decide
      rw [size_pointed, hvalue, Nat.cast_zero, zero_mul]
    rw [hsize, hzero]
    exact rounds_zero
  · obtain ⟨l, hn, hu, hsize⟩ := isText_text x.isNegative (shortest x.magnitude)
    have htext : l.unsigned = magnitudeText x.magnitude := by
      rw [magnitudeText, if_neg hzero, if_pos hlt, hu]
    refine ⟨l, hsigned hn htext, htext, ?_, hn.symm⟩
    rw [hsize]
    exact rounds_shortest (Nat.pos_of_ne_zero hzero) hlt

end ToyLang.Source
