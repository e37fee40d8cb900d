import Mathlib.Algebra.Order.Field.Power
import ToyLang.Binary64.Text
import ToyLang.Proofs.Rounding

/-!
# The decimal of a number is read back as it

The bounds of the rounding interval are the midpoints around a magnitude, so what lies in the
interval rounds to the magnitude.  The search for a decimal tests the points of a grid against the
interval by whole numbers alone, which decides the same as the test on rational numbers; and where
no grid has a point in the interval, it takes the value itself.  So the decimal that it ends with
rounds to the magnitude in every case.

## Main definitions

* `Decimal.value` — the number that a decimal denotes.
* `Interval.Contains` — the numbers of an interval, in units of `2 ^ -1076`.

## Main results

* `hits_iff` — the test for a point of a grid is exact.
* `rounds_of_contains` — what lies in the rounding interval rounds to the magnitude.
* `rounds_shortest` — the shortest decimal rounds to its magnitude.
-/

namespace ToyLang.Binary64

/-! ### Intervals and grids -/

/-- The number that a decimal denotes. -/
def Decimal.value (d : Decimal) : ℚ := d.coefficient * 10 ^ d.exponent

/-- How many units of `2 ^ -1076` are one. -/
def quarters : ℚ := 2 ^ 1076

theorem quarters_pos : 0 < quarters := pow_pos two_pos _

theorem quarters_eq : quarters = 2 ^ 1074 * 4 := by
  have hfour : (2 : ℚ) ^ 2 = 4 := by norm_num
  rw [← hfour]
  exact pow_add 2 1074 2

theorem least_mul_quarters : least * quarters = 4 := by
  have hne : (2 : ℚ) ^ 1074 ≠ 0 := pow_ne_zero _ two_ne_zero
  rw [quarters_eq, least, ← mul_assoc, one_div_mul_cancel hne, one_mul]

/-- A number of units of `2 ^ -1076` lies in an interval. -/
def Interval.Contains (v : Interval) (x : ℚ) : Prop :=
  if v.closed then v.low ≤ x ∧ x ≤ v.high else v.low < x ∧ x < v.high

theorem Interval.Contains.of_lt {v : Interval} {x : ℚ} (hlow : (v.low : ℚ) < x)
    (hhigh : x < v.high) : v.Contains x := by
  rw [Interval.Contains]
  split
  · exact ⟨hlow.le, hhigh.le⟩
  · exact ⟨hlow, hhigh⟩

/-- The step of a grid in units, and what it is stretched by. -/
theorem step_eq (e : ℤ) : ((Grid.ofExponent e).step : ℚ)
    = 10 ^ e * quarters * ((Grid.ofExponent e).stretch : ℕ) := by
  have hpow : (10 : ℚ) ^ e.toNat = 10 ^ e * 10 ^ (-e).toNat := by
    rw [← zpow_natCast, ← zpow_natCast, ← zpow_add₀ (by norm_num)]
    congr 1
    omega
  have hten (n : ℕ) : ((tenTo n : ℕ) : ℚ) = 10 ^ n := Nat.cast_pow 10 n
  have hquarters : ((twoTo 1076 : ℕ) : ℚ) = quarters := cast_twoTo 1076
  rw [Grid.ofExponent, Nat.cast_mul, hten, hten, hquarters, hpow]
  ring

/-- The test for a point of a grid is exact. -/
theorem hits_iff {e : ℤ} {v : Interval} {c : ℕ} : (Grid.ofExponent e).hits v c = true ↔
    v.Contains ((⟨c, e⟩ : Decimal).value * quarters) := by
  have hstretch : 0 < (((Grid.ofExponent e).stretch : ℕ) : ℚ) := by
    exact_mod_cast Nat.pow_pos (by decide)
  have hpoint : ((c * (Grid.ofExponent e).step : ℕ) : ℚ)
      = (⟨c, e⟩ : Decimal).value * quarters * ((Grid.ofExponent e).stretch : ℕ) := by
    rw [Nat.cast_mul, step_eq, Decimal.value]
    ring
  have hbelow (n : ℕ) : n * (Grid.ofExponent e).stretch < c * (Grid.ofExponent e).step ↔
      (n : ℚ) < (⟨c, e⟩ : Decimal).value * quarters := by
    rw [← mul_lt_mul_iff_of_pos_right hstretch, ← hpoint]
    norm_cast
  have habove (n : ℕ) : c * (Grid.ofExponent e).step < n * (Grid.ofExponent e).stretch ↔
      (⟨c, e⟩ : Decimal).value * quarters < (n : ℚ) := by
    rw [← mul_lt_mul_iff_of_pos_right hstretch, ← hpoint]
    norm_cast
  simp only [Grid.hits, Interval.Contains]
  split
  · simp only [Bool.and_eq_true, decide_eq_true_eq, ← not_lt, hbelow, habove]
  · simp only [Bool.and_eq_true, decide_eq_true_eq, hbelow, habove]

/-- The point that is chosen is one of those that lie in the interval. -/
theorem hits_of_nearest? {g : Grid} {v : Interval} {c : ℕ} (h : g.nearest? v = some c) :
    g.hits v c = true := by
  simp only [Grid.nearest?] at h
  generalize hq : v.value * g.stretch / g.step = q at h
  cases hlow : g.hits v q <;> cases hhigh : g.hits v (q + 1) <;>
    simp only [hlow, hhigh, Option.some.injEq, reduceCtorEq] at h
  · rw [← h, hhigh]
  · rw [← h, hlow]
  · rw [← h]
    split
    · exact hhigh
    · exact hlow

/-! ### The search -/

/-- Every multiple of a power of one half is a decimal. -/
theorem value_bottom {pow : ℕ → ℕ} (hpow : pow = Nat.pow 5) (a n : ℕ) :
    (⟨a * pow n, -(n : ℤ)⟩ : Decimal).value * 2 ^ n = a := by
  have hten : (10 : ℚ) ^ n ≠ 0 := pow_ne_zero _ (by norm_num)
  have hfactor : (10 : ℚ) ^ n = 5 ^ n * 2 ^ n := by
    rw [← mul_pow]
    norm_num
  have hcast : ((a * pow n : ℕ) : ℚ) = a * 5 ^ n := by
    rw [hpow, Nat.cast_mul]
    exact congrArg ((a : ℚ) * ·) (Nat.cast_pow 5 n)
  rw [Decimal.value, hcast, zpow_neg, zpow_natCast, ← div_eq_mul_inv, div_mul_eq_mul_div, mul_assoc,
    ← hfactor, mul_div_cancel_right₀ _ hten]

/-- The decimal that the search ends with lies in the interval. -/
theorem contains_shortestFrom {v : Interval} {u : ℕ} (hvalue : v.value = 4 * u)
    (h : v.Contains v.value) (fuel : ℕ) (e : ℤ) :
    v.Contains ((shortestFrom v fuel e).value * quarters) := by
  induction fuel generalizing e with
  | zero =>
    have hexact : (shortestFrom v 0 e).value * quarters = v.value := by
      have hbottom : (shortestFrom v 0 e).value * 2 ^ 1074 = (v.value / 4 : ℕ) := by
        have hexponent : bottomExponent = -((1074 : ℕ) : ℤ) := rfl
        rw [shortestFrom, hexponent]
        -- with a name for the function nothing tries to evaluate the power
        generalize hpow : Nat.pow 5 = pow
        exact value_bottom hpow.symm _ _
      rw [quarters_eq, ← mul_assoc, hbottom, hvalue, Nat.mul_div_cancel_left _ (by decide),
        Nat.cast_mul]
      exact mul_comm _ _
    rw [hexact]
    exact h
  | succ fuel ih =>
    rw [shortestFrom]
    split
    · next c hc => exact hits_iff.mp (hits_of_nearest? hc)
    · exact ih (e - 1)

/-! ### Rounding intervals -/

/-- The scale grows only behind a gap that is narrow. -/
theorem scale_succ (m : ℕ) :
    scale (m + 1) = if narrowBelow (m + 1) then scale m + 1 else scale m := by
  have hpos : 0 < twoTo 52 := by decide
  have hdouble : twoTo 53 = twoTo 52 * 2 := rfl
  obtain ⟨q, r, hr, rfl⟩ : ∃ q r, r < twoTo 52 ∧ m = twoTo 52 * q + r :=
    ⟨m / twoTo 52, m % twoTo 52, Nat.mod_lt _ hpos, (Nat.div_add_mod m _).symm⟩
  by_cases hlast : r + 1 < twoTo 52
  · have hmod : (twoTo 52 * q + (r + 1)) % twoTo 52 = r + 1 := by
      rw [Nat.mul_add_mod, Nat.mod_eq_of_lt hlast]
    rw [Nat.add_assoc, scale_eq hlast, scale_eq hr, narrowBelow, hmod]
    simp
  · have hcarry : twoTo 52 * q + r + 1 = twoTo 52 * (q + 1) + 0 := by
      rw [Nat.mul_add, Nat.add_assoc, show r + 1 = twoTo 52 by omega]
      omega
    have hmod : (twoTo 52 * (q + 1) + 0) % twoTo 52 = 0 := Nat.mul_mod_right _ _
    rw [hcarry, scale_eq hpos, scale_eq hr, narrowBelow, hmod, hdouble]
    cases q with
    | zero => simp
    | succ q =>
      have hnormal : twoTo 52 * 2 ≤ twoTo 52 * (q + 1 + 1) := Nat.mul_le_mul_left _ (by omega)
      have hnarrow :
          (decide (0 = 0) && decide (twoTo 52 * 2 ≤ twoTo 52 * (q + 1 + 1) + 0)) = true := by
        rw [Bool.and_eq_true, decide_eq_true_eq, decide_eq_true_eq]
        exact ⟨rfl, hnormal⟩
      rw [if_pos hnarrow]
      rfl

theorem low_roundingInterval (m : ℕ) :
    (roundingInterval (m + 1)).low = 2 * (units m + units (m + 1)) := by
  have hgap : (if narrowBelow (m + 1) then twoTo (scale (m + 1)) else 2 * twoTo (scale (m + 1)))
      = 2 * twoTo (scale m) := by
    rw [scale_succ]
    split
    · rw [twoTo_succ (scale m), Nat.mul_comm]
    · rfl
  simp only [roundingInterval]
  rw [hgap, units_succ]
  omega

theorem high_roundingInterval (m : ℕ) :
    (roundingInterval m).high = 2 * (units m + units (m + 1)) := by
  simp only [roundingInterval]
  rw [units_succ]
  omega

theorem midpoint_mul_quarters (m : ℕ) :
    midpoint m * quarters = (2 * (units m + units (m + 1)) : ℕ) := by
  rw [midpoint_eq, mul_assoc, least_mul_quarters, Nat.cast_mul, Nat.cast_ofNat]
  ring

/-- What lies in the rounding interval of a magnitude rounds to it. -/
theorem rounds_of_contains {m : ℕ} (h : m < infiniteMagnitude) {q : ℚ}
    (hq : (roundingInterval m).Contains (q * quarters)) : Rounds q m := by
  have hhigh : ((roundingInterval m).high : ℚ) = midpoint m * quarters := by
    rw [high_roundingInterval, midpoint_mul_quarters]
  have hlow {k : ℕ} (hk : k + 1 = m) :
      ((roundingInterval m).low : ℚ) = midpoint k * quarters := by
    rw [← hk, low_roundingInterval, midpoint_mul_quarters]
  have heven : (roundingInterval m).closed = true ↔ m % 2 = 0 := decide_eq_true_iff
  rw [Interval.Contains, hhigh] at hq
  split at hq
  · next hclosed =>
    rw [mul_le_mul_iff_of_pos_right quarters_pos] at hq
    refine rounds_of_between h.le (fun k hk => ?_) fun _ => ?_
    · rw [hlow hk, mul_le_mul_iff_of_pos_right quarters_pos] at hq
      exact hq.1.lt_or_eq.imp_right fun hmid => ⟨hmid, heven.mp hclosed⟩
    · exact hq.2.lt_or_eq.imp_right fun hmid => ⟨hmid, heven.mp hclosed⟩
  · rw [mul_lt_mul_iff_of_pos_right quarters_pos] at hq
    refine rounds_of_between h.le (fun k hk => ?_) fun _ => .inl hq.2
    rw [hlow hk, mul_lt_mul_iff_of_pos_right quarters_pos] at hq
    exact .inl hq.1

/-- The shortest decimal of a magnitude rounds to it. -/
theorem rounds_shortest {m : ℕ} (hpos : 0 < m) (h : m < infiniteMagnitude) :
    Rounds (shortest m).value m := by
  obtain ⟨k, rfl⟩ : ∃ k, m = k + 1 := ⟨m - 1, by omega⟩
  have hvalue : (roundingInterval (k + 1)).value = 4 * units (k + 1) := rfl
  have hbelow := strictMono_units (Nat.lt_add_one k)
  have habove := strictMono_units (Nat.lt_add_one (k + 1))
  have hcontains : (roundingInterval (k + 1)).Contains (roundingInterval (k + 1)).value := by
    refine .of_lt ?_ ?_
    · rw [low_roundingInterval, hvalue]
      exact_mod_cast (by omega : 2 * (units k + units (k + 1)) < 4 * units (k + 1))
    · rw [high_roundingInterval, hvalue]
      exact_mod_cast (by omega : 4 * units (k + 1) < 2 * (units (k + 1) + units (k + 1 + 1)))
  exact rounds_of_contains h (contains_shortestFrom hvalue hcontains _ _)

end ToyLang.Binary64
