import Mathlib.Algebra.Order.Field.Rat
import Mathlib.Data.Nat.Log
import Mathlib.Order.Monotone.Basic
import Mathlib.Tactic.Linarith
import Mathlib.Tactic.Positivity
import Mathlib.Tactic.Ring
import ToyLang.Binary64.Basic

/-!
# Rounding to binary numbers

The magnitudes of binary numbers are the whole numbers from zero up to the magnitude of infinity,
and their values grow with them.  A number rounds to the magnitude whose value is nearest to it,
and to the even one of two that are equally near.  Infinity takes part with the value that would
come next, `2 ^ 1024`; so what rounds to it begins half a gap above the largest finite value.

Between two neighbours lies one bound, their midpoint.  A number within the bounds of a magnitude
rounds to it, the bounds included if the magnitude is even, and to no other magnitude.

## Main definitions

* `valueOf` — the value of a magnitude.
* `Rounds` — what a number rounds to: the nearest magnitude, the even one of two.

## Main results

* `units_succ` — the gap above a magnitude.
* `rounds_of_between` — what lies between the midpoints around a magnitude rounds to it.
* `Rounds.unique` — a number rounds to one magnitude.
* `rounds_nearestMagnitude` — the magnitude of a fraction is what the fraction rounds to.
-/

namespace ToyLang.Binary64

/-! ### Magnitudes and their values -/

theorem twoTo_succ (n : ℕ) : twoTo (n + 1) = twoTo n * 2 := rfl

theorem units_eq {q r : ℕ} (h : r < twoTo 52) : units (twoTo 52 * q + r)
    = (if q = 0 then r else twoTo 52 + r) * twoTo (q - 1) := by
  have hpos : 0 < twoTo 52 := by decide
  have hdiv : (twoTo 52 * q + r) / twoTo 52 = q := by
    rw [Nat.mul_add_div hpos, Nat.div_eq_of_lt h, Nat.add_zero]
  have hmod : (twoTo 52 * q + r) % twoTo 52 = r := by
    rw [Nat.mul_add_mod, Nat.mod_eq_of_lt h]
  rw [units, scale, significand, hdiv, hmod]
  rcases Nat.eq_zero_or_pos q with rfl | hq
  · rw [Nat.mul_zero, Nat.zero_add, if_pos h, if_pos rfl]
  · have hle : twoTo 52 ≤ twoTo 52 * q := Nat.le_mul_of_pos_right _ hq
    rw [if_neg (by omega), if_neg hq.ne']

theorem scale_eq {q r : ℕ} (h : r < twoTo 52) : scale (twoTo 52 * q + r) = q - 1 := by
  rw [scale, Nat.mul_add_div (by decide), Nat.div_eq_of_lt h, Nat.add_zero]

/-- The next value is a power of two away, the scale of the magnitude. -/
theorem units_succ (m : ℕ) : units (m + 1) = units m + twoTo (scale m) := by
  have hpos : 0 < twoTo 52 := by decide
  obtain ⟨q, r, hr, rfl⟩ : ∃ q r, r < twoTo 52 ∧ m = twoTo 52 * q + r :=
    ⟨m / twoTo 52, m % twoTo 52, Nat.mod_lt _ hpos, (Nat.div_add_mod m _).symm⟩
  rw [units_eq hr, scale_eq hr, Nat.add_assoc]
  by_cases hlast : r + 1 < twoTo 52
  · rw [units_eq hlast]
    split <;> ring
  · -- behind the last significand stands the first one of the next scale
    have hcarry : twoTo 52 * q + (r + 1) = twoTo 52 * (q + 1) + 0 := by
      rw [Nat.mul_add, show r + 1 = twoTo 52 by omega]
      omega
    have hr' : r = twoTo 52 - 1 := by omega
    rw [hcarry, units_eq hpos, if_neg (Nat.succ_ne_zero q), hr', Nat.add_sub_cancel]
    cases q with
    | zero => rfl
    | succ q =>
      rw [if_neg (Nat.succ_ne_zero q), Nat.add_sub_cancel, twoTo_succ q]
      show (twoTo 52 + 0) * (twoTo q * 2) = (twoTo 52 + (twoTo 52 - 1)) * twoTo q + twoTo q
      have hlarge : twoTo 52 + (twoTo 52 - 1) + 1 = twoTo 52 * 2 := rfl
      rw [← Nat.succ_mul, Nat.succ_eq_add_one, hlarge]
      ring

theorem strictMono_units : StrictMono units := by
  refine strictMono_nat_of_lt_succ fun m => ?_
  have hgap : 0 < twoTo (scale m) := Nat.two_pow_pos _
  rw [units_succ]
  omega

/-- A significand of up to 53 bits, under its scale. -/
theorem units_scaled {s r : ℕ} (hle : r ≤ twoTo 53) (hs : s = 0 ∨ twoTo 52 ≤ r) :
    units (s * twoTo 52 + r) = r * twoTo s := by
  have hdouble : twoTo 53 = twoTo 52 + twoTo 52 := rfl
  have hpos : 0 < twoTo 52 := by decide
  rw [Nat.mul_comm s]
  by_cases hsmall : r < twoTo 52
  · obtain rfl : s = 0 := hs.resolve_right (by omega)
    rw [units_eq hsmall, if_pos rfl]
  obtain ⟨t, rfl⟩ : ∃ t, r = twoTo 52 + t := ⟨r - twoTo 52, by omega⟩
  by_cases hlast : t < twoTo 52
  · rw [← Nat.add_assoc, ← Nat.mul_succ, units_eq hlast, if_neg (Nat.succ_ne_zero s),
      Nat.succ_sub_one]
  · have hcarry : twoTo 52 * s + (twoTo 52 + t) = twoTo 52 * (s + 2) + 0 := by
      rw [show t = twoTo 52 by omega]
      ring
    rw [hcarry, units_eq hpos, if_neg (by omega), show s + 2 - 1 = s + 1 from rfl, twoTo_succ s,
      show t = twoTo 52 by omega]
    ring

/-- The least positive number. -/
def least : ℚ := 1 / 2 ^ 1074

theorem least_pos : 0 < least := one_div_pos.mpr (pow_pos two_pos _)

theorem cast_twoTo (n : ℕ) : ((twoTo n : ℕ) : ℚ) = 2 ^ n := Nat.cast_pow 2 n

/-- The value of a magnitude; that of infinity is the one that would come next. -/
def valueOf (m : ℕ) : ℚ := units m * least

theorem strictMono_valueOf : StrictMono valueOf := fun m n h => by
  have hunits : (units m : ℚ) < units n := by exact_mod_cast strictMono_units h
  exact mul_lt_mul_of_pos_right hunits least_pos

/-! ### Rounding -/

/-- A number that is not negative rounds to the magnitude whose value is nearest to it, and to the
even one of two that are equally near. -/
structure Rounds (q : ℚ) (m : ℕ) : Prop where
  le : m ≤ infiniteMagnitude
  nearest : ∀ k ≤ infiniteMagnitude, |q - valueOf m| ≤ |q - valueOf k|
  even : ∀ k ≤ infiniteMagnitude, k ≠ m → |q - valueOf k| = |q - valueOf m| → m % 2 = 0

/-- The midpoint of a value and the next one. -/
def midpoint (m : ℕ) : ℚ := (valueOf m + valueOf (m + 1)) / 2

theorem midpoint_eq (m : ℕ) :
    midpoint m = ((units m + units (m + 1) : ℕ) : ℚ) / 2 * least := by
  rw [midpoint, valueOf, valueOf]
  push_cast
  ring

/-- A number is nearer to the one of two values on its side of their midpoint. -/
theorem abs_sub_le_of_mid_le {a b q : ℚ} (hab : a ≤ b) (h : a + b ≤ 2 * q) :
    |q - b| ≤ |q - a| := by
  refine (abs_le.mpr ⟨?_, ?_⟩).trans (le_abs_self _)
  · linarith
  · linarith

theorem abs_sub_le_of_le_mid {a b q : ℚ} (hab : a ≤ b) (h : 2 * q ≤ a + b) :
    |q - a| ≤ |q - b| := by
  refine (abs_le.mpr ⟨?_, ?_⟩).trans (neg_le_abs _)
  · linarith
  · linarith

/-- Of two values that are equally near the number is the midpoint. -/
theorem eq_mid_of_abs_eq {a b q : ℚ} (hab : a < b) (h : |q - a| = |q - b|) : 2 * q = a + b := by
  rcases abs_eq_abs.mp h with h | h
  · linarith
  · linarith

/-- The midpoint below a value is the highest of its midpoints with smaller values. -/
theorem add_le_midpoint {k m : ℕ} (h : k ≤ m) :
    valueOf k + valueOf (m + 1) ≤ 2 * midpoint m := by
  have hle : valueOf k ≤ valueOf m := strictMono_valueOf.monotone h
  rw [midpoint]
  linarith

theorem midpoint_le_add {k m : ℕ} (h : m < k) : 2 * midpoint m ≤ valueOf m + valueOf k := by
  have hle : valueOf (m + 1) ≤ valueOf k := strictMono_valueOf.monotone h
  rw [midpoint]
  linarith

/-- What lies between the midpoints around a magnitude rounds to it; the midpoints themselves do
if the magnitude is even.  Nothing lies below zero or above infinity. -/
theorem rounds_of_between {q : ℚ} {m : ℕ} (hle : m ≤ infiniteMagnitude)
    (hlow : ∀ k, k + 1 = m → midpoint k < q ∨ midpoint k = q ∧ m % 2 = 0)
    (hhigh : m < infiniteMagnitude → q < midpoint m ∨ q = midpoint m ∧ m % 2 = 0) :
    Rounds q m := by
  -- of the magnitudes on either side the next one is the nearest
  have hbelow : ∀ k < m, valueOf k + valueOf m < 2 * q ∨
      valueOf k + valueOf m ≤ 2 * q ∧ m % 2 = 0 := by
    intro k hk
    obtain ⟨j, rfl⟩ : ∃ j, m = j + 1 := ⟨m - 1, by omega⟩
    have hmid := add_le_midpoint (Nat.le_of_lt_succ hk)
    exact (hlow j rfl).imp (fun h => by linarith) fun h => ⟨by linarith [h.1], h.2⟩
  have habove : ∀ k ≤ infiniteMagnitude, m < k → 2 * q < valueOf m + valueOf k ∨
      2 * q ≤ valueOf m + valueOf k ∧ m % 2 = 0 := by
    intro k hk hmk
    have hmid := midpoint_le_add hmk
    exact (hhigh (by omega)).imp (fun h => by linarith) fun h => ⟨by linarith [h.1], h.2⟩
  refine ⟨hle, fun k hk => ?_, fun k hk hne htie => ?_⟩
  · rcases lt_trichotomy k m with hkm | rfl | hmk
    · exact abs_sub_le_of_mid_le (strictMono_valueOf hkm).le
        ((hbelow k hkm).elim le_of_lt And.left)
    · exact le_rfl
    · exact abs_sub_le_of_le_mid (strictMono_valueOf hmk).le
        ((habove k hk hmk).elim le_of_lt And.left)
  · rcases hne.lt_or_gt with hkm | hmk
    · have hmid := eq_mid_of_abs_eq (strictMono_valueOf hkm) htie
      exact (hbelow k hkm).elim (fun h => absurd hmid.symm h.ne) And.right
    · have hmid := eq_mid_of_abs_eq (strictMono_valueOf hmk) htie.symm
      exact (habove k hk hmk).elim (fun h => absurd hmid h.ne) And.right

/-- Zero rounds to zero. -/
theorem rounds_zero : Rounds 0 0 := by
  refine rounds_of_between (Nat.zero_le _) (fun k hk => absurd hk (Nat.succ_ne_zero k)) fun _ => ?_
  have hzero : valueOf 0 = 0 := zero_mul least
  have hnext : valueOf 0 < valueOf (0 + 1) := strictMono_valueOf Nat.zero_lt_one
  rw [hzero] at hnext
  refine .inl ?_
  rw [midpoint, hzero]
  linarith

theorem Rounds.ge {q : ℚ} {m k : ℕ} (hm : Rounds q m) (hk : Rounds q k) : k ≤ m := by
  by_contra hgt
  have hlt : m < k := not_le.mp hgt
  have htie : |q - valueOf m| = |q - valueOf k| :=
    le_antisymm (hm.nearest k hk.le) (hk.nearest m hm.le)
  have hmid := eq_mid_of_abs_eq (strictMono_valueOf hlt) htie
  -- both are even, so a magnitude stands between them, and nearer
  have heven := hm.even k hk.le hlt.ne' htie.symm
  have heven' := hk.even m hm.le hlt.ne htie
  have hnext : m + 1 < k := by omega
  have hlow : valueOf m < valueOf (m + 1) := strictMono_valueOf (Nat.lt_succ_self m)
  have hhigh : valueOf (m + 1) < valueOf k := strictMono_valueOf hnext
  have hnear : |q - valueOf (m + 1)| < |q - valueOf m| := by
    refine lt_of_lt_of_le (abs_lt.mpr ⟨?_, ?_⟩) (le_abs_self _)
    · linarith
    · linarith
  exact absurd (hm.nearest (m + 1) (hnext.le.trans hk.le)) (not_le.mpr hnear)

/-- A number rounds to one magnitude. -/
theorem Rounds.unique {q : ℚ} {m k : ℕ} (hm : Rounds q m) (hk : Rounds q k) : m = k :=
  le_antisymm (hk.ge hm) (hm.ge hk)

/-! ### The nearest magnitude -/

/-- The whole number nearest to a quotient is at most a half away from it, and even if it is just
a half. -/
theorem roundQuotient_near (n : ℕ) {d : ℕ} (hd : 0 < d) :
    2 * (roundQuotient n d * d) ≤ 2 * n + d ∧ 2 * n ≤ 2 * (roundQuotient n d * d) + d ∧
      (2 * (roundQuotient n d * d) = 2 * n + d ∨ 2 * n = 2 * (roundQuotient n d * d) + d →
        roundQuotient n d % 2 = 0) := by
  have hdiv : n / d * d + n % d = n := Nat.div_add_mod' n d
  have hmod : n % d < d := Nat.mod_lt n hd
  have hsucc : (n / d + 1) * d = n / d * d + d := Nat.succ_mul _ _
  simp only [roundQuotient]
  split
  · omega
  split
  · rw [hsucc]
    omega
  · next =>
    rcases Nat.mod_two_eq_zero_or_one (n / d) with heven | hodd
    · rw [heven, Nat.add_zero]
      omega
    · rw [hodd, hsucc]
      omega

/-- Just enough is scaled away to leave 53 bits. -/
theorem scaleOf_bounds (n : ℕ) {d : ℕ} (hd : 0 < d) :
    n < d * twoTo (scaleOf n d) * twoTo 53 ∧
      (scaleOf n d = 0 ∨ d * twoTo (scaleOf n d) * twoTo 52 ≤ n) := by
  have hpow (k : ℕ) : d * twoTo (scaleOf n d) * twoTo k = twoTo (scaleOf n d + k) * d := by
    rw [Nat.mul_assoc, Nat.mul_comm d]
    exact congrArg (· * d) (Nat.pow_add 2 _ _).symm
  rw [hpow, hpow, ← Nat.div_lt_iff_lt_mul hd, ← Nat.le_div_iff_mul_le hd, scaleOf]
  constructor
  · refine Nat.lt_of_lt_of_le Nat.lt_log2_self (Nat.pow_le_pow_right (by decide) ?_)
    omega
  · refine or_iff_not_imp_left.mpr fun hs => ?_
    have hquotient : n / d ≠ 0 := by
      intro hzero
      rw [hzero] at hs
      exact hs rfl
    have hlog : Nat.log2 (n / d) - 52 + 52 = Nat.log2 (n / d) := by omega
    rw [hlog]
    exact Nat.log2_self_le hquotient

/-- A magnitude with a full significand under a scale, or a larger one, has no smaller scale. -/
theorem mul_twoTo_le_scale (d : ℕ) {s k : ℕ} (h : s = 0 ∨ s * twoTo 52 + twoTo 52 ≤ k) :
    d * twoTo s ≤ d * twoTo (scale k) := by
  refine Nat.mul_le_mul_left d (Nat.pow_le_pow_right (by decide) ?_)
  rcases h with rfl | h
  · exact Nat.zero_le _
  · rw [← Nat.succ_mul, ← Nat.le_div_iff_mul_le (by decide)] at h
    rw [scale]
    omega

section

variable {n d m : ℕ} (hd : 0 < d)

include hd

theorem midpoint_lt_iff :
    midpoint m < (n / d : ℚ) * least ↔ d * (units m + units (m + 1)) < 2 * n := by
  have hd' : (0 : ℚ) < d := by exact_mod_cast hd
  rw [midpoint_eq, mul_lt_mul_iff_of_pos_right least_pos, div_lt_div_iff₀ two_pos hd']
  norm_cast
  rw [Nat.mul_comm, Nat.mul_comm n]

theorem lt_midpoint_iff :
    (n / d : ℚ) * least < midpoint m ↔ 2 * n < d * (units m + units (m + 1)) := by
  have hd' : (0 : ℚ) < d := by exact_mod_cast hd
  rw [midpoint_eq, mul_lt_mul_iff_of_pos_right least_pos, div_lt_div_iff₀ hd' two_pos]
  norm_cast
  rw [Nat.mul_comm, Nat.mul_comm d]

theorem eq_midpoint_iff :
    (n / d : ℚ) * least = midpoint m ↔ 2 * n = d * (units m + units (m + 1)) := by
  have hd' : (0 : ℚ) < d := by exact_mod_cast hd
  rw [midpoint_eq, mul_left_inj' least_pos.ne', div_eq_div_iff hd'.ne' two_ne_zero]
  norm_cast
  rw [Nat.mul_comm, Nat.mul_comm d]

/-- The rounded quotient has 53 bits, and all of them unless the scale is the least. -/
theorem roundQuotient_scaled : roundQuotient n (d * twoTo (scaleOf n d)) ≤ twoTo 53 ∧
    (scaleOf n d = 0 ∨ twoTo 52 ≤ roundQuotient n (d * twoTo (scaleOf n d))) := by
  obtain ⟨hupper, hlower⟩ := scaleOf_bounds n hd
  have hpos : 0 < d * twoTo (scaleOf n d) := Nat.mul_pos hd (Nat.two_pow_pos _)
  obtain ⟨hbelow, habove, -⟩ := roundQuotient_near n hpos
  generalize roundQuotient n (d * twoTo (scaleOf n d)) = r at *
  generalize d * twoTo (scaleOf n d) = D at *
  constructor
  · by_contra hgt
    have hmul := Nat.mul_le_mul_right D (show twoTo 53 + 1 ≤ r by omega)
    rw [Nat.succ_mul, Nat.mul_comm (twoTo 53)] at hmul
    omega
  · refine hlower.imp_right fun hlower => ?_
    by_contra hlt
    have hmul := Nat.mul_le_mul_right D (show r + 1 ≤ twoTo 52 by omega)
    rw [Nat.succ_mul, Nat.mul_comm (twoTo 52)] at hmul
    omega

section

variable (hm : m = scaleOf n d * twoTo 52 + roundQuotient n (d * twoTo (scaleOf n d)))

include hm

theorem mul_units_scaled :
    d * units m = roundQuotient n (d * twoTo (scaleOf n d)) * (d * twoTo (scaleOf n d)) := by
  obtain ⟨hle, hfull⟩ := roundQuotient_scaled (n := n) hd
  rw [hm, units_scaled hle hfull]
  ring

omit hd in
theorem scaled_even (h : roundQuotient n (d * twoTo (scaleOf n d)) % 2 = 0) : m % 2 = 0 := by
  have heven : twoTo 52 = twoTo 51 * 2 := rfl
  rw [hm, heven, ← Nat.mul_assoc]
  omega

/-- The scaled and rounded quotient has the fraction below the midpoint above it. -/
theorem below_midpoint_scaled :
    (n / d : ℚ) * least < midpoint m ∨ (n / d : ℚ) * least = midpoint m ∧ m % 2 = 0 := by
  have hpos : 0 < d * twoTo (scaleOf n d) := Nat.mul_pos hd (Nat.two_pow_pos _)
  obtain ⟨-, habove, htie⟩ := roundQuotient_near n hpos
  have heven := scaled_even hm
  have hgap : d * twoTo (scaleOf n d) ≤ d * twoTo (scale m) := by
    refine mul_twoTo_le_scale d ((roundQuotient_scaled (n := n) hd).2.imp_right fun h => ?_)
    rw [hm]
    exact Nat.add_le_add_left h _
  rw [lt_midpoint_iff hd, eq_midpoint_iff hd, units_succ, ← Nat.add_assoc, Nat.mul_add, Nat.mul_add,
    mul_units_scaled hd hm]
  omega

/-- The scaled and rounded quotient has the fraction above the midpoint below it. -/
theorem above_midpoint_scaled {k : ℕ} (hk : k + 1 = m) :
    midpoint k < (n / d : ℚ) * least ∨ midpoint k = (n / d : ℚ) * least ∧ m % 2 = 0 := by
  have hpos : 0 < d * twoTo (scaleOf n d) := Nat.mul_pos hd (Nat.two_pow_pos _)
  obtain ⟨hbelow, -, htie⟩ := roundQuotient_near n hpos
  have heven := scaled_even hm
  have hunits := mul_units_scaled hd hm
  have hgap : d * units k + d * twoTo (scale k)
      = roundQuotient n (d * twoTo (scaleOf n d)) * (d * twoTo (scaleOf n d)) := by
    rw [← hunits, ← hk, units_succ, Nat.mul_add]
  rw [midpoint_lt_iff hd, eq_comm, eq_midpoint_iff hd, Nat.mul_add, hk, hunits]
  by_cases hnarrow : scaleOf n d = 0 ∨ scaleOf n d * twoTo 52 + twoTo 52 ≤ k
  · have hscale := mul_twoTo_le_scale d hnarrow
    omega
  · -- the gap below is a narrow one, but the fraction does not lie in it
    rw [not_or] at hnarrow
    have hfull := (roundQuotient_scaled (n := n) hd).2.resolve_left hnarrow.1
    have hfirst : roundQuotient n (d * twoTo (scaleOf n d)) = twoTo 52 := by omega
    have hvalue := (scaleOf_bounds n hd).2.resolve_left hnarrow.1
    have hgap' : 0 < d * twoTo (scale k) := Nat.mul_pos hd (Nat.two_pow_pos _)
    rw [Nat.mul_comm, ← hfirst] at hvalue
    omega

end

end

theorem infiniteMagnitude_even : infiniteMagnitude % 2 = 0 := by decide

/-- The magnitude nearest to a count of units is what the number rounds to. -/
theorem rounds_nearestUnits (n : ℕ) {d : ℕ} (hd : 0 < d) :
    Rounds ((n / d : ℚ) * least) (nearestUnits n d) := by
  simp only [nearestUnits]
  generalize hm : scaleOf n d * twoTo 52 + roundQuotient n (d * twoTo (scaleOf n d)) = m
  have hlow {k : ℕ} := above_midpoint_scaled (k := k) hd hm.symm
  have hhigh := below_midpoint_scaled hd hm.symm
  rcases Nat.le_total m infiniteMagnitude with hle | hge
  · rw [Nat.min_eq_left hle]
    exact rounds_of_between hle (fun k => hlow) fun _ => hhigh
  · rw [Nat.min_eq_right hge]
    refine rounds_of_between le_rfl (fun k hk => ?_) (fun h => absurd h (lt_irrefl _))
    -- what rounds beyond infinity lies above the midpoint below infinity
    obtain ⟨j, rfl⟩ : ∃ j, m = j + 1 := ⟨m - 1, by omega⟩
    have hmono : midpoint k ≤ midpoint j := by
      have hkj : k ≤ j := by omega
      have hle := strictMono_valueOf.monotone hkj
      have hle' := strictMono_valueOf.monotone (Nat.succ_le_succ hkj)
      rw [midpoint, midpoint]
      linarith
    rcases hlow rfl with h | ⟨h, -⟩
    · exact .inl (lt_of_le_of_lt hmono h)
    · rcases hmono.lt_or_eq with h' | h'
      · exact .inl (h ▸ h')
      · exact .inr ⟨h'.trans h, infiniteMagnitude_even⟩

/-- The magnitude nearest to a fraction is what the fraction rounds to. -/
theorem rounds_nearestMagnitude (n : ℕ) {d : ℕ} (hd : 0 < d) :
    Rounds (n / d : ℚ) (nearestMagnitude n d) := by
  have hunit : ((n * twoTo 1074 : ℕ) / d : ℚ) * least = n / d := by
    have hpos : (2 : ℚ) ^ 1074 ≠ 0 := pow_ne_zero _ two_ne_zero
    rw [Nat.cast_mul, cast_twoTo, least, mul_one_div, div_right_comm,
      mul_div_cancel_right₀ _ hpos]
  rw [← hunit]
  exact rounds_nearestUnits _ hd

end ToyLang.Binary64
