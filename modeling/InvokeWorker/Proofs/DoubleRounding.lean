import Mathlib.Algebra.Order.Field.Power
import Mathlib.Data.Rat.Cast.Order
import Mathlib.Tactic.FieldSimp
import Mathlib.Tactic.Linarith
import Mathlib.Tactic.Positivity
import Mathlib.Tactic.Ring
import InvokeWorker.Number.Double

/-!
# Rounding to a double

A quotient of naturals is rounded in the exponent that fits it (`Double.fits_exponentOf`), of which
there is one for each value (`Double.Fits.unique`). So what it is rounded to depends on the value
only (`Double.rounded_congr`), and for a value nearer to a canonical number than half the way to its
neighbours is that number (`Double.rounded_of_near`).
-/

namespace InvokeWorker.Double

variable {num den num' den' : Nat}

/-! ## Quotients -/

theorem roundDiv_mul_right {c : Nat} (positive : 0 < c) :
    roundDiv (num * c) (den * c) = roundDiv num den := by
  have scale : ∀ a b : Nat, a * c < b * c ↔ a < b := fun a b => Nat.mul_lt_mul_right positive
  have same : ∀ a b : Nat, a * c = b * c ↔ a = b := fun a b =>
    Nat.mul_left_inj (Nat.pos_iff_ne_zero.1 positive)
  simp only [roundDiv, Nat.mul_div_mul_right _ _ positive, Nat.mul_mod_mul_right, ← Nat.mul_assoc,
    scale, same]

/-- The same quotient is rounded alike. -/
theorem roundDiv_congr (positive : 0 < den) (positive' : 0 < den')
    (same : (num : ℚ) / den = num' / den') : roundDiv num den = roundDiv num' den' := by
  have nonzero : (den : ℚ) ≠ 0 := by exact_mod_cast positive.ne'
  have nonzero' : (den' : ℚ) ≠ 0 := by exact_mod_cast positive'.ne'
  rw [div_eq_div_iff nonzero nonzero'] at same
  have crossed : num * den' = num' * den := by exact_mod_cast same
  rw [← roundDiv_mul_right positive', crossed, Nat.mul_comm den, roundDiv_mul_right positive]

/-- The rounded quotient is at most one half away. -/
theorem abs_roundDiv_sub_le (num : Nat) (positive : 0 < den) :
    |(roundDiv num den : ℚ) - num / den| ≤ 1 / 2 := by
  have parts : (num : ℚ) / den = (num / den : Nat) + (num % den : Nat) / den := by
    have split : (num : ℚ) = den * (num / den : Nat) + (num % den : Nat) := by
      exact_mod_cast (Nat.div_add_mod num den).symm
    have nonzero : (den : ℚ) ≠ 0 := by exact_mod_cast positive.ne'
    rw [eq_comm, ← mul_right_inj' nonzero]
    field_simp
    linarith
  have den_pos : (0 : ℚ) < den := by exact_mod_cast positive
  have less : ((num % den : Nat) : ℚ) / den < 1 := by
    rw [div_lt_one den_pos]
    exact_mod_cast Nat.mod_lt num positive
  have nonneg : 0 ≤ ((num % den : Nat) : ℚ) / den := by positivity
  rw [parts, roundDiv, abs_le]
  split
  · next down =>
    have half : ((num % den : Nat) : ℚ) / den ≤ 1 / 2 := by
      rw [div_le_div_iff₀ den_pos two_pos]
      have twice : 2 * (num % den) ≤ den := by omega
      have twice : 2 * ((num % den : Nat) : ℚ) ≤ den := by exact_mod_cast twice
      linarith
    constructor <;> linarith
  · next up =>
    have half : 1 / 2 ≤ ((num % den : Nat) : ℚ) / den := by
      rw [div_le_div_iff₀ two_pos den_pos]
      have twice : den ≤ 2 * (num % den) := by omega
      have twice : (den : ℚ) ≤ 2 * ((num % den : Nat) : ℚ) := by exact_mod_cast twice
      linarith
    push_cast
    constructor <;> linarith

/-! ## The exponent -/

/-- The quotient `num / den * base ^ (-e)` as a quotient of naturals. -/
def shifted (base num den : Nat) (e : Int) : Nat × Nat :=
  if 0 ≤ e then (num, den * base ^ e.toNat) else (num * base ^ (-e).toNat, den)

theorem zpow_of_nonneg {e : Int} (nonneg : 0 ≤ e) (x : ℚ) : x ^ e = x ^ e.toNat := by
  rw [← zpow_natCast, Int.toNat_of_nonneg nonneg]

theorem zpow_of_neg {e : Int} (negative : ¬ 0 ≤ e) (x : ℚ) : x ^ e = (x ^ (-e).toNat)⁻¹ := by
  rw [← zpow_of_nonneg (by omega), zpow_neg, inv_inv]

theorem shifted_pos {base : Nat} (some_base : 0 < base) (num : Nat) (positive : 0 < den) (e : Int) :
    0 < (shifted base num den e).2 := by
  rw [shifted]
  split
  · exact Nat.mul_pos positive (Nat.pow_pos some_base)
  · exact positive

theorem cast_shifted (base num den : Nat) (e : Int) :
    ((shifted base num den e).1 : ℚ) / (shifted base num den e).2 = num / den / (base : ℚ) ^ e := by
  rw [shifted]
  split
  · next nonneg =>
    rw [zpow_of_nonneg nonneg]
    push_cast
    rw [div_div]
  · next negative =>
    rw [zpow_of_neg negative]
    push_cast
    rw [div_inv_eq_mul, mul_div_right_comm]

theorem cast_shifted_two (num den : Nat) (e : Int) :
    ((shifted 2 num den e).1 : ℚ) / (shifted 2 num den e).2 = num / den / 2 ^ e := by
  rw [cast_shifted, Nat.cast_ofNat]

theorem scaled_eq (num den : Nat) (e : Int) :
    scaled num den e = roundDiv (shifted 2 num den e).1 (shifted 2 num den e).2 := by
  rw [scaled, shifted]
  split <;> rfl

/-- With this exponent, the number has a mantissa below `2 ^ 53`, and one of 53 bits unless the
    exponent is the least one. -/
structure Fits (v : ℚ) (e : Int) : Prop where
  least : minExponent ≤ e
  lt : v < 2 ^ (53 + e)
  le : e = minExponent ∨ 2 ^ (52 + e) ≤ v

theorem Fits.le_of_fits {v : ℚ} {e e' : Int} (fits : Fits v e) (fits' : Fits v e') : e' ≤ e := by
  rcases fits'.le with rfl | le
  · exact fits.least
  · have less := (zpow_lt_zpow_iff_right₀ one_lt_two).1 (lt_of_le_of_lt le fits.lt)
    omega

theorem Fits.unique {v : ℚ} {e e' : Int} (fits : Fits v e) (fits' : Fits v e') : e = e' :=
  Int.le_antisymm (fits'.le_of_fits fits) (fits.le_of_fits fits')

theorem two_zpow_mono {a b : Int} (le : a ≤ b) : (2 : ℚ) ^ a ≤ 2 ^ b :=
  zpow_le_zpow_right₀ one_le_two le

/-- A positive natural lies between two powers. -/
theorem two_zpow_log2 (positive : 0 < num) :
    (2 : ℚ) ^ (num.log2 : Int) ≤ num ∧ (num : ℚ) < 2 ^ ((num.log2 : Int) + 1) := by
  have below := Nat.log2_self_le positive.ne'
  have above := Nat.lt_log2_self (n := num)
  refine ⟨?_, ?_⟩
  · rw [zpow_natCast]
    exact_mod_cast below
  · rw [← Nat.cast_succ, zpow_natCast]
    exact_mod_cast above

/-- So does a quotient of two of them. -/
theorem two_zpow_quotient (positive : 0 < num) (positive' : 0 < den) :
    (2 : ℚ) ^ ((num.log2 : Int) - den.log2 - 1) < num / den ∧
      (num : ℚ) / den < 2 ^ ((num.log2 : Int) - den.log2 + 1) := by
  obtain ⟨le, lt⟩ := two_zpow_log2 positive
  obtain ⟨le', lt'⟩ := two_zpow_log2 positive'
  have den_pos : (0 : ℚ) < den := by exact_mod_cast positive'
  have two : (2 : ℚ) ≠ 0 := two_ne_zero
  refine ⟨?_, ?_⟩
  · rw [lt_div_iff₀ den_pos]
    calc (2 : ℚ) ^ ((num.log2 : Int) - den.log2 - 1) * den
        < 2 ^ ((num.log2 : Int) - den.log2 - 1) * 2 ^ ((den.log2 : Int) + 1) := by gcongr
      _ = 2 ^ (num.log2 : Int) := by rw [← zpow_add₀ two]; congr 1; omega
      _ ≤ num := le
  · rw [div_lt_iff₀ den_pos]
    calc (num : ℚ) < 2 ^ ((num.log2 : Int) + 1) := lt
      _ = 2 ^ ((num.log2 : Int) - den.log2 + 1) * 2 ^ (den.log2 : Int) := by
        rw [← zpow_add₀ two]; congr 1; omega
      _ ≤ 2 ^ ((num.log2 : Int) - den.log2 + 1) * den := by gcongr

/-- The exponent in which a quotient is rounded is the one that fits. -/
theorem fits_exponentOf (positive : 0 < num) (positive' : 0 < den) :
    Fits (num / den) (exponentOf num den) := by
  obtain ⟨low, high⟩ := two_zpow_quotient positive positive'
  obtain ⟨guess, guess_eq⟩ : ∃ guess, guess = max ((num.log2 : Int) - den.log2 - 53) minExponent :=
    ⟨_, rfl⟩
  have below : (shifted 2 num den guess).1 / (shifted 2 num den guess).2 < 2 ^ 53 ↔
      (num : ℚ) / den < 2 ^ (53 + guess) := by
    have pos := shifted_pos two_pos num positive' guess
    have pos' : (0 : ℚ) < (shifted 2 num den guess).2 := by exact_mod_cast pos
    rw [Nat.div_lt_iff_lt_mul pos, zpow_add₀ two_ne_zero, ← div_lt_iff₀ (by positivity),
      ← cast_shifted_two, div_lt_iff₀ pos']
    norm_cast
  have unfolded : exponentOf num den =
      if (shifted 2 num den guess).1 / (shifted 2 num den guess).2 < 2 ^ 53 then guess
      else guess + 1 := by
    rw [exponentOf, ← guess_eq]
    by_cases nonneg : 0 ≤ guess
    · simp only [shifted, if_pos nonneg]
    · simp only [shifted, if_neg nonneg]
  rw [unfolded]
  split
  · next less =>
    refine ⟨by omega, below.1 less, ?_⟩
    by_cases least : guess = minExponent
    · exact .inl least
    · exact .inr (le_trans (two_zpow_mono (by omega)) low.le)
  · next more =>
    exact ⟨by omega, lt_of_lt_of_le high (two_zpow_mono (by omega)),
      .inr (le_trans (two_zpow_mono (by omega)) (not_lt.1 (mt below.2 more)))⟩

/-! ## Rounding -/

/-- The mantissa and the exponent to which a quotient is rounded. -/
def rounded (num den : Nat) : Nat × Int :=
  if scaled num den (exponentOf num den) < 2 ^ 53
  then (scaled num den (exponentOf num den), exponentOf num den)
  else (2 ^ 52, exponentOf num den + 1)

theorem ofRatio_eq (negative : Bool) (positive : 0 < num) (den : Nat) :
    ofRatio negative num den = if maxExponent < (rounded num den).2 then .infinity negative
      else .finite negative (rounded num den).1 (rounded num den).2 := by
  rw [ofRatio, if_neg positive.ne', rounded]

theorem abs_scaled_sub_le (num : Nat) (positive' : 0 < den) (e : Int) :
    |(scaled num den e : ℚ) - num / den / 2 ^ e| ≤ 1 / 2 := by
  rw [scaled_eq, ← cast_shifted_two]
  exact abs_roundDiv_sub_le _ (shifted_pos two_pos num positive' e)

/-- What a quotient is rounded to depends on its value only. -/
theorem rounded_congr (positive : 0 < num) (positive' : 0 < den) (positive₂ : 0 < num')
    (positive₂' : 0 < den') (same : (num : ℚ) / den = num' / den') :
    rounded num den = rounded num' den' := by
  have fits := fits_exponentOf positive positive'
  rw [same] at fits
  have exponent := fits.unique (fits_exponentOf positive₂ positive₂')
  have mantissa :
      scaled num den (exponentOf num den) = scaled num' den' (exponentOf num' den') := by
    rw [exponent, scaled_eq, scaled_eq]
    refine roundDiv_congr (shifted_pos two_pos _ positive' _)
      (shifted_pos two_pos _ positive₂' _) ?_
    rw [cast_shifted_two, cast_shifted_two, same]
  rw [rounded, rounded, mantissa, exponent]

/-- The mantissa and the exponent of a finite number in canonical form. -/
structure IsCanonical (m : Nat) (e : Int) : Prop where
  lt : m < 2 ^ 53
  least : minExponent ≤ e
  greatest : e ≤ maxExponent
  le : e = minExponent ∨ 2 ^ 52 ≤ m

/-- A finite number in canonical form. -/
def Canonical : Double → Prop
  | finite _ m e => IsCanonical m e
  | _ => False

/-- The value is closer to the number than to the middle between it and each of its neighbours. -/
structure Near (v : ℚ) (m : Nat) (e : Int) : Prop where
  above : (m - 1 / 4) * 2 ^ e < v ∨ (m ≠ 2 ^ 52 ∧ (m - 1 / 2) * 2 ^ e < v)
  below : v < (m + 1 / 2) * 2 ^ e

theorem Near.lower {v : ℚ} {m : Nat} {e : Int} (near : Near v m e) : (m - 1 / 2) * 2 ^ e < v := by
  have unit : (0 : ℚ) < 2 ^ e := by positivity
  rcases near.above with above | above
  · refine lt_trans ?_ above
    have : (m - 1 / 2 : ℚ) < m - 1 / 4 := by linarith
    gcongr
  · exact above.2

/-- The exponent of what is near a number is that of the number. Only the number may be a power of
    two, and the exponent that of its lower neighbour, to which there is only half the distance. -/
theorem exponent_of_near {v : ℚ} {m : Nat} {e e' : Int} (canonical : IsCanonical m e)
    (near : Near v m e) (fits : Fits v e') :
    e' = e ∨ (e = e' + 1 ∧ m = 2 ^ 52 ∧ 2 ^ 53 - 1 / 2 < v / 2 ^ e') := by
  have unit : (0 : ℚ) < 2 ^ e := by positivity
  have power : ∀ n : Nat, ∀ d : Int, (2 : ℚ) ^ ((n : Int) + d) = 2 ^ n * 2 ^ d := fun n d => by
    rw [zpow_add₀ two_ne_zero, zpow_natCast]
  have bound : (m : ℚ) + 1 ≤ 2 ^ 53 := by exact_mod_cast canonical.lt
  rcases lt_trichotomy e' e with less | same | more
  · -- Only from below a power of two is a lesser exponent in reach, and only the next one.
    have large : 2 ^ 52 ≤ m := canonical.le.resolve_left (by have := fits.least; omega)
    have power_of_two : m = 2 ^ 52 := by
      by_contra other
      have larger : 2 ^ 52 + 1 ≤ m := by omega
      have larger : (2 : ℚ) ^ 52 + 1 ≤ m := by exact_mod_cast larger
      have top : v < 2 ^ 52 * 2 ^ e :=
        lt_of_lt_of_le fits.lt (power 52 e ▸ two_zpow_mono (by push_cast; omega))
      nlinarith [near.lower]
    have above : ((2 : ℚ) ^ 52 - 1 / 4) * 2 ^ e < v := by
      rcases near.above with above | above
      · rw [power_of_two] at above
        exact_mod_cast above
      · exact absurd power_of_two above.1
    have next : e = e' + 1 := by
      by_contra other
      have top : v < 2 ^ 51 * 2 ^ e :=
        lt_of_lt_of_le fits.lt (power 51 e ▸ two_zpow_mono (by push_cast; omega))
      linarith
    have twice : (2 : ℚ) ^ e = 2 * 2 ^ e' := by rw [next, zpow_add_one₀ two_ne_zero, mul_comm]
    have unit' : (0 : ℚ) < 2 ^ e' := by positivity
    refine .inr ⟨next, power_of_two, ?_⟩
    rw [lt_div_iff₀ unit']
    linarith
  · exact .inl same
  · -- A number with a greater exponent is out of reach.
    have large := fits.le.resolve_left (by have := canonical.least; omega)
    have top : 2 ^ 53 * 2 ^ e ≤ v :=
      le_trans (power 53 e ▸ two_zpow_mono (by push_cast; omega)) large
    have := near.below
    nlinarith

/-- A quotient near a number is rounded to it. -/
theorem rounded_of_near {m : Nat} {e : Int} (positive : 0 < num) (positive' : 0 < den)
    (canonical : IsCanonical m e) (near : Near (num / den) m e) : rounded num den = (m, e) := by
  obtain ⟨v, v_eq⟩ : ∃ v : ℚ, v = num / den := ⟨_, rfl⟩
  have fits := fits_exponentOf positive positive'
  have close := abs_le.1 (abs_scaled_sub_le num positive' (exponentOf num den))
  rw [← v_eq] at near fits close
  rw [rounded]
  rcases exponent_of_near canonical near fits with same | ⟨next, power_of_two, quotient⟩
  · -- The exponent is that of the number, so the mantissa is, too.
    have unit : (0 : ℚ) < 2 ^ e := by positivity
    rw [same] at close ⊢
    have low : (m : ℚ) - 1 / 2 < v / 2 ^ e := (lt_div_iff₀ unit).2 near.lower
    have high : v / 2 ^ e < m + 1 / 2 := (div_lt_iff₀ unit).2 near.below
    have less : scaled num den e < m + 1 := by
      have : (scaled num den e : ℚ) < m + 1 := by linarith [close.2]
      exact_mod_cast this
    have more : m < scaled num den e + 1 := by
      have : (m : ℚ) < scaled num den e + 1 := by linarith [close.1]
      exact_mod_cast this
    have mantissa : scaled num den e = m := by omega
    rw [mantissa, if_pos canonical.lt]
  · -- The quotient is rounded up to the power of two.
    have full : 2 ^ 53 < scaled num den (exponentOf num den) + 1 := by
      have : (2 : ℚ) ^ 53 < scaled num den (exponentOf num den) + 1 := by linarith [close.1]
      exact_mod_cast this
    rw [if_neg (by omega), power_of_two, next]

/-- What is rounded to a finite number is in the range of these numbers, unless that is zero. -/
theorem bounds_of_rounded (positive : 0 < num) (positive' : 0 < den)
    (finite : (rounded num den).2 ≤ maxExponent) (nonzero : (rounded num den).1 ≠ 0) :
    (2 : ℚ) ^ (-1075 : Int) ≤ num / den ∧ (num : ℚ) / den < 2 ^ (1024 : Int) := by
  have fits := fits_exponentOf positive positive'
  have close := abs_le.1 (abs_scaled_sub_le num positive' (exponentOf num den))
  have unit : (0 : ℚ) < 2 ^ exponentOf num den := by positivity
  rw [rounded] at finite nonzero
  have known : exponentOf num den ≤ maxExponent ∧ 1 ≤ scaled num den (exponentOf num den) := by
    by_cases small : scaled num den (exponentOf num den) < 2 ^ 53
    · rw [if_pos small] at finite nonzero
      exact ⟨finite, Nat.pos_of_ne_zero nonzero⟩
    · rw [if_neg small] at finite
      exact ⟨(Int.lt_of_add_one_le finite).le, by omega⟩
  refine ⟨?_, lt_of_lt_of_le fits.lt (two_zpow_mono ?_)⟩
  · have one : (1 : ℚ) ≤ scaled num den (exponentOf num den) := by exact_mod_cast known.2
    have half : 1 / 2 ≤ (num : ℚ) / den / 2 ^ exponentOf num den := by linarith [close.2]
    rw [le_div_iff₀ unit] at half
    refine le_trans ?_ half
    have least := fits.least
    calc (2 : ℚ) ^ (-1075 : Int) ≤ 2 ^ (exponentOf num den - 1) :=
          two_zpow_mono (by rw [minExponent] at least; omega)
      _ = 1 / 2 * 2 ^ exponentOf num den := by rw [zpow_sub_one₀ two_ne_zero]; ring
  · have greatest := known.1
    rw [maxExponent] at greatest
    omega

end InvokeWorker.Double
