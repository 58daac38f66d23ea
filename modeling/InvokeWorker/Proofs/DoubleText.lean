import InvokeWorker.Proofs.DoubleRounding
import InvokeWorker.Proofs.JsonNumerals

/-!
# The text of a double is read as the double

A finite number is written with the fewest digits that are rounded to it. There are such digits, as
17 are always enough (`Double.exists_near_candidate`), so the search ends with a decimal that is
read as the number (`Double.ofDecimal_shortest`). What a decimal is read as depends on its value
only (`Double.ofDecimal_of_same`), not on where its point is or how many zeros stand behind it, so
the number is read from its text in JSON (`Json.reads_named`).
-/

namespace InvokeWorker

namespace Double

/-! ## Powers of ten and of two -/

/-- Powers of two bases compare as two of them do. -/
theorem zpow_le_of_pow_le {a b : ℚ} {p q : Nat} (a_pos : 0 < a) (one_le : 1 ≤ b)
    (some_power : p ≠ 0) (le : a ^ p ≤ b ^ q) {x y : Int} (nonneg : 0 ≤ x)
    (less : q * x ≤ p * y) : a ^ x ≤ b ^ y := by
  have b_pos : 0 < b := lt_of_lt_of_le one_pos one_le
  refine (pow_le_pow_iff_left₀ (by positivity) (by positivity) some_power).1 ?_
  calc (a ^ x) ^ p = (a ^ p) ^ x := by rw [← zpow_natCast, ← zpow_natCast, zpow_comm]
    _ ≤ (b ^ q) ^ x := zpow_le_zpow_left₀ nonneg (by positivity) le
    _ = b ^ (q * x) := by rw [zpow_mul, zpow_natCast]
    _ ≤ b ^ (p * y) := zpow_le_zpow_right₀ one_le less
    _ = (b ^ y) ^ p := by rw [mul_comm, zpow_mul, zpow_natCast]

/-- A power of ten is below a power of two if the exponents are as those of `10 ^ 3 ≤ 2 ^ 10` and of
    `2 ^ 93 ≤ 10 ^ 28`. -/
theorem ten_zpow_le {x y : Int} (up : 10 * x ≤ 3 * y) (down : 93 * x ≤ 28 * y) :
    (10 : ℚ) ^ x ≤ 2 ^ y := by
  rcases le_or_gt 0 x with nonneg | negative
  · have le : (10 : ℚ) ^ 3 ≤ 2 ^ 10 := by norm_num
    exact zpow_le_of_pow_le (by norm_num) one_le_two (by decide) le nonneg up
  rcases le_or_gt 0 y with nonneg | negative'
  · have small : (10 : ℚ) ^ x ≤ 1 := zpow_le_one_of_nonpos₀ (by norm_num) negative.le
    exact le_trans small (one_le_zpow₀ one_le_two nonneg)
  · have le : (2 : ℚ) ^ 93 ≤ 10 ^ 28 := by norm_num
    have inverse : (2 : ℚ) ^ (-y) ≤ 10 ^ (-x) :=
      zpow_le_of_pow_le two_pos (by norm_num) (by decide) le (by omega) (by push_cast; omega)
    rw [zpow_neg, zpow_neg] at inverse
    exact (inv_le_inv₀ (by positivity) (by positivity)).1 inverse

theorem two_zpow_le {x y : Int} (up : 3 * x ≤ 10 * y) (down : 28 * x ≤ 93 * y) :
    (2 : ℚ) ^ x ≤ 10 ^ y := by
  have inverse : (10 : ℚ) ^ (-y) ≤ 2 ^ (-x) := ten_zpow_le (by omega) (by omega)
  rw [zpow_neg, zpow_neg] at inverse
  exact (inv_le_inv₀ (by positivity) (by positivity)).1 inverse

/-! ## Numbers in decimal notation -/

section Decimal

variable {digits : Nat} {k : Int}

/-- The number `digits * base ^ k` as a quotient of naturals. -/
def quotient (base digits : Nat) (k : Int) : Nat × Nat :=
  if 0 ≤ k then (digits * base ^ k.toNat, 1) else (digits, base ^ (-k).toNat)

theorem quotient_pos {base : Nat} (some_base : 0 < base) (positive : 0 < digits) (k : Int) :
    0 < (quotient base digits k).1 ∧ 0 < (quotient base digits k).2 := by
  have power : ∀ n : Nat, 0 < base ^ n := fun n => Nat.pow_pos some_base
  rw [quotient]
  split
  · exact ⟨Nat.mul_pos positive (power _), one_pos⟩
  · exact ⟨positive, power _⟩

theorem cast_quotient (base digits : Nat) (k : Int) :
    ((quotient base digits k).1 : ℚ) / (quotient base digits k).2 = digits * (base : ℚ) ^ k := by
  rw [quotient]
  split
  · next nonneg =>
    rw [zpow_of_nonneg nonneg]
    push_cast
    rw [div_one]
  · next negative =>
    rw [zpow_of_neg negative]
    push_cast
    rw [div_eq_mul_inv]

theorem cast_quotient_ten (digits : Nat) (k : Int) :
    ((quotient 10 digits k).1 : ℚ) / (quotient 10 digits k).2 = digits * 10 ^ k := by
  rw [cast_quotient, Nat.cast_ofNat]

/-- In the range of the finite numbers, a decimal is rounded as the quotient it is. -/
theorem ofDecimal_eq (positive : 0 < digits) (low : (2 : ℚ) ^ (-1075 : Int) ≤ digits * 10 ^ k)
    (high : (digits : ℚ) * 10 ^ k < 2 ^ (1024 : Int)) (shallow : -400 ≤ k) (negative : Bool) :
    ofDecimal negative digits k =
      ofRatio negative (quotient 10 digits k).1 (quotient 10 digits k).2 := by
  obtain ⟨l, l_eq⟩ : ∃ l : Nat, l = digits.log2 := ⟨_, rfl⟩
  obtain ⟨below, above⟩ := two_zpow_log2 positive
  rw [← l_eq] at below above
  have ten : (0 : ℚ) < 10 ^ k := by positivity
  have two : (2 : ℚ) ≠ 0 := two_ne_zero
  have bounded : (l : Int) < 2358 := by
    have least : (2 : ℚ) ^ (-1334 : Int) ≤ 10 ^ k := two_zpow_le (by omega) (by omega)
    have less : (2 : ℚ) ^ ((l : Int) + -1334) < 2 ^ (1024 : Int) := by
      rw [zpow_add₀ two]
      exact lt_of_le_of_lt (by gcongr) high
    have := (zpow_lt_zpow_iff_right₀ one_lt_two).1 less
    omega
  -- The decimal logarithm of two is a little less than `30103 / 100000`, so the two shortcuts are
  -- taken for values out of range only.
  have not_large : ¬ 310 < k + (l * 30103 / 100000 : Nat) := by
    intro large
    have least : (2 : ℚ) ^ (1024 - (l : Int)) ≤ 10 ^ k := two_zpow_le (by omega) (by omega)
    have more : (2 : ℚ) ^ (1024 : Int) ≤ digits * 10 ^ k := by
      calc (2 : ℚ) ^ (1024 : Int) = 2 ^ (l : Int) * 2 ^ (1024 - (l : Int)) := by
            rw [← zpow_add₀ two]; congr 1; omega
        _ ≤ digits * 10 ^ k := by gcongr
    exact absurd high (not_lt.2 more)
  have not_small : ¬ k + (l * 30103 / 100000 : Nat) < -330 := by
    intro small
    have greatest : (10 : ℚ) ^ k ≤ 2 ^ (-1076 - (l : Int)) := ten_zpow_le (by omega) (by omega)
    have less : (digits : ℚ) * 10 ^ k < 2 ^ (-1075 : Int) := by
      calc (digits : ℚ) * 10 ^ k < 2 ^ ((l : Int) + 1) * 10 ^ k := by gcongr
        _ ≤ 2 ^ ((l : Int) + 1) * 2 ^ (-1076 - (l : Int)) := by gcongr
        _ = 2 ^ (-1075 : Int) := by rw [← zpow_add₀ two]; congr 1; omega
    exact absurd low (not_le.2 less)
  rw [ofDecimal, if_neg positive.ne', ← l_eq, if_neg not_large, if_neg not_small, quotient]
  split <;> rfl

/-- A decimal that is rounded to a finite number other than zero is in the range of these. -/
theorem rounded_of_ofDecimal {negative : Bool} {m : Nat} {e : Int} (nonzero : m ≠ 0)
    (found : ofDecimal negative digits k = .finite negative m e) :
    0 < digits ∧ rounded (quotient 10 digits k).1 (quotient 10 digits k).2 = (m, e) ∧
      e ≤ maxExponent := by
  have not_zero : zero negative ≠ .finite negative m e := fun same => by
    injection same with _ same _
    exact nonzero same.symm
  rw [ofDecimal] at found
  split at found
  · exact absurd found not_zero
  · next some_digit =>
    have positive := Nat.pos_of_ne_zero some_digit
    refine ⟨positive, ?_⟩
    have ratio : ofRatio negative (quotient 10 digits k).1 (quotient 10 digits k).2 =
        .finite negative m e := by
      dsimp only at found
      split at found
      · cases found
      split at found
      · exact absurd found not_zero
      · rw [← found, quotient]
        split <;> rfl
    rw [ofRatio_eq negative (quotient_pos (by decide) positive k).1] at ratio
    split at ratio
    · cases ratio
    · next small =>
      injection ratio with _ mantissa exponent
      rw [← mantissa, ← exponent]
      exact ⟨rfl, not_lt.1 small⟩

/-- What a decimal is read as depends on its value only. -/
theorem ofDecimal_of_same {negative : Bool} {m : Nat} {e : Int} (nonzero : m ≠ 0)
    (found : ofDecimal negative digits k = .finite negative m e) {digits' : Nat} {k' : Int}
    (same : (digits' : ℚ) * 10 ^ k' = digits * 10 ^ k) (shallow : -400 ≤ k') (negative' : Bool) :
    ofDecimal negative' digits' k' = .finite negative' m e := by
  obtain ⟨positive, round, finite⟩ := rounded_of_ofDecimal nonzero found
  have value_pos : (0 : ℚ) < digits' * 10 ^ k' := by
    rw [same]
    have : (0 : ℚ) < digits := by exact_mod_cast positive
    positivity
  have positive' : 0 < digits' := by
    refine Nat.pos_of_ne_zero fun zero => ?_
    rw [zero, Nat.cast_zero, zero_mul] at value_pos
    exact lt_irrefl _ value_pos
  obtain ⟨num_pos, den_pos⟩ := quotient_pos (show 0 < 10 by decide) positive k
  obtain ⟨num_pos', den_pos'⟩ := quotient_pos (show 0 < 10 by decide) positive' k'
  have bounds := bounds_of_rounded num_pos den_pos (by rw [round]; exact finite)
    (by rw [round]; exact nonzero)
  rw [cast_quotient_ten, ← same] at bounds
  have rounds := rounded_congr num_pos' den_pos' num_pos den_pos
    (by rw [cast_quotient_ten, cast_quotient_ten, same])
  rw [ofDecimal_eq positive' bounds.1 bounds.2 shallow, ofRatio_eq negative' num_pos', rounds,
    round, if_neg (not_lt.2 finite)]

/-- A decimal near a number is read as this number. -/
theorem ofDecimal_of_near {m : Nat} {e : Int} (canonical : IsCanonical m e) (nonzero : m ≠ 0)
    (near : Near (digits * 10 ^ k) m e) (shallow : -400 ≤ k) (negative : Bool) :
    ofDecimal negative digits k = .finite negative m e := by
  have unit : (0 : ℚ) < 2 ^ e := by positivity
  have one_le : (1 : ℚ) ≤ m := by exact_mod_cast Nat.pos_of_ne_zero nonzero
  have above : 1 / 2 * (2 : ℚ) ^ e ≤ digits * 10 ^ k := by nlinarith [near.lower]
  have positive : 0 < digits := by
    refine Nat.pos_of_ne_zero fun zero => ?_
    rw [zero, Nat.cast_zero, zero_mul] at above
    linarith
  have low : (2 : ℚ) ^ (-1075 : Int) ≤ digits * 10 ^ k := by
    have least := canonical.least
    rw [minExponent] at least
    refine le_trans ?_ above
    calc (2 : ℚ) ^ (-1075 : Int) ≤ 2 ^ (e - 1) := two_zpow_mono (by omega)
      _ = 1 / 2 * 2 ^ e := by rw [zpow_sub_one₀ two_ne_zero]; ring
  have high : (digits : ℚ) * 10 ^ k < 2 ^ (1024 : Int) := by
    have greatest := canonical.greatest
    have less : (m : ℚ) + 1 ≤ 2 ^ 53 := by exact_mod_cast canonical.lt
    rw [maxExponent] at greatest
    calc (digits : ℚ) * 10 ^ k < (m + 1 / 2) * 2 ^ e := near.below
      _ ≤ 2 ^ 53 * 2 ^ e := by gcongr; linarith
      _ ≤ 2 ^ 53 * 2 ^ (971 : Int) := by gcongr; exact one_le_two
      _ = 2 ^ (1024 : Int) := by rw [← zpow_natCast, ← zpow_add₀ two_ne_zero]; norm_num
  obtain ⟨num_pos, den_pos⟩ := quotient_pos (show 0 < 10 by decide) positive k
  rw [ofDecimal_eq positive low high shallow, ofRatio_eq negative num_pos,
    rounded_of_near num_pos den_pos canonical (by rw [cast_quotient_ten]; exact near),
    if_neg (not_lt.2 canonical.greatest)]

end Decimal

/-! ## The place of the point -/

section Place

variable {num den : Nat}

theorem shifted_ten_lt (num : Nat) (positive' : 0 < den) (k : Int) :
    (shifted 10 num den k).1 < (shifted 10 num den k).2 ↔ (num : ℚ) / den < 10 ^ k := by
  have pos : (0 : ℚ) < (shifted 10 num den k).2 := by
    exact_mod_cast shifted_pos (by decide) num positive' k
  have power : (0 : ℚ) < 10 ^ k := by positivity
  rw [← Nat.cast_lt (α := ℚ), ← div_lt_one pos, cast_shifted, Nat.cast_ofNat, div_lt_one power]

theorem pointPlace_eq (num : Nat) (positive' : 0 < den) {guess : Int}
    (guess_eq : guess = ((num.log2 : Int) - den.log2) * 30103 / 100000 - 1) :
    pointPlace num den = if (num : ℚ) / den < 10 ^ guess then guess
      else if (num : ℚ) / den < 10 ^ (guess + 1) then guess + 1
      else if (num : ℚ) / den < 10 ^ (guess + 2) then guess + 2
      else guess + 3 := by
  have below : ∀ k : Int, (if 0 ≤ k then decide (num < den * 10 ^ k.toNat)
      else decide (num * 10 ^ (-k).toNat < den)) = true ↔ (num : ℚ) / den < 10 ^ k := fun k => by
    rw [← shifted_ten_lt num positive' k, shifted]
    split <;> exact decide_eq_true_iff
  rw [pointPlace]
  simp only [below, ← guess_eq]

/-- The number of digits before the point is not too great. -/
theorem ten_zpow_pointPlace (positive : 0 < num) (positive' : 0 < den)
    (low : -1080 ≤ (num.log2 : Int) - den.log2) (high : (num.log2 : Int) - den.log2 ≤ 1080) :
    -340 ≤ pointPlace num den ∧ (10 : ℚ) ^ (pointPlace num den - 1) ≤ num / den := by
  obtain ⟨l, l_eq⟩ : ∃ l, l = (num.log2 : Int) - den.log2 := ⟨_, rfl⟩
  obtain ⟨guess, guess_eq⟩ : ∃ guess, guess = l * 30103 / 100000 - 1 := ⟨_, rfl⟩
  rw [pointPlace_eq num positive' (l_eq ▸ guess_eq)]
  obtain ⟨above, -⟩ := two_zpow_quotient positive positive'
  rw [← l_eq] at above low high
  -- For the guess this is known from the logarithms; each further place is tried only if the
  -- quotient is not below the one before.
  have first : (10 : ℚ) ^ (guess - 1) ≤ num / den :=
    le_trans (ten_zpow_le (by omega) (by omega)) above.le
  have next : ∀ k p : Int, ¬ (num : ℚ) / den < 10 ^ k → p = k + 1 →
      (10 : ℚ) ^ (p - 1) ≤ num / den := by
    rintro k _ large rfl
    rw [add_sub_cancel_right]
    exact not_lt.1 large
  split
  · exact ⟨by omega, first⟩
  split
  · exact ⟨by omega, next guess _ ‹_› rfl⟩
  split
  · exact ⟨by omega, next (guess + 1) _ ‹_› (by omega)⟩
  · exact ⟨by omega, next (guess + 2) _ ‹_› (by omega)⟩

end Place

/-! ## The shortest decimal -/

section Shortest

variable {m : Nat} {e : Int} {num den : Nat}

theorem ratio_eq_quotient (m : Nat) (e : Int) : ratio m e = quotient 2 m e :=
  rfl

/-- The binary logarithms of a finite number are in the range of the exponents. -/
theorem log2_bounds (canonical : IsCanonical m e) (nonzero : m ≠ 0) (positive : 0 < num)
    (positive' : 0 < den) (value : (num : ℚ) / den = m * 2 ^ e) :
    -1080 ≤ (num.log2 : Int) - den.log2 ∧ (num.log2 : Int) - den.log2 ≤ 1080 := by
  obtain ⟨above, below⟩ := two_zpow_quotient positive positive'
  rw [value] at above below
  have least := canonical.least
  have greatest := canonical.greatest
  rw [minExponent] at least
  rw [maxExponent] at greatest
  have one_le : (1 : ℚ) ≤ m := by exact_mod_cast Nat.pos_of_ne_zero nonzero
  have lt : (m : ℚ) < 2 ^ (53 : Int) := by exact_mod_cast canonical.lt
  have unit : (0 : ℚ) < 2 ^ e := by positivity
  constructor
  · have less := lt_of_le_of_lt (le_mul_of_one_le_left unit.le one_le) below
    have := (zpow_lt_zpow_iff_right₀ one_lt_two).1 less
    omega
  · have less := lt_trans above (mul_lt_mul_of_pos_right lt unit)
    rw [← zpow_add₀ two_ne_zero] at less
    have := (zpow_lt_zpow_iff_right₀ one_lt_two).1 less
    omega

/-- A number rounded to a multiple of a unit that is fine enough is near. -/
theorem near_of_abs_sub_le (canonical : IsCanonical m e) {c : Nat} {u : ℚ} (u_pos : 0 < u)
    (fine : u * 10 ^ 16 ≤ m * 2 ^ e) (close : |(c : ℚ) - m * 2 ^ e / u| ≤ 1 / 2) :
    Near (c * u) m e := by
  have unit : (0 : ℚ) < 2 ^ e := by positivity
  have difference : c * u - m * 2 ^ e = (c - m * 2 ^ e / u) * u := by
    rw [sub_mul, div_mul_cancel₀ _ u_pos.ne']
  obtain ⟨lower, upper⟩ := abs_le.1 close
  have lower := mul_le_mul_of_nonneg_right lower u_pos.le
  have upper := mul_le_mul_of_nonneg_right upper u_pos.le
  rw [← difference] at lower upper
  have bound : (m : ℚ) + 1 ≤ 2 ^ 53 := by exact_mod_cast canonical.lt
  have small : u < 2 ^ e := by nlinarith
  refine ⟨?_, by linarith⟩
  -- Below a power of two the neighbour is at half the distance, but there `2 ^ 52 < 10 ^ 16 / 2`.
  by_cases power_of_two : m = 2 ^ 52
  · left
    have power : (m : ℚ) = 2 ^ 52 := by exact_mod_cast power_of_two
    rw [power] at fine lower ⊢
    linarith
  · exact .inr ⟨power_of_two, by linarith⟩

/-- The first candidate is the quotient rounded to so many digits. -/
theorem roundDiv_mem_candidates (num den : Nat) (place : Int) (n : Nat) :
    roundDiv (shifted 10 num den (place - n)).1 (shifted 10 num den (place - n)).2 ∈
      candidates num den place n := by
  rw [candidates, shifted, roundDiv]
  dsimp only
  split <;> split <;> exact List.mem_cons_self

/-- Among the candidates of 17 digits there is one that is near. -/
theorem exists_near_candidate (canonical : IsCanonical m e) (positive' : 0 < den)
    (value : (num : ℚ) / den = m * 2 ^ e) {place : Int}
    (large : (10 : ℚ) ^ (place - 1) ≤ num / den) :
    ∃ c ∈ candidates num den place 17, Near (c * 10 ^ (place - (17 : Nat))) m e := by
  refine ⟨_, roundDiv_mem_candidates _ _ _ _, near_of_abs_sub_le canonical (by positivity) ?_ ?_⟩
  · rw [← value]
    refine le_trans (le_of_eq ?_) large
    rw [← zpow_natCast, ← zpow_add₀ (by norm_num)]
    congr 1
    push_cast
    omega
  · have close := abs_roundDiv_sub_le (shifted 10 num den (place - (17 : Nat))).1
      (shifted_pos (show 0 < 10 by decide) num positive' (place - (17 : Nat)))
    rwa [cast_shifted, Nat.cast_ofNat, value] at close

/-- The shortest decimal of a number is read as the number, and no unit of it is too small. -/
theorem ofDecimal_shortest (canonical : IsCanonical m e) (nonzero : m ≠ 0) :
    ofDecimal false (shortest m e).1 (shortest m e).2 = .finite false m e ∧
      -400 ≤ (shortest m e).2 := by
  obtain ⟨num, den, ratio_eq⟩ : ∃ num den, ratio m e = (num, den) := ⟨_, _, rfl⟩
  obtain ⟨positive, positive'⟩ := quotient_pos two_pos (Nat.pos_of_ne_zero nonzero) e
  have value := cast_quotient 2 m e
  rw [← ratio_eq_quotient, ratio_eq] at positive positive' value
  rw [Nat.cast_ofNat] at value
  dsimp only at positive positive' value
  obtain ⟨low, high⟩ := log2_bounds canonical nonzero positive positive' value
  obtain ⟨shallow, large⟩ := ten_zpow_pointPlace positive positive' low high
  obtain ⟨c, mem, near⟩ := exists_near_candidate canonical positive' value large
  -- The search ends at 17 digits at the latest.
  have search : ∀ fuel, ∃ digits k,
      shortestFrom m e (pointPlace num den) num den (fuel + 1) = (digits, k) ∧
      ofDecimal false digits k = .finite false m e ∧ -400 ≤ k := by
    intro fuel
    induction fuel with
    | zero =>
      rw [shortestFrom]
      split
      · next found => exact ⟨_, _, rfl, by simpa using List.find?_some found, by omega⟩
      · next none =>
        have reads := ofDecimal_of_near canonical nonzero near (by push_cast; omega) false
        exact absurd (decide_eq_true reads) (List.find?_eq_none.1 none c mem)
    | succ fuel ih =>
      rw [shortestFrom]
      split
      · next found => exact ⟨_, _, rfl, by simpa using List.find?_some found, by omega⟩
      · exact ih
  obtain ⟨digits, k, found, reads⟩ := search 16
  rw [shortest, ratio_eq]
  dsimp only
  rw [found]
  exact reads

end Shortest

end Double

namespace Json

open Double

/-! ## Numbers in JSON -/

variable {m : Nat} {e : Int}

theorem numeral_named (canonical : IsCanonical m e) (negative : Bool) :
    Numeral (JsonStyle.named (.finite negative m e)) (.float (.finite negative m e)) := by
  show Numeral (signed negative ++ magnitude .signedExponent m e) _
  rcases Nat.eq_zero_or_pos m with rfl | positive
  · have least : e = minExponent := canonical.le.resolve_right (by decide)
    obtain ⟨j, -, numeral⟩ := (isDecimalOf_zero e).exists_numeral negative
    rwa [Nat.zero_mul, ofDecimal, if_pos rfl, zero, ← least] at numeral
  · obtain ⟨reads, shallow⟩ := ofDecimal_shortest canonical positive.ne'
    obtain ⟨digits, z, parts, decimal⟩ := exists_isDecimalOf_shortest
      (show Layout.signedExponent.plus = [101] ∨ Layout.signedExponent.plus = [101, 43] from
        .inr rfl) positive.ne' e
    obtain ⟨j, few, numeral⟩ := decimal.exists_numeral negative
    have ten : (10 : ℚ) ≠ 0 := by norm_num
    have same : ((digits * 10 ^ j : Nat) : ℚ) * 10 ^ ((shortest m e).2 + z - j) =
        (shortest m e).1 * 10 ^ (shortest m e).2 := by
      rw [parts, zpow_sub₀ ten, zpow_add₀ ten, zpow_natCast, zpow_natCast]
      push_cast
      field_simp
    rwa [ofDecimal_of_same positive.ne' reads same (by omega) negative] at numeral

/-- A finite number is read as it was written. -/
theorem reads_named (rules : JsonRules) {d : Double} (canonical : d.Canonical) :
    Reads rules (JsonStyle.named d) (.float d) := by
  cases d with
  | finite negative m e => exact reads_numeral rules (numeral_named canonical negative)
  | _ => exact canonical.elim

end Json

end InvokeWorker
