import InvokeWorker.Text.Basic
import Mathlib.Data.Nat.Digits.Lemmas

/-!
# Numerals

A number is written as its digits in a base, the most significant one first: those that
`Nat.digits` lists from the other end (`Text.ofNat_eq`). So the text of a number consists of digits,
does not start with a zero unless that is all, is as long as its size says, and has the number as
its value (`Text.digitsValue_ofNat`). A UTF-16 unit is written as four digits in base sixteen
(`Text.hex_eq`).
-/

namespace InvokeWorker

namespace CodePoint

variable {d : Nat}

theorem val_ofDigit (small : d < 10) : (ofDigit d).val = 48 + d :=
  (by decide : ∀ d < 10, (ofDigit d).val = 48 + d) d small

theorem isDigit_ofDigit (small : d < 10) : (ofDigit d).isDigit = true :=
  (by decide : ∀ d < 10, (ofDigit d).isDigit = true) d small

theorem hexDigit?_ofDigit (small : d < 16) : (ofDigit d).hexDigit? = some d :=
  (by decide : ∀ d < 16, (ofDigit d).hexDigit? = some d) d small

end CodePoint

namespace Text

variable {base n : Nat} {t : Text} {c : CodePoint}

theorem digitsOnto_of_lt (two : 2 ≤ base) (small : n < base) (rest : Text) :
    digitsOnto base n rest = CodePoint.ofDigit n :: rest := by
  rw [digitsOnto, dif_pos (.inr small), Nat.max_eq_left (by omega), Nat.mod_eq_of_lt small]

theorem digitsOnto_of_le (two : 2 ≤ base) (large : base ≤ n) (rest : Text) :
    digitsOnto base n rest =
      digitsOnto base (n / base) (CodePoint.ofDigit (n % base) :: rest) := by
  rw [digitsOnto, dif_neg (by omega)]

/-- The digits of a positive number, in front of a text. -/
theorem digitsOnto_eq (two : 2 ≤ base) (positive : 0 < n) (rest : Text) :
    digitsOnto base n rest = ((Nat.digits base n).map CodePoint.ofDigit).reverse ++ rest := by
  induction n using Nat.strong_induction_on generalizing rest with
  | _ n ih =>
    rcases Nat.lt_or_ge n base with small | large
    · rw [digitsOnto_of_lt two small, Nat.digits_of_lt base n positive.ne' small]
      rfl
    · have fewer : n / base < n := Nat.div_lt_self positive (by omega)
      have some_left : 0 < n / base := Nat.div_pos large (by omega)
      rw [digitsOnto_of_le two large, ih _ fewer some_left, Nat.digits_def' (by omega) positive]
      simp

theorem ofNat_zero : ofNat 0 = [48] := by
  rw [ofNat, digitsOnto_of_lt (by decide) (by decide)]
  rfl

theorem ofNat_eq (positive : 0 < n) :
    ofNat n = ((Nat.digits 10 n).map CodePoint.ofDigit).reverse := by
  rw [ofNat, digitsOnto_eq (by decide) positive, List.append_nil]

/-- The value of a run of digits, the last of which counts once. -/
theorem digitsValue_eq (t : Text) :
    digitsValue t = Nat.ofDigits 10 (t.reverse.map fun c => c.val - 48) := by
  rw [digitsValue, List.foldl_eq_foldr_reverse, Nat.ofDigits_eq_foldr, List.foldr_map]
  congr 1
  funext c n
  exact Nat.add_comm _ _

theorem digitsValue_ofNat (n : Nat) : digitsValue (ofNat n) = n := by
  rcases Nat.eq_zero_or_pos n with rfl | positive
  · rw [ofNat_zero]
    rfl
  · have digits : (Nat.digits 10 n).map (fun d => (CodePoint.ofDigit d).val - 48) =
        Nat.digits 10 n := by
      refine (List.map_congr_left fun d mem => ?_).trans (List.map_id _)
      rw [CodePoint.val_ofDigit (Nat.digits_lt_base (by decide) mem), Nat.add_sub_cancel_left, id]
    rw [digitsValue_eq, ofNat_eq positive, List.reverse_reverse, List.map_map, Function.comp_def,
      digits, Nat.ofDigits_digits]

theorem digitsValue_append (t u : Text) :
    digitsValue (t ++ u) = digitsValue t * 10 ^ u.length + digitsValue u := by
  rw [digitsValue_eq, List.reverse_append, List.map_append, Nat.ofDigits_append, List.length_map,
    List.length_reverse, ← digitsValue_eq, ← digitsValue_eq]
  ring

theorem digitsValue_zeros (n : Nat) : digitsValue (List.replicate n 48) = 0 := by
  rw [digitsValue_eq, List.reverse_replicate, List.map_replicate]
  exact Nat.ofDigits_replicate_zero

/-- Zeros in front of digits count nothing. -/
theorem digitsValue_zeros_append (n : Nat) (t : Text) :
    digitsValue (List.replicate n 48 ++ t) = digitsValue t := by
  rw [digitsValue_append, digitsValue_zeros, Nat.zero_mul, Nat.zero_add]

/-- With zeros behind them, digits count for more. -/
theorem digitsValue_append_zeros (t : Text) (n : Nat) :
    digitsValue (t ++ List.replicate n 48) = digitsValue t * 10 ^ n := by
  rw [digitsValue_append, digitsValue_zeros, List.length_replicate, Nat.add_zero]

theorem digitsValue_decimal (width n : Nat) : digitsValue (decimal width n) = n :=
  (digitsValue_zeros_append _ _).trans (digitsValue_ofNat n)

theorem isDigit_of_mem_ofNat (mem : c ∈ ofNat n) : c.isDigit = true := by
  rcases Nat.eq_zero_or_pos n with rfl | positive
  · rw [ofNat_zero] at mem
    rw [List.mem_singleton.1 mem]
    rfl
  · rw [ofNat_eq positive, List.mem_reverse] at mem
    obtain ⟨d, digit, rfl⟩ := List.mem_map.1 mem
    exact CodePoint.isDigit_ofDigit (Nat.digits_lt_base (by decide) digit)

/-- A positive number starts with a digit that is not zero. -/
theorem exists_ofNat_eq_cons (positive : 0 < n) : ∃ c rest, ofNat n = c :: rest ∧ c ≠ 48 := by
  have some_digit : Nat.digits 10 n ≠ [] := Nat.digits_ne_nil_iff_ne_zero.2 positive.ne'
  have leading : (Nat.digits 10 n).getLast some_digit ≠ 0 :=
    Nat.getLast_digit_ne_zero 10 positive.ne'
  have small : (Nat.digits 10 n).getLast some_digit < 10 :=
    Nat.digits_lt_base (by decide) (List.getLast_mem some_digit)
  refine ⟨.ofDigit ((Nat.digits 10 n).getLast some_digit),
    ((Nat.digits 10 n).dropLast.map CodePoint.ofDigit).reverse, ?_, fun zero => leading ?_⟩
  · conv_lhs => rw [ofNat_eq positive, ← List.dropLast_append_getLast some_digit]
    simp
  · have same := CodePoint.val_ofDigit small
    rw [zero] at same
    exact Nat.add_eq_left.1 same.symm

theorem ofNat_ne_nil (n : Nat) : ofNat n ≠ [] := by
  rcases Nat.eq_zero_or_pos n with rfl | positive
  · simp [ofNat_zero]
  · obtain ⟨c, rest, eq, -⟩ := exists_ofNat_eq_cons positive
    simp [eq]

/-- A number has at most so many digits if, and only if, it is below this power of ten. -/
theorem length_ofNat_le_iff {k : Nat} (some_digit : 0 < k) :
    (ofNat n).length ≤ k ↔ n < 10 ^ k := by
  rcases Nat.eq_zero_or_pos n with rfl | positive
  · rw [ofNat_zero]
    exact ⟨fun _ => Nat.pow_pos (by decide), fun _ => some_digit⟩
  · rw [ofNat_eq positive, List.length_reverse, List.length_map]
    exact Nat.digits_length_le_iff (by decide) n

/-- A number of sixteen bits is written with four digits in base sixteen. -/
theorem hex_eq (small : n < 0x10000) : hex 4 n = [CodePoint.ofDigit (n / 0x1000),
    CodePoint.ofDigit (n / 0x100 % 0x10), CodePoint.ofDigit (n / 0x10 % 0x10),
    CodePoint.ofDigit (n % 0x10)] := by
  have zero : CodePoint.ofDigit 0 = 48 := rfl
  have next : ∀ m rest, 16 ≤ m →
      digitsOnto 16 m rest = digitsOnto 16 (m / 16) (CodePoint.ofDigit (m % 16) :: rest) :=
    fun m rest large => digitsOnto_of_le (by decide) large rest
  have last : ∀ m rest, m < 16 → digitsOnto 16 m rest = CodePoint.ofDigit m :: rest :=
    fun m rest small => digitsOnto_of_lt (by decide) small rest
  -- There are from one to four digits; zeros stand for the ones that are missing.
  rw [hex, padLeft]
  rcases Nat.lt_or_ge n 0x10 with one | two
  · rw [last n _ one, Nat.div_eq_of_lt (by omega : n < 0x1000),
      Nat.div_eq_of_lt (by omega : n < 0x100), Nat.div_eq_of_lt one, Nat.mod_eq_of_lt one]
    rfl
  rw [next n _ two]
  rcases Nat.lt_or_ge n 0x100 with two | three
  · rw [last _ _ (by omega), Nat.div_eq_of_lt (by omega : n < 0x1000), Nat.div_eq_of_lt two,
      Nat.mod_eq_of_lt (by omega : n / 0x10 < 0x10)]
    rfl
  rw [next _ _ (by omega), Nat.div_div_eq_div_mul]
  rcases Nat.lt_or_ge n 0x1000 with three | four
  · rw [last _ _ (by omega), Nat.div_eq_of_lt three, Nat.mod_eq_of_lt (by omega : n / 0x100 < 0x10)]
    rfl
  · rw [next _ _ (by omega), Nat.div_div_eq_div_mul, last _ _ (by omega)]
    rfl

end Text

end InvokeWorker
