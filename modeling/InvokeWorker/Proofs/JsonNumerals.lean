import InvokeWorker.Json.Reader
import InvokeWorker.Json.Writer
import InvokeWorker.Proofs.Numerals
import Mathlib.Data.List.TakeWhile

/-!
# Numbers in JSON

A number is a whole part, a fraction and an exponent, the last two of which may be missing
(`Json.Numeral`). Wherever it stands in front of a comma, a bracket, a brace or the end, it is read
up to there (`Json.readNumber_of_numeral`). Integers and finite doubles are written as such numbers,
and an integer that is not too long is the one that is read (`Json.numeral_ofInt`).
-/

namespace InvokeWorker.Json

/-- A comma, a closing bracket or brace, or nothing comes first. -/
def Delimited (rest : Text) : Prop :=
  ∀ c ∈ rest.head?, c = 44 ∨ c = 93 ∨ c = 125

/-- All code points are decimal digits. -/
def AllDigits (t : Text) : Prop :=
  ∀ c ∈ t, c.isDigit = true

/-- One zero, or digits that do not start with one. -/
inductive IsWhole : Text → Prop
  /-- Zero. -/
  | zero : IsWhole [48]
  /-- Digits. -/
  | digits {c : CodePoint} {ds : Text} : c ≠ 48 → AllDigits (c :: ds) → IsWhole (c :: ds)

/-- Nothing, or a point and at least one digit. -/
inductive IsFraction : Text → Prop
  /-- No fraction. -/
  | none : IsFraction []
  /-- A fraction. -/
  | some {ds : Text} : ds ≠ [] → AllDigits ds → IsFraction (46 :: ds)

/-- Nothing, or the letter `e`, a sign, if any, and at least one digit. -/
inductive IsExponent : Text → Prop
  /-- No exponent. -/
  | none : IsExponent []
  /-- An exponent. -/
  | some {sign ds : Text} : sign = [] ∨ sign = [43] ∨ sign = [45] → ds ≠ [] → AllDigits ds →
    IsExponent (101 :: (sign ++ ds))

/-- The sign of a number. -/
def signed (negative : Bool) : Text :=
  if negative then [45] else []

/-- The number that is read of its parts. -/
def numberOf (negative : Bool) (whole fraction exponent : Text) : Document :=
  if fraction = [] ∧ exponent = [] then
    .int (if negative then -(Text.digitsValue whole : Int) else Text.digitsValue whole)
  else
    .float (Double.ofDecimal negative (Text.digitsValue (whole ++ fraction.tail))
      ((Json.exponent exponent).1.getD 0 - fraction.tail.length))

/-- A text that stands for a number. -/
inductive Numeral : Text → Document → Prop
  /-- The parts of a number, in this order. If it has neither fraction nor exponent it is an
      integer, which must not be too long. -/
  | parts (negative : Bool) {w f e : Text} : IsWhole w → IsFraction f → IsExponent e →
    (f = [] → e = [] → w.length ≤ Text.maxDigits) →
    Numeral (signed negative ++ (w ++ (f ++ e))) (numberOf negative w f e)

variable {t w f e ds rest : Text} {c : CodePoint}

/-! ## Reading -/

/-- No digit comes first. -/
def NoDigit (rest : Text) : Prop :=
  ∀ c ∈ rest.head?, c.isDigit = false

theorem Delimited.noDigit (delimited : Delimited rest) : NoDigit rest := by
  intro c mem
  obtain rfl | rfl | rfl := delimited c mem <;> rfl

theorem takeWhile_digits (digits : AllDigits ds) (stop : NoDigit rest) :
    (ds ++ rest).takeWhile CodePoint.isDigit = ds := by
  rw [List.takeWhile_append_of_pos digits]
  cases rest with
  | nil => exact List.append_nil ds
  | cons c rest =>
    rw [List.takeWhile_cons_of_neg (by simp [stop c rfl]), List.append_nil]

theorem dropWhile_digits (digits : AllDigits ds) (stop : NoDigit rest) :
    (ds ++ rest).dropWhile CodePoint.isDigit = rest := by
  rw [List.dropWhile_append_of_pos digits]
  cases rest with
  | nil => rfl
  | cons c rest => exact List.dropWhile_cons_of_neg (by simp [stop c rfl])

theorem ne_of_isDigit (digit : c.isDigit = true) : c ≠ 43 ∧ c ≠ 45 ∧ c ≠ 46 ∧ c ≠ 101 := by
  refine ⟨?_, ?_, ?_, ?_⟩ <;>
  · rintro rfl
    cases digit

theorem integerPart_append (whole : IsWhole w) (stop : NoDigit rest) :
    integerPart (w ++ rest) = (w, rest) := by
  cases whole with
  | zero => rfl
  | @digits c ds nonzero digits =>
    rw [integerPart.eq_def]
    split
    · next same => exact absurd (List.cons.inj same).1 nonzero
    · rw [takeWhile_digits digits stop, dropWhile_digits digits stop]

theorem fraction_append (well : IsFraction f) (stop : NoDigit rest)
    (no_point : ∀ c ∈ rest.head?, c ≠ 46) : fraction (f ++ rest) = (f.tail, rest) := by
  cases well with
  | none =>
    rw [List.nil_append, fraction.eq_def]
    split
    · exact absurd rfl (no_point 46 rfl)
    · rfl
  | @some ds some_digit digits =>
    rw [List.cons_append, fraction.eq_def]
    simp only [takeWhile_digits digits stop, dropWhile_digits digits stop]
    cases ds with
    | nil => exact absurd rfl some_digit
    | cons d ds => rfl

/-- The exponent of these digits behind this sign. -/
def exponentOf (sign ds : Text) : Int :=
  if sign = [45] then -(Text.digitsValue ds : Int) else Text.digitsValue ds

theorem exponent_some {sign : Text} (signs : sign = [] ∨ sign = [43] ∨ sign = [45])
    (some_digit : ds ≠ []) (digits : AllDigits ds) (stop : NoDigit rest) :
    exponent (101 :: (sign ++ ds) ++ rest) = (some (exponentOf sign ds), rest) := by
  obtain ⟨d, ds, rfl⟩ := List.exists_cons_of_ne_nil some_digit
  have taken := takeWhile_digits digits stop
  have dropped := dropWhile_digits digits stop
  rw [List.cons_append] at taken dropped
  -- Behind a sign, or without one, the digits come next.
  obtain rfl | rfl | rfl := signs
  · have no_sign := ne_of_isDigit (digits d List.mem_cons_self)
    simp [exponent, no_sign, taken, dropped, exponentOf]
  · simp only [List.cons_append, List.nil_append, exponent, true_or, if_true, taken, dropped]
    rfl
  · simp only [List.cons_append, List.nil_append, exponent, true_or, if_true, taken, dropped]
    rfl

theorem exponent_none (no_letter : ∀ c ∈ rest.head?, c ≠ 101 ∧ c ≠ 69) :
    exponent rest = (none, rest) := by
  cases rest with
  | nil => rfl
  | cons c rest =>
    have other := no_letter c rfl
    rw [exponent.eq_def]
    exact if_neg (by simp [other])

/-- An exponent is what it is on its own. -/
theorem exponent_append (well : IsExponent e) (delimited : Delimited rest) :
    exponent (e ++ rest) = ((exponent e).1, rest) := by
  cases well with
  | none =>
    rw [List.nil_append, exponent_none fun c mem => by
      obtain rfl | rfl | rfl := delimited c mem <;> decide]
    rfl
  | @some sign ds signs some_digit digits =>
    have alone : exponent (101 :: (sign ++ ds) ++ []) = _ :=
      exponent_some signs some_digit digits nofun
    rw [List.append_nil] at alone
    rw [exponent_some signs some_digit digits delimited.noDigit, alone]

/-- What follows the whole part does not go on with a digit. -/
theorem noDigit_of_exponent (well : IsExponent e) (delimited : Delimited rest) :
    NoDigit (e ++ rest) ∧ ∀ c ∈ (e ++ rest).head?, c ≠ 46 := by
  cases well with
  | none =>
    refine ⟨delimited.noDigit, fun c mem => ?_⟩
    obtain rfl | rfl | rfl := delimited c mem <;> decide
  | some =>
    refine ⟨fun c mem => ?_, fun c mem => ?_⟩ <;>
    · cases mem
      decide

theorem noDigit_of_fraction (well : IsFraction f) (stop : NoDigit rest) : NoDigit (f ++ rest) := by
  cases well with
  | none => exact stop
  | some =>
    intro c mem
    cases mem
    rfl

theorem IsWhole.exists_cons (whole : IsWhole w) : ∃ c ds, w = c :: ds ∧ c.isDigit = true := by
  cases whole with
  | zero => exact ⟨48, [], rfl, rfl⟩
  | digits _ digits => exact ⟨_, _, rfl, digits _ List.mem_cons_self⟩

theorem IsFraction.tail_eq_nil (well : IsFraction f) : f.tail = [] ↔ f = [] := by
  cases well with
  | none => exact Iff.rfl
  | some some_digit => exact ⟨fun none => absurd none some_digit, nofun⟩

theorem fst_exponent_eq_none (well : IsExponent e) : (exponent e).1 = none ↔ e = [] := by
  cases well with
  | none => exact iff_of_true rfl rfl
  | @some sign ds signs some_digit digits =>
    have alone : exponent (101 :: (sign ++ ds) ++ []) = _ :=
      exponent_some signs some_digit digits nofun
    rw [List.append_nil] at alone
    rw [alone]
    exact ⟨nofun, nofun⟩

/-- A number is read up to what delimits it. -/
theorem readNumber_of_numeral {d : Document} (numeral : Numeral t d) (delimited : Delimited rest) :
    readNumber (t ++ rest) = .ok (d, rest) := by
  obtain ⟨negative, whole, fraction, exponent, short⟩ := numeral
  rename_i w f e
  obtain ⟨after_e, no_point⟩ := noDigit_of_exponent exponent delimited
  have read_whole := integerPart_append whole (noDigit_of_fraction fraction after_e)
  have read_fraction := fraction_append fraction after_e no_point
  have read_exponent := exponent_append exponent delimited
  obtain ⟨c, ds, rfl, digit⟩ := whole.exists_cons
  have no_sign := ne_of_isDigit digit
  rw [List.cons_append] at read_whole
  have bare : (f.tail.isEmpty = true ∧ (Json.exponent e).1.isNone = true) ↔ f = [] ∧ e = [] := by
    rw [List.isEmpty_iff, fraction.tail_eq_nil, Option.isNone_iff_eq_none,
      fst_exponent_eq_none exponent]
  rw [readNumber.eq_def]
  split
  next negative' unsigned cut =>
  have sign_and_rest : negative' = negative ∧ unsigned = c :: (ds ++ (f ++ (e ++ rest))) := by
    cases negative with
    | false =>
      rw [signed, if_neg Bool.false_ne_true, List.nil_append] at cut
      split at cut
      · next same => exact absurd (List.cons.inj same).1 no_sign.2.1
      · cases cut
        exact ⟨rfl, by simp⟩
    | true =>
      cases cut
      exact ⟨rfl, by simp⟩
  obtain ⟨rfl, rfl⟩ := sign_and_rest
  simp only [read_whole, read_fraction, read_exponent, bare]
  rw [numberOf]
  split
  · next none => rw [if_neg (Nat.not_lt.2 (short none.1 none.2))]
  · rfl

/-! ## Integers -/

theorem isWhole_ofNat (n : Nat) : IsWhole (Text.ofNat n) := by
  rcases Nat.eq_zero_or_pos n with rfl | positive
  · rw [Text.ofNat_zero]
    exact .zero
  · obtain ⟨c, ds, eq, nonzero⟩ := Text.exists_ofNat_eq_cons positive
    have digits : AllDigits (Text.ofNat n) := fun c => Text.isDigit_of_mem_ofNat
    rw [eq] at digits ⊢
    exact .digits nonzero digits

/-- An integer that is not too long is written as the number it is. -/
theorem numeral_ofInt {n : Int} (short : n.natAbs < 10 ^ Text.maxDigits) :
    Numeral (Text.ofInt n) (.int n) := by
  have length : ∀ {m : Nat}, m < 10 ^ Text.maxDigits → (Text.ofNat m).length ≤ Text.maxDigits :=
    (Text.length_ofNat_le_iff (by decide)).2
  have value : ∀ negative n, numberOf negative (Text.ofNat n) [] [] =
      .int (if negative then -(n : Int) else n) := fun negative n => by
    rw [numberOf, if_pos ⟨rfl, rfl⟩, Text.digitsValue_ofNat]
  cases n with
  | ofNat n =>
    have numeral := Numeral.parts false (isWhole_ofNat n) .none .none fun _ _ => length short
    rw [value, List.append_nil, List.append_nil] at numeral
    exact numeral
  | negSucc n =>
    have numeral := Numeral.parts true (isWhole_ofNat (n + 1)) .none .none fun _ _ => length short
    rw [value, List.append_nil, List.append_nil] at numeral
    exact numeral

/-! ## Doubles -/

/-- A number with a fraction or an exponent, or with both. -/
def IsDecimal (t : Text) : Prop :=
  ∃ w f e, IsWhole w ∧ IsFraction f ∧ IsExponent e ∧ (f ≠ [] ∨ e ≠ []) ∧ t = w ++ (f ++ e)

/-- Such a number, whose digits and place are those of `digits * 10 ^ k`, but for zeros behind the
    digits up to the one behind the point. -/
def IsDecimalOf (digits : Nat) (k : Int) (t : Text) : Prop :=
  ∃ w f e, ∃ j : Nat, IsWhole w ∧ IsFraction f ∧ IsExponent e ∧ (f ≠ [] ∨ e ≠ []) ∧
    t = w ++ (f ++ e) ∧ Text.digitsValue (w ++ f.tail) = digits * 10 ^ j ∧
    (exponent e).1.getD 0 - f.tail.length = k - j ∧ (j = 0 ∨ k - j = -1)

theorem IsDecimalOf.isDecimal {digits : Nat} {k : Int} (decimal : IsDecimalOf digits k t) :
    IsDecimal t := by
  obtain ⟨w, f, e, -, whole, fraction, exponent, some, eq, -⟩ := decimal
  exact ⟨w, f, e, whole, fraction, exponent, some, eq⟩

/-- It is read as `digits * 10 ^ k`, with as many zeros behind the digits. -/
theorem IsDecimalOf.exists_numeral {digits : Nat} {k : Int} (decimal : IsDecimalOf digits k t)
    (negative : Bool) : ∃ j : Nat, (j = 0 ∨ k - j = -1) ∧
      Numeral (signed negative ++ t) (.float (.ofDecimal negative (digits * 10 ^ j) (k - j))) := by
  obtain ⟨w, f, e, j, whole, fraction, exponent, some, rfl, value, place, few⟩ := decimal
  have not_both : ¬ (f = [] ∧ e = []) := fun none => some.elim (· none.1) (· none.2)
  have numeral := Numeral.parts negative whole fraction exponent fun no_fraction no_exponent =>
    absurd ⟨no_fraction, no_exponent⟩ not_both
  rw [numberOf, if_neg not_both, value, place] at numeral
  exact ⟨j, few, numeral⟩

theorem AllDigits.append (digits : AllDigits t) (digits' : AllDigits rest) :
    AllDigits (t ++ rest) := fun c mem =>
  (List.mem_append.1 mem).elim (digits c) (digits' c)

theorem allDigits_zeros (n : Nat) : AllDigits (List.replicate n 48) := by
  intro c mem
  rw [List.eq_of_mem_replicate mem]
  rfl

theorem isFraction_zero : IsFraction [46, 48] :=
  .some nofun (allDigits_zeros 1)

theorem allDigits_ofNat (n : Nat) : AllDigits (Text.ofNat n) :=
  fun _ => Text.isDigit_of_mem_ofNat

theorem exists_isExponent_decimal {sign : Text}
    (signs : sign = [] ∨ sign = [43] ∨ sign = [45]) (width n : Nat) :
    IsExponent (101 :: (sign ++ Text.decimal width n)) ∧
      (exponent (101 :: (sign ++ Text.decimal width n))).1.getD 0 =
        if sign = [45] then -(n : Int) else n := by
  have some_digit : Text.decimal width n ≠ [] :=
    List.append_ne_nil_of_right_ne_nil _ (Text.ofNat_ne_nil n)
  have digits : AllDigits (Text.decimal width n) := (allDigits_zeros _).append (allDigits_ofNat n)
  refine ⟨.some signs some_digit digits, ?_⟩
  have alone : exponent (101 :: (sign ++ Text.decimal width n) ++ []) = _ :=
    exponent_some signs some_digit digits nofun
  rw [List.append_nil] at alone
  rw [alone, Option.getD_some, exponentOf, Text.digitsValue_decimal]

/-- What is left of digits when zeros are dropped at the end starts as the digits do. -/
theorem exists_significant (nonzero : c ≠ 48) (ds : Text) :
    ∃ ds' z, Layout.significant (c :: ds) = c :: ds' ∧
      c :: ds = c :: ds' ++ List.replicate z 48 := by
  obtain ⟨kept, eq⟩ : ∃ kept, kept = ((c :: ds).reverse.dropWhile (· = 48)).reverse := ⟨_, rfl⟩
  obtain ⟨zeros, zeros_eq⟩ : ∃ zeros, zeros = (c :: ds).reverse.takeWhile (· = 48) := ⟨_, rfl⟩
  have parts : c :: ds = kept ++ List.replicate zeros.length 48 := by
    have all : zeros = List.replicate zeros.length 48 := List.eq_replicate_of_mem fun x mem => by
      rw [zeros_eq] at mem
      simpa using List.mem_takeWhile_imp mem
    rw [← List.reverse_replicate, ← all, eq, zeros_eq, ← List.reverse_append,
      List.takeWhile_append_dropWhile, List.reverse_reverse]
  have some_kept : kept ≠ [] := by
    intro none
    have zeros := List.dropWhile_eq_nil_iff.1 (List.reverse_eq_nil_iff.1 (eq.symm.trans none))
    exact nonzero (by simpa using zeros c (List.mem_reverse.2 List.mem_cons_self))
  obtain ⟨d, ds', rfl⟩ := List.exists_cons_of_ne_nil some_kept
  obtain ⟨rfl, -⟩ := List.cons.inj parts
  refine ⟨ds', zeros.length, ?_, parts⟩
  rw [Layout.significant, ← eq]

/-- One digit, the others behind a point, and an exponent. -/
theorem isDecimalOf_scientific (nonzero : c ≠ 48) (digits : AllDigits (c :: ds)) {sign : Text}
    {power : Int} (signs : sign = [] ∨ sign = [43] ∨ sign = [45]) (minus : sign = [45] ↔ power < 0)
    (width : Nat) : IsDecimalOf (Text.digitsValue (c :: ds)) (power - ds.length)
      (c :: ((if ds = [] then [] else 46 :: ds) ++
        101 :: (sign ++ Text.decimal width power.natAbs))) := by
  have first : AllDigits [c] := fun _ mem => by
    rw [List.mem_singleton.1 mem]
    exact digits c List.mem_cons_self
  have others : AllDigits ds := fun d mem => digits d (List.mem_cons_of_mem c mem)
  obtain ⟨exponent, written⟩ := exists_isExponent_decimal signs width power.natAbs
  have value : (if sign = [45] then -(power.natAbs : Int) else power.natAbs) = power := by
    split
    · have := minus.1 ‹_›
      omega
    · have := mt minus.2 ‹_›
      omega
  rw [value] at written
  by_cases alone : ds = []
  · rw [if_pos alone, alone]
    exact ⟨[c], [], _, 0, .digits nonzero first, .none, exponent, .inr (List.cons_ne_nil _ _), rfl,
      (Nat.mul_one _).symm, by rw [written]; simp, .inl rfl⟩
  · rw [if_neg alone]
    exact ⟨[c], 46 :: ds, _, 0, .digits nonzero first, .some alone others, exponent,
      .inr (List.cons_ne_nil _ _), rfl, (Nat.mul_one _).symm, by rw [written]; simp, .inl rfl⟩

variable {layout : Layout}

/-- The number `0.ds * 10 ^ place` is written with its digits in their place. -/
theorem isDecimalOf_write (plus : layout.plus = [101] ∨ layout.plus = [101, 43]) (nonzero : c ≠ 48)
    (digits : AllDigits (c :: ds)) (place : Int) :
    IsDecimalOf (Text.digitsValue (c :: ds)) (place - (c :: ds).length)
      (layout.write (c :: ds) place) := by
  have others : AllDigits ds := fun d mem => digits d (List.mem_cons_of_mem c mem)
  have as_they_are : ∀ {n : Nat}, n = n * 10 ^ 0 := (Nat.mul_one _).symm
  rw [Layout.write.eq_def]
  dsimp only
  split
  · -- The digits and an exponent, whose mark depends on its sign.
    obtain ⟨sign, signs, marked, minus⟩ : ∃ sign, (sign = [] ∨ sign = [43] ∨ sign = [45]) ∧
        (if place - 1 < 0 then ("e-" : Text) else layout.plus) = 101 :: sign ∧
        (sign = [45] ↔ place - 1 < 0) := by
      split
      · next negative => exact ⟨[45], .inr (.inr rfl), rfl, iff_of_true rfl negative⟩
      · next positive =>
        obtain plus | plus := plus
        · exact ⟨[], .inl rfl, plus, iff_of_false nofun positive⟩
        · exact ⟨[43], .inr (.inl rfl), plus, iff_of_false (by decide) positive⟩
    have decimal := isDecimalOf_scientific nonzero digits signs minus layout.exponentWidth
    have same : place - 1 - (ds.length : Int) = place - (c :: ds).length := by
      rw [List.length_cons]
      omega
    rw [same] at decimal
    rw [marked]
    cases ds with
    | nil => exact decimal
    | cons d ds => simpa using decimal
  split
  · -- All digits behind the point, and zeros before them.
    refine ⟨[48], 46 :: (List.replicate (-place).toNat 48 ++ (c :: ds)), [], 0, .zero,
      .some (by simp) ((allDigits_zeros _).append digits), .none, .inl nofun, ?_, ?_, ?_, .inl rfl⟩
    · rw [List.append_nil, List.append_assoc]
      rfl
    · rw [List.tail_cons, ← List.append_assoc, ← List.replicate_one,
        List.replicate_append_replicate, Text.digitsValue_zeros_append]
      exact as_they_are
    · simp only [List.tail_cons, List.length_append, List.length_replicate, List.length_cons,
        Json.exponent, Option.getD_none]
      omega
  split
  · -- All digits in front of the point, and zeros behind them.
    next positive all =>
    refine ⟨c :: (ds ++ List.replicate (place.toNat - (c :: ds).length) 48), [46, 48], [],
      place.toNat - (c :: ds).length + 1, .digits nonzero
      (List.cons_append ▸ digits.append (allDigits_zeros _)), isFraction_zero, .none, .inl nofun,
      ?_, ?_, ?_, ?_⟩
    · rw [List.append_nil]
      rfl
    · rw [List.tail_cons, ← List.cons_append, List.append_assoc, ← List.replicate_one,
        List.replicate_append_replicate, Text.digitsValue_append_zeros]
    · simp only [List.tail_cons, List.length_cons, List.length_nil, Json.exponent, Option.getD_none]
      simp only [List.length_cons] at all
      omega
    · simp only [List.length_cons] at all ⊢
      omega
  · -- The point is among the digits.
    next inside within =>
    obtain ⟨place, rfl⟩ : ∃ n : Nat, place = (n + 1 : Nat) := ⟨place.toNat - 1, by omega⟩
    have fewer : place < ds.length := by simpa using within
    refine ⟨c :: ds.take place, 46 :: ds.drop place, [], 0, .digits nonzero ?_, .some ?_ ?_, .none,
      .inl nofun, ?_, ?_, ?_, .inl rfl⟩
    · exact fun x mem => digits x (List.mem_of_mem_take (i := place + 1) mem)
    · simpa using fewer
    · exact fun x mem => others x (List.mem_of_mem_drop mem)
    · simp
    · rw [List.tail_cons, List.cons_append, List.take_append_drop]
      exact as_they_are
    · simp only [List.tail_cons, List.length_drop, List.length_cons, Json.exponent,
        Option.getD_none]
      omega

/-- The digits of a number that is not zero are not those of zero. -/
theorem shortest_ne_zero {mantissa : Nat} (nonzero : mantissa ≠ 0) (exponent : Int) :
    (Double.shortest mantissa exponent).1 ≠ 0 := by
  have zero : ∀ e : Int, Double.ofDecimal false 0 e ≠ .finite false mantissa exponent := by
    intro e same
    rw [Double.ofDecimal, if_pos rfl] at same
    exact nonzero (Double.finite.inj same).2.1.symm
  have search : ∀ place num den fuel,
      (Double.shortestFrom mantissa exponent place num den fuel).1 ≠ 0 := by
    intro place num den fuel
    induction fuel with
    | zero => exact nonzero
    | succ fuel ih =>
      rw [Double.shortestFrom]
      split
      · next digits found =>
        rintro rfl
        exact zero _ (by simpa using List.find?_some found)
      · exact ih
  exact search _ _ _ _

/-- Zero is written with a point. -/
theorem isDecimalOf_zero (exponent : Int) :
    IsDecimalOf 0 (-1) (Double.magnitude layout 0 exponent) :=
  ⟨[48], [46, 48], [], 0, .zero, isFraction_zero, .none, .inl nofun, rfl, rfl, rfl, .inl rfl⟩

/-- Any other number is written with the digits of its shortest decimal, without the zeros behind
    them. -/
theorem exists_isDecimalOf_shortest (plus : layout.plus = [101] ∨ layout.plus = [101, 43])
    {mantissa : Nat} (nonzero : mantissa ≠ 0) (exponent : Int) :
    ∃ digits z : Nat, (Double.shortest mantissa exponent).1 = digits * 10 ^ z ∧
      IsDecimalOf digits ((Double.shortest mantissa exponent).2 + z)
        (Double.magnitude layout mantissa exponent) := by
  rw [Double.magnitude, if_neg nonzero]
  obtain ⟨c, ds, written, first⟩ := Text.exists_ofNat_eq_cons
    (Nat.pos_of_ne_zero (shortest_ne_zero nonzero exponent))
  have value := Text.digitsValue_ofNat (Double.shortest mantissa exponent).1
  have digits := allDigits_ofNat (Double.shortest mantissa exponent).1
  rw [written] at value digits
  obtain ⟨ds', z, significant, parts⟩ := exists_significant first ds
  rw [parts] at value digits
  rw [Text.digitsValue_append_zeros] at value
  refine ⟨Text.digitsValue (c :: ds'), z, value.symm, ?_⟩
  dsimp only
  rw [written, significant, parts]
  have decimal := isDecimalOf_write plus first (fun x mem => digits x (List.mem_append_left _ mem))
    ((Double.shortest mantissa exponent).2 + (c :: ds' ++ List.replicate z 48 : Text).length)
  have place : (Double.shortest mantissa exponent).2 +
      ((c :: ds' ++ List.replicate z 48 : Text).length : Int) - (c :: ds').length =
      (Double.shortest mantissa exponent).2 + z := by
    rw [List.length_append, List.length_replicate]
    push_cast
    omega
  rwa [place] at decimal

theorem exists_isDecimalOf_magnitude (plus : layout.plus = [101] ∨ layout.plus = [101, 43])
    (mantissa : Nat) (exponent : Int) :
    ∃ digits k, IsDecimalOf digits k (Double.magnitude layout mantissa exponent) := by
  rcases Nat.eq_zero_or_pos mantissa with rfl | positive
  · exact ⟨_, _, isDecimalOf_zero exponent⟩
  · obtain ⟨digits, z, -, decimal⟩ := exists_isDecimalOf_shortest plus positive.ne' exponent
    exact ⟨_, _, decimal⟩

theorem isDecimal_magnitude (plus : layout.plus = [101] ∨ layout.plus = [101, 43]) (mantissa : Nat)
    (exponent : Int) : IsDecimal (Double.magnitude layout mantissa exponent) := by
  obtain ⟨digits, k, decimal⟩ := exists_isDecimalOf_magnitude plus mantissa exponent
  exact decimal.isDecimal

theorem exists_numeral_magnitude (plus : layout.plus = [101] ∨ layout.plus = [101, 43])
    (negative : Bool) (mantissa : Nat) (exponent : Int) :
    ∃ d, Numeral (signed negative ++ Double.magnitude layout mantissa exponent) (.float d) := by
  obtain ⟨digits, k, decimal⟩ := exists_isDecimalOf_magnitude plus mantissa exponent
  obtain ⟨j, -, numeral⟩ := decimal.exists_numeral negative
  exact ⟨_, numeral⟩

/-! ## Values -/

/-- A text is read as this value, wherever it stands. -/
def Reads (rules : JsonRules) (t : Text) (d : Document) : Prop :=
  ∀ fuel depth rest, t.length < fuel → Delimited rest →
    readValue rules fuel depth (t ++ rest) = .ok (d, rest)

variable (rules : JsonRules)

theorem reads_constant {name : Text} {d : Document} (constant : (name, d) ∈ constants) :
    Reads rules name d := by
  intro fuel depth rest enough delimited
  obtain ⟨fuel, rfl⟩ := Nat.exists_eq_add_of_lt enough
  simp only [constants, List.mem_cons, Prod.mk.injEq, List.not_mem_nil, or_false] at constant
  obtain ⟨rfl, rfl⟩ | ⟨rfl, rfl⟩ | ⟨rfl, rfl⟩ | ⟨rfl, rfl⟩ | ⟨rfl, rfl⟩ | ⟨rfl, rfl⟩ :=
    constant <;> rfl

/-- No constant starts as a number does. -/
theorem readConstant?_of_digit (digit : c.isDigit = true) (negative : Bool) (t : Text) :
    readConstant? (signed negative ++ c :: t) = none := by
  have other : ∀ d : CodePoint, d.isDigit = false → d ≠ c := by
    rintro d no_digit rfl
    cases no_digit.symm.trans digit
  have apart : ∀ {d : CodePoint} (start : Text), d.isDigit = false →
      Text.after? (d :: start) (c :: t) = none := fun start no_digit => by
    rw [Text.after?, if_neg (other _ no_digit)]
  refine List.findSome?_eq_none_iff.2 fun ⟨name, d⟩ mem => ?_
  simp only [constants, List.mem_cons, Prod.mk.injEq, List.not_mem_nil, or_false] at mem
  rw [Option.map_eq_none_iff]
  -- Only one name starts with the sign, and that has no digit behind it.
  cases negative with
  | false =>
    obtain ⟨rfl, -⟩ | ⟨rfl, -⟩ | ⟨rfl, -⟩ | ⟨rfl, -⟩ | ⟨rfl, -⟩ | ⟨rfl, -⟩ := mem <;>
    exact apart _ rfl
  | true =>
    obtain ⟨rfl, -⟩ | ⟨rfl, -⟩ | ⟨rfl, -⟩ | ⟨rfl, -⟩ | ⟨rfl, -⟩ | ⟨rfl, -⟩ := mem
    iterate 5 rfl
    exact apart ("nfinity" : Text) (d := 73) rfl

theorem Numeral.exists_digit {d : Document} (numeral : Numeral t d) :
    ∃ negative c t', c.isDigit = true ∧ t = signed negative ++ c :: t' := by
  obtain ⟨negative, whole, -⟩ := numeral
  obtain ⟨c, ds, rfl, digit⟩ := whole.exists_cons
  exact ⟨negative, c, _, digit, rfl⟩

theorem readValue_eq_readNumber {x : CodePoint} (other : x ≠ 34 ∧ x ≠ 123 ∧ x ≠ 91)
    (no_constant : readConstant? (x :: t) = none) (fuel depth : Nat) :
    readValue rules (fuel + 1) depth (x :: t) = readNumber (x :: t) := by
  rw [readValue.eq_def]
  dsimp only
  rw [if_neg other.1, if_neg other.2.1, if_neg other.2.2, no_constant]

theorem reads_numeral {d : Document} (numeral : Numeral t d) : Reads rules t d := by
  intro fuel depth rest enough delimited
  obtain ⟨fuel, rfl⟩ := Nat.exists_eq_add_of_lt enough
  have read := readNumber_of_numeral numeral delimited
  obtain ⟨negative, c, t, digit, rfl⟩ := numeral.exists_digit
  have no_constant := readConstant?_of_digit digit negative (t ++ rest)
  rw [List.append_assoc, List.cons_append] at read ⊢
  cases negative with
  | false =>
    have other : c ≠ 34 ∧ c ≠ 123 ∧ c ≠ 91 := by
      refine ⟨?_, ?_, ?_⟩ <;>
      · rintro rfl
        cases digit
    exact (readValue_eq_readNumber rules other no_constant _ depth).trans read
  | true => exact (readValue_eq_readNumber rules (by decide) no_constant _ depth).trans read

/-! ## What is written -/

/-- What is read of a double as reports are written. -/
theorem exists_reads_finiteOrNull (d : Double) :
    ∃ read, Reads rules (JsonStyle.finiteOrNull d) read := by
  cases d with
  | finite negative m e =>
    obtain ⟨d, numeral⟩ := exists_numeral_magnitude
      (show Layout.plainExponent.plus = [101] ∨ _ from .inl rfl) negative m e
    exact ⟨_, reads_numeral rules numeral⟩
  | _ =>
    have null : (("null" : Text), Document.null) ∈ constants := by simp [constants]
    exact ⟨_, reads_constant rules null⟩

/-- What is read of a double as everything else is written. -/
theorem exists_reads_named (d : Double) : ∃ read, Reads rules (JsonStyle.named d) read := by
  cases d with
  | nan =>
    have nan : (("NaN" : Text), Document.float .nan) ∈ constants := by simp [constants]
    exact ⟨_, reads_constant rules nan⟩
  | infinity negative =>
    cases negative with
    | false =>
      have infinity : (("Infinity" : Text), Document.float (.infinity false)) ∈ constants := by
        simp [constants]
      exact ⟨_, reads_constant rules infinity⟩
    | true =>
      have infinity : (("-Infinity" : Text), Document.float (.infinity true)) ∈ constants := by
        simp [constants]
      exact ⟨_, reads_constant rules infinity⟩
  | finite negative m e =>
    obtain ⟨d, numeral⟩ := exists_numeral_magnitude
      (show Layout.signedExponent.plus = [101] ∨ Layout.signedExponent.plus = [101, 43] from
        .inr rfl) negative m e
    exact ⟨_, reads_numeral rules numeral⟩

end InvokeWorker.Json
