import InvokeWorker.Invoke.Deadline
import InvokeWorker.Proofs.Calendar
import InvokeWorker.Proofs.Numerals

/-!
# The deadlines that headers state

A deadline is a numeral (`Deadline.Numeral`): a sign, if any, and digits, which state a number of
milliseconds. What it comes to is one of four things (`Deadline.Outcome`).

* `Deadline.parse_exact`: a numeral within the years 1 to 9999 is the instant that many
  milliseconds after the start of 1970, to the millisecond, and later instants have greater
  numerals. Every other text makes the invoke malformed, except that a numeral of too many digits
  is an error of the conversion of numbers.
* `Deadline.not_forall_parse`: there are such numerals, even of numbers in range; leading zeros will
  do.
-/

namespace InvokeWorker.Deadline

/-- The number that decimal digits state, the most significant one first. -/
def stated (digits : Text) : Nat :=
  Nat.ofDigits 10 (digits.reverse.map fun c => c.val - 48)

/-- A text is a numeral of so many digits, and states an integer. -/
inductive Numeral : Text → Nat → Int → Prop
  /-- At least one decimal digit. -/
  | unsigned {digits : Text} : digits ≠ [] → (∀ c ∈ digits, c.isDigit = true) →
    Numeral digits digits.length (stated digits)
  /-- A plus sign and at least one decimal digit. -/
  | plus {digits : Text} : digits ≠ [] → (∀ c ∈ digits, c.isDigit = true) →
    Numeral (43 :: digits) digits.length (stated digits)
  /-- A minus sign and at least one decimal digit. -/
  | minus {digits : Text} : digits ≠ [] → (∀ c ∈ digits, c.isDigit = true) →
    Numeral (45 :: digits) digits.length (-stated digits)

/-- The error of a number that has too many digits to be converted. -/
def tooLong (count : Nat) : Thrown :=
  .valueError ("Exceeds the limit (4300 digits) for integer string conversion: value has "
    ++ Text.ofNat count ++ " digits; use sys.set_int_max_str_digits() to increase the limit")

/-- What a text comes to as a deadline. -/
inductive Outcome (t : Text) : Except Thrown Instant → Prop
  /-- An instant. -/
  | instant {count : Nat} {n : Int} : Numeral t count n → count ≤ Text.maxDigits →
    Instant.firstMillis ≤ n → n ≤ Instant.lastMillis → Outcome t (.ok ⟨n⟩)
  /-- No numeral. -/
  | malformed : (∀ count n, ¬ Numeral t count n) → Outcome t (.error
    (.malformedInvoke ("failed to parse deadline: invalid syntax: " ++ t.quoted)))
  /-- A numeral of too many digits. -/
  | tooLong {count : Nat} {n : Int} : Numeral t count n → Text.maxDigits < count →
    Outcome t (.error (tooLong count))
  /-- A number of more than 64 bits. -/
  | word {count : Nat} {n : Int} : Numeral t count n → count ≤ Text.maxDigits →
    n < minMillis ∨ maxMillis < n → Outcome t (.error
      (.malformedInvoke ("failed to parse deadline: value out of range: " ++ t.quoted)))
  /-- A number that is no instant. -/
  | range {count : Nat} {n : Int} {e : Instant.RangeError} : Numeral t count n →
    count ≤ Text.maxDigits → n < Instant.firstMillis ∨ Instant.lastMillis < n →
    Outcome t (.error (.malformedInvoke ("failed to parse deadline: " ++ e.message)))

variable {t t' digits : Text} {negative : Bool} {count count' : Nat} {n n' : Int}

/-- The sign and the digits of a text are those of a numeral. -/
theorem numeral_of_signed? (signed : signed? t = some (negative, digits)) :
    Numeral t digits.length (if negative then -(stated digits : Int) else stated digits) := by
  have well : ∀ {sign : Bool} {ds : Text},
      (if ds.isEmpty || !ds.all CodePoint.isDigit then none else some (sign, ds)) =
        some (negative, digits) →
      sign = negative ∧ ds = digits ∧ ds ≠ [] ∧ ∀ c ∈ ds, c.isDigit = true := by
    intro sign ds eq
    split at eq
    · cases eq
    · next digits =>
      cases eq
      exact ⟨rfl, rfl, by simpa using digits⟩
  rw [signed?.eq_def] at signed
  split at signed
  next sign ds cut =>
  obtain ⟨rfl, rfl, some_digit, all⟩ := well signed
  split at cut
  · cases cut
    exact .minus some_digit all
  · cases cut
    exact .plus some_digit all
  · cases cut
    exact .unsigned some_digit all

/-- A numeral is cut into a sign and digits. -/
theorem exists_signed? (numeral : Numeral t count n) : ∃ negative digits,
    signed? t = some (negative, digits) ∧ digits.length = count ∧
      n = if negative then -(stated digits : Int) else stated digits := by
  have well : ∀ {ds : Text}, ds ≠ [] → (∀ c ∈ ds, c.isDigit = true) →
      ¬ (ds.isEmpty || !ds.all CodePoint.isDigit) = true := by
    intro ds some_digit digits
    simpa using ⟨some_digit, digits⟩
  cases numeral with
  | unsigned some_digit all =>
    refine ⟨false, t, ?_, rfl, rfl⟩
    have no_sign : ∀ rest, t ≠ 45 :: rest ∧ t ≠ 43 :: rest := by
      refine fun rest => ⟨?_, ?_⟩ <;>
      · rintro rfl
        exact absurd (all _ List.mem_cons_self) (by decide)
    rw [signed?.eq_def]
    split
    next sign ds cut =>
    split at cut
    · exact absurd rfl (no_sign _).1
    · exact absurd rfl (no_sign _).2
    · cases cut
      exact if_neg (well some_digit all)
  | @plus digits some_digit all => exact ⟨false, digits, if_neg (well some_digit all), rfl, rfl⟩
  | @minus digits some_digit all => exact ⟨true, digits, if_neg (well some_digit all), rfl, rfl⟩

/-- A text is a numeral in one way only. -/
theorem Numeral.unique (numeral : Numeral t count n) (numeral' : Numeral t count' n') :
    count = count' ∧ n = n' := by
  obtain ⟨negative, digits, signed, rfl, rfl⟩ := exists_signed? numeral
  obtain ⟨negative', digits', signed', rfl, rfl⟩ := exists_signed? numeral'
  cases signed.symm.trans signed'
  exact ⟨rfl, rfl⟩

/-- A number is an instant unless it is out of range. -/
theorem ofMillis?_cases (n : Int) :
    Instant.ofMillis? n = .ok ⟨n⟩ ∧ Instant.firstMillis ≤ n ∧ n ≤ Instant.lastMillis ∨
    ∃ e, Instant.ofMillis? n = .error e ∧ (n < Instant.firstMillis ∨ Instant.lastMillis < n) := by
  have floor : n.fdiv Instant.millisPerDay = n / 86400000 :=
    Int.fdiv_eq_ediv_of_nonneg _ (by decide)
  by_cases outside : n < Instant.firstMillis ∨ Instant.lastMillis < n
  · refine .inr ?_
    rw [Instant.ofMillis?]
    split
    · exact ⟨_, rfl, outside⟩
    split
    · exact ⟨_, rfl, outside⟩
    · exact ⟨_, rfl, outside⟩
  · have within : Instant.firstMillis ≤ n ∧ n ≤ Instant.lastMillis := by omega
    have few : ¬ (n / 86400000 < -2147483648 ∨ 2147483647 < n / 86400000) ∧
        ¬ (n / 86400000 < -999999999 ∨ 999999999 < n / 86400000) := by
      simp only [Instant.firstMillis, Instant.lastMillis] at within
      omega
    refine .inl ⟨?_, within⟩
    rw [Instant.ofMillis?, floor, if_neg few.1, if_neg few.2, if_neg outside]

theorem outcome_parse (t : Text) : Outcome t (parse t) := by
  rw [parse, read]
  cases signed : signed? t with
  | none =>
    refine .malformed fun count n numeral => ?_
    obtain ⟨negative, digits, signed', -⟩ := exists_signed? numeral
    cases signed.symm.trans signed'
  | some cut =>
    obtain ⟨negative, digits⟩ := cut
    have numeral := numeral_of_signed? signed
    dsimp only
    by_cases long : Text.maxDigits < digits.length
    · rw [if_pos long]
      exact .tooLong numeral long
    · have short : digits.length ≤ Text.maxDigits := Nat.not_lt.1 long
      rw [if_neg long, Text.digitsValue_eq, ← stated]
      generalize (if negative then -(stated digits : Int) else stated digits) = n at numeral ⊢
      by_cases word : n < minMillis ∨ maxMillis < n
      · rw [if_pos word]
        exact .word numeral short word
      · rw [if_neg word]
        obtain ⟨instant, first, last⟩ | ⟨e, failed, outside⟩ := ofMillis?_cases n
        · rw [instant]
          exact .instant numeral short first last
        · rw [failed]
          exact .range numeral short outside

theorem parse_eq_ok_iff {i : Instant} : parse t = .ok i ↔ ∃ count n, Numeral t count n ∧
    count ≤ Text.maxDigits ∧ Instant.firstMillis ≤ n ∧ n ≤ Instant.lastMillis ∧ i.millis = n := by
  have outcome := outcome_parse t
  constructor
  · intro parsed
    rw [parsed] at outcome
    cases outcome with
    | instant numeral short first last => exact ⟨_, _, numeral, short, first, last, rfl⟩
  · rintro ⟨count, n, numeral, short, first, last, rfl⟩
    -- Each of the other outcomes is at odds with what the numeral states.
    generalize parse t = r at outcome
    cases outcome with
    | instant numeral' =>
      obtain ⟨-, rfl⟩ := numeral.unique numeral'
      rfl
    | malformed none => exact absurd numeral (none _ _)
    | tooLong numeral' long =>
      obtain ⟨rfl, -⟩ := numeral.unique numeral'
      exact absurd short (Nat.not_le.2 long)
    | word numeral' short' word =>
      obtain ⟨-, rfl⟩ := numeral.unique numeral'
      simp only [minMillis, maxMillis] at word
      simp only [Instant.firstMillis, Instant.lastMillis] at first last
      omega
    | range numeral' short' outside =>
      obtain ⟨-, rfl⟩ := numeral.unique numeral'
      omega

/-- A text is a deadline exactly if it is a numeral, of at most so many digits, whose number is one
    of the milliseconds of the years 1 to 9999. Then the deadline is the time of day on a date of
    the calendar that is just so many milliseconds after the start of 1970; and of two deadlines the
    one with the smaller number is the earlier one. Every other text makes the invoke malformed,
    unless it is a numeral of more digits: then the conversion of the number fails. -/
theorem parse_exact (t : Text) :
    (∀ i, parse t = .ok i ↔ ∃ count n, Numeral t count n ∧ count ≤ Text.maxDigits ∧
      Instant.firstMillis ≤ n ∧ n ≤ Instant.lastMillis ∧ i.millis = n) ∧
    (∀ i, parse t = .ok i → i.date.IsValid ∧ 1 ≤ i.date.year ∧ i.date.year ≤ 9999 ∧
      Instant.IsClock i.clock ∧ Instant.millisOf i.date i.clock = i.millis) ∧
    (∀ t' i i' count n count' n', parse t = .ok i → parse t' = .ok i' → Numeral t count n →
      Numeral t' count' n' → (n < n' ↔ i < i') ∧ (n = n' ↔ i = i') ∧
      (i < i' ↔ i.date.Before i'.date ∨ i.date = i'.date ∧ i.ofDay < i'.ofDay)) ∧
    ∀ e, parse t = .error e → (∃ message, e = .malformedInvoke message) ∨
      ∃ count n, Numeral t count n ∧ Text.maxDigits < count ∧ e = tooLong count := by
  refine ⟨fun i => parse_eq_ok_iff, fun i parsed => ?_, ?_, fun e failed => ?_⟩
  · obtain ⟨count, n, -, -, first, last, rfl⟩ := parse_eq_ok_iff.1 parsed
    obtain ⟨from_first, to_last⟩ := i.year_iff.2 ⟨first, last⟩
    exact ⟨i.isValid_date, from_first, to_last, i.isClock_clock, i.millisOf_date_clock⟩
  · intro t' i i' count n count' n' parsed parsed' numeral numeral'
    obtain ⟨_, _, numeral₁, -, -, -, millis⟩ := parse_eq_ok_iff.1 parsed
    obtain ⟨_, _, numeral₂, -, -, -, millis'⟩ := parse_eq_ok_iff.1 parsed'
    obtain ⟨-, rfl⟩ := numeral.unique numeral₁
    obtain ⟨-, rfl⟩ := numeral'.unique numeral₂
    rw [← millis, ← millis']
    exact ⟨Iff.rfl, ⟨congrArg Instant.mk, congrArg _⟩, Instant.lt_iff⟩
  · have outcome := outcome_parse t
    rw [failed] at outcome
    cases outcome with
    | tooLong numeral long => exact .inr ⟨_, _, numeral, long, rfl⟩
    | malformed | word | range => exact .inl ⟨_, rfl⟩

/-! ## Numerals of too many digits -/

theorem stated_zeros (count : Nat) : stated (List.replicate count 48) = 0 := by
  rw [stated, List.reverse_replicate, List.map_replicate]
  induction count with
  | zero => rfl
  | succ count ih =>
    rw [List.replicate_succ, Nat.ofDigits_cons, ih]
    rfl

theorem numeral_of_zeros {count : Nat} (pos : 0 < count) :
    Numeral (List.replicate count 48) count 0 := by
  have digits : ∀ c ∈ List.replicate count (48 : CodePoint), c.isDigit = true := by
    intro c mem
    rw [List.eq_of_mem_replicate mem]
    rfl
  have numeral := Numeral.unsigned (by simpa using pos.ne') digits
  rwa [stated_zeros, List.length_replicate] at numeral

/-- Not every numeral of a number in range is a deadline: of 4301 zeros the conversion fails. -/
theorem not_forall_parse : ¬ ∀ t,
    (∀ i, parse t = .ok i ↔ ∃ count n, Numeral t count n ∧
      Instant.firstMillis ≤ n ∧ n ≤ Instant.lastMillis ∧ i.millis = n) ∧
    ∀ e, parse t = .error e → ∃ message, e = .malformedInvoke message := by
  intro all
  obtain ⟨parsed, -⟩ := all (List.replicate 4301 48)
  have numeral := numeral_of_zeros (show 0 < 4301 by decide)
  have ok := (parsed ⟨0⟩).2 ⟨_, _, numeral, by decide, by decide, rfl⟩
  obtain ⟨count, n, numeral', short, -⟩ := parse_eq_ok_iff.1 ok
  obtain ⟨rfl, -⟩ := numeral.unique numeral'
  exact absurd short (by decide)

end InvokeWorker.Deadline
