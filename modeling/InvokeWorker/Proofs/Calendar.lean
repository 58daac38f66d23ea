import InvokeWorker.Time.Instant
import Mathlib.Order.Monotone.Basic
import Mathlib.Data.Int.Init

/-!
# Days and dates

The date of a number of days is found by arithmetic on eras of four centuries. Here it is held to
the calendar: a year has 365 days, or 366 if it is a leap year, and the months have their lengths
(`Date.IsValid`), so each date is a number of days after the start of 1970 (`Date.toDays`). The
date of a number of days is a valid one and is that many days after the start of 1970
(`Date.isValid_and_toDays_ofDays`), and no other one is (`Date.toDays_inj`).

So an instant is what its date and its time of day say (`Instant.millisOf_date_clock`), and the
order of instants is that of dates and times (`Instant.lt_iff`).
-/

namespace InvokeWorker.Instant

namespace Date

/-! ## The calendar -/

/-- Every fourth year is a leap year; of the full centuries only every fourth. -/
def IsLeap (year : Int) : Prop :=
  year % 4 = 0 ∧ (year % 100 ≠ 0 ∨ year % 400 = 0)

instance (year : Int) : Decidable (IsLeap year) := inferInstanceAs (Decidable (_ ∧ _))

/-- The length of a month. -/
def monthLength (year : Int) (month : Nat) : Nat :=
  if month = 2 then if IsLeap year then 29 else 28
  else if month = 4 ∨ month = 6 ∨ month = 9 ∨ month = 11 then 30
  else 31

/-- A day that is there in a month that is there. -/
structure IsValid (date : Date) : Prop where
  month_pos : 1 ≤ date.month
  month_le : date.month ≤ 12
  day_pos : 1 ≤ date.day
  day_le : date.day ≤ monthLength date.year date.month

/-- The days before a year, from the start of year 1: leap days are added to the others. -/
def daysBeforeYear (year : Int) : Int :=
  365 * (year - 1) + (year - 1) / 4 - (year - 1) / 100 + (year - 1) / 400

/-- The days of a year before a month. -/
def daysBeforeMonth (year : Int) : Nat → Nat
  | 0 => 0
  | 1 => 0
  | month + 2 => daysBeforeMonth year (month + 1) + monthLength year (month + 1)

/-- The days from the start of 1970 to a date. -/
def toDays (date : Date) : Int :=
  daysBeforeYear date.year - daysBeforeYear 1970 + daysBeforeMonth date.year date.month
    + (date.day - 1)

theorem daysBeforeYear_succ (year : Int) :
    daysBeforeYear (year + 1) = daysBeforeYear year + if IsLeap year then 366 else 365 := by
  simp only [daysBeforeYear]
  split
  all_goals
    next leap =>
      simp only [IsLeap] at leap
      omega

/-! ## Years of an era -/

/-- The days of an era before a year of it. Here years start in March, so that a year has the leap
    day of the following calendar year. -/
def eraDays (year : Nat) : Nat :=
  365 * year + year / 4 - year / 100 + year / 400

/-- A day of an era in 365ths of a year, once the leap days are taken out. -/
def leapless (day : Nat) : Nat :=
  day - day / 1460 + day / 36524 - day / 146096

theorem leapless_mono : Monotone leapless := by
  refine monotone_nat_of_le_succ fun day => ?_
  have eras : ∀ day, day / 36524 / 4 = day / 146096 := fun day => Nat.div_div_eq_div_mul day _ _
  have fewer : day / 1460 ≤ day := Nat.div_le_self _ _
  have quads : (day + 1) / 1460 ≤ day / 1460 + 1 := by omega
  have centuries : day / 36524 ≤ (day + 1) / 36524 := by omega
  have centuries' : (day + 1) / 36524 ≤ day / 36524 + 1 := by omega
  simp only [leapless, ← eras]
  generalize day / 36524 = c at *
  generalize (day + 1) / 36524 = c' at *
  generalize day / 1460 = q at *
  generalize (day + 1) / 1460 = q' at *
  omega

/-- At its two ends a year of an era is the one it is found to be. -/
theorem leapless_ends : ∀ year < 400,
    365 * year ≤ leapless (eraDays year) ∧
      leapless (eraDays (year + 1) - 1) < 365 * (year + 1) := by
  decide +kernel

/-- The year of an era in which a day of it is. -/
theorem eraDays_le_and_lt {day year : Nat} (bound : day < 146097)
    (found : leapless day / 365 = year) :
    year < 400 ∧ eraDays year ≤ day ∧ day < eraDays (year + 1) := by
  -- The ends of the 400 years were checked, and between them `leapless` does not decrease.
  have lower : 365 * year ≤ leapless day := by omega
  have upper : leapless day < 365 * (year + 1) := by omega
  have known : year < 400 := by
    have le : leapless day ≤ leapless (eraDays (399 + 1) - 1) :=
      leapless_mono (Nat.le_pred_of_lt bound)
    have lt := (leapless_ends 399 (by decide)).2
    omega
  refine ⟨known, Nat.not_lt.1 fun before => ?_, Nat.not_le.1 fun after => ?_⟩
  · cases year with
    | zero => exact absurd before (Nat.not_lt_zero day)
    | succ year =>
      have le : leapless day ≤ leapless (eraDays (year + 1) - 1) :=
        leapless_mono (Nat.le_pred_of_lt before)
      have lt := (leapless_ends year (by omega)).2
      omega
  · rcases Nat.lt_or_ge (year + 1) 400 with more | all
    · have le := leapless_mono after
      have le' := (leapless_ends (year + 1) more).1
      omega
    · obtain rfl : year = 399 := by omega
      exact absurd after (Nat.not_le.2 bound)

/-! ## The date of a number of days -/

/-- The days before a calendar year that starts in a year of an era. -/
theorem daysBeforeYear_of_era {year : Nat} (bound : year < 400) (era : Int) :
    daysBeforeYear (year + era * 400 + 1) = eraDays year + era * 146097 := by
  simp only [daysBeforeYear, eraDays]
  omega

/-- The leap day of a year of an era is that of the calendar year that starts in it. -/
theorem eraDays_succ {year : Nat} (bound : year < 400) (era : Int) :
    eraDays (year + 1) = eraDays year + if IsLeap (year + era * 400 + 1) then 366 else 365 := by
  simp only [eraDays]
  split
  all_goals
    next leap =>
      simp only [IsLeap] at leap
      omega

/-- The date of a day of a year that starts in March. -/
def ofMarch (year : Int) (day : Nat) : Date :=
  let marchMonth := (5 * day + 2) / 153
  let month := if marchMonth < 10 then marchMonth + 3 else marchMonth - 9
  ⟨year + (if month ≤ 2 then 1 else 0), month, day - (153 * marchMonth + 2) / 5 + 1⟩

/-- A number of days is found in an era, in a year of it and in this year. -/
theorem exists_ofMarch (days : Int) : ∃ (era : Int) (year day : Nat), year < 400 ∧
    eraDays year + day < eraDays (year + 1) ∧
    days + 719468 = era * 146097 + eraDays year + day ∧
    ofDays days = ofMarch (year + era * 400) day := by
  obtain ⟨era, eq⟩ : ∃ era, era = (days + 719468).fdiv 146097 := ⟨_, rfl⟩
  obtain ⟨ofEra, eq'⟩ : ∃ ofEra, ofEra = (days + 719468 - era * 146097).toNat := ⟨_, rfl⟩
  have floor : (days + 719468).fdiv 146097 = (days + 719468) / 146097 :=
    Int.fdiv_eq_ediv_of_nonneg _ (by decide)
  obtain ⟨known, before, after⟩ := eraDays_le_and_lt (show ofEra < 146097 by omega) rfl
  have days_of_year : 365 * (leapless ofEra / 365) + leapless ofEra / 365 / 4
      - leapless ofEra / 365 / 100 = eraDays (leapless ofEra / 365) := by
    rw [eraDays, Nat.div_eq_of_lt known, Nat.add_zero]
  refine ⟨era, leapless ofEra / 365, ofEra - eraDays (leapless ofEra / 365), known, by omega,
    by omega, ?_⟩
  rw [← days_of_year, eq', eq]
  rfl

/-- The ends of the months from March on lie close to a straight line. -/
theorem march_months (year : Int) : ∀ march < 10,
    daysBeforeMonth year (march + 3) =
        (153 * march + 2) / 5 + (if IsLeap year then 60 else 59) ∧
      (153 * march + 2) / 5 + monthLength year (march + 3) = (153 * (march + 1) + 2) / 5 := by
  have ends : ∀ march < 10, (153 * march + 2) / 5 +
      (if march = 1 ∨ march = 3 ∨ march = 6 ∨ march = 8 then 30 else 31) =
        (153 * (march + 1) + 2) / 5 := by decide
  have length : ∀ march, monthLength year (march + 3) =
      if march = 1 ∨ march = 3 ∨ march = 6 ∨ march = 8 then 30 else 31 := fun march => by
    simp only [monthLength, if_neg (show march + 3 ≠ 2 by omega)]
    congr 1
    simp only [eq_iff_iff]
    omega
  intro march bound
  rw [length]
  refine ⟨?_, ends march bound⟩
  induction march with
  | zero =>
    have winter : daysBeforeMonth year 3 = 0 + 31 + if IsLeap year then 29 else 28 := rfl
    rw [winter]
    split <;> rfl
  | succ march ih =>
    have before : daysBeforeMonth year (march + 1 + 3) =
        daysBeforeMonth year (march + 3) + monthLength year (march + 3) := rfl
    have month_end := ends march (by omega)
    rw [before, ih (by omega), length]
    omega

section March

variable {year : Int} {day : Nat} (bound : day < if IsLeap (year + 1) then 366 else 365)

include bound

/-- A day of a year that starts in March is one from March on, in January or in February. -/
theorem march_cases : ∃ march, (5 * day + 2) / 153 = march ∧ (153 * march + 2) / 5 ≤ day ∧
    day < (153 * (march + 1) + 2) / 5 ∧ (march < 10 ∨ march = 10 ∨ march = 11) := by
  have days : day < 366 := by
    split at bound <;> omega
  exact ⟨_, rfl, by omega, by omega, by omega⟩

/-- The date is one of the calendar, and as many days after the start of 1970 as it should be. -/
theorem isValid_and_toDays_ofMarch : (ofMarch year day).IsValid ∧
    (ofMarch year day).toDays = daysBeforeYear (year + 1) + day - 719468 := by
  obtain ⟨march, eq, start, finish, from_march | rfl | rfl⟩ := march_cases bound
  · obtain ⟨before, month_end⟩ := march_months year march from_march
    have year_end := daysBeforeYear_succ year
    have date : ofMarch year day = ⟨year, march + 3, day - (153 * march + 2) / 5 + 1⟩ := by
      simp only [ofMarch, eq, if_pos from_march, if_neg (show ¬ march + 3 ≤ 2 by omega),
        Int.add_zero]
    rw [date]
    refine ⟨⟨by dsimp only; omega, by dsimp only; omega, by dsimp only; omega, ?_⟩, ?_⟩
    · dsimp only
      omega
    · simp only [toDays, before, year_end, show daysBeforeYear 1970 = 719162 from rfl]
      split <;> omega
  · have date : ofMarch year day = ⟨year + 1, 1, day - 306 + 1⟩ := by
      simp only [ofMarch, eq]
      rfl
    have length : monthLength (year + 1) 1 = 31 := rfl
    rw [date]
    refine ⟨⟨Nat.le_refl 1, by dsimp only; omega, by dsimp only; omega, ?_⟩, ?_⟩
    · dsimp only
      omega
    · simp only [toDays, daysBeforeMonth, show daysBeforeYear 1970 = 719162 from rfl]
      omega
  · have date : ofMarch year day = ⟨year + 1, 2, day - 337 + 1⟩ := by
      simp only [ofMarch, eq]
      rfl
    have length : monthLength (year + 1) 2 = if IsLeap (year + 1) then 29 else 28 := rfl
    have january : daysBeforeMonth (year + 1) 2 = 31 := rfl
    rw [date]
    refine ⟨⟨by dsimp only; omega, by dsimp only; omega, by dsimp only; omega, ?_⟩, ?_⟩
    · simp only [length]
      split at bound
      · rw [if_pos ‹_›]
        omega
      · rw [if_neg ‹_›]
        omega
    · simp only [toDays, january, show daysBeforeYear 1970 = 719162 from rfl]
      omega

end March

/-- The date of a number of days is one of the calendar, that many days after the start of 1970. -/
theorem isValid_and_toDays_ofDays (days : Int) :
    (ofDays days).IsValid ∧ (ofDays days).toDays = days := by
  obtain ⟨era, year, day, bound, within, eq, date⟩ := exists_ofMarch days
  rw [eraDays_succ bound era] at within
  obtain ⟨valid, days_eq⟩ := isValid_and_toDays_ofMarch
    (show day < if IsLeap (year + era * 400 + 1) then 366 else 365 by omega)
  rw [daysBeforeYear_of_era bound] at days_eq
  rw [date]
  exact ⟨valid, by omega⟩

/-! ## The order of dates -/

theorem daysBeforeMonth_succ (year : Int) {month : Nat} (pos : 1 ≤ month) :
    daysBeforeMonth year (month + 1) = daysBeforeMonth year month + monthLength year month := by
  obtain ⟨month, rfl⟩ := Nat.exists_eq_add_of_le' pos
  rfl

theorem daysBeforeMonth_le (year : Int) {month month' : Nat} (pos : 1 ≤ month)
    (lt : month < month') :
    daysBeforeMonth year month + monthLength year month ≤ daysBeforeMonth year month' := by
  induction month', lt using Nat.le_induction with
  | base => exact (daysBeforeMonth_succ year pos).ge
  | succ month' lt ih =>
    rw [daysBeforeMonth_succ year (by omega)]
    exact Nat.le_add_right_of_le ih

theorem daysBeforeYear_mono {year year' : Int} (le : year ≤ year') :
    daysBeforeYear year ≤ daysBeforeYear year' := by
  induction year', le using Int.leInduction with
  | base => exact Int.le_refl _
  | succ year' _ ih =>
    rw [daysBeforeYear_succ]
    split <;> omega

variable {date date' : Date}

/-- A date is one of the days of its year. -/
theorem le_toDays (valid : date.IsValid) :
    daysBeforeYear date.year - daysBeforeYear 1970 ≤ date.toDays := by
  have day := valid.day_pos
  rw [toDays]
  omega

theorem toDays_lt (valid : date.IsValid) :
    date.toDays < daysBeforeYear (date.year + 1) - daysBeforeYear 1970 := by
  have month := valid.month_le
  have day := valid.day_le
  have year_end : daysBeforeMonth date.year 13 = if IsLeap date.year then 366 else 365 := by
    have december := (march_months date.year 9 (by decide)).1
    have length : monthLength date.year 12 = 31 := rfl
    rw [daysBeforeMonth_succ date.year (by decide), length, december]
    split <;> rfl
  have le := daysBeforeMonth_le date.year valid.month_pos (show date.month < 13 by omega)
  rw [year_end] at le
  rw [toDays, daysBeforeYear_succ]
  split at le
  · rw [if_pos ‹_›]
    omega
  · rw [if_neg ‹_›]
    omega

/-- A date comes before another one in the calendar. -/
def Before (date date' : Date) : Prop :=
  date.year < date'.year ∨ date.year = date'.year ∧
    (date.month < date'.month ∨ date.month = date'.month ∧ date.day < date'.day)

theorem toDays_lt_of_before (valid : date.IsValid) (valid' : date'.IsValid)
    (before : date.Before date') : date.toDays < date'.toDays := by
  have pos := valid'.day_pos
  have day := valid.day_le
  obtain year | ⟨year, month | ⟨month, day⟩⟩ := before
  · have le := daysBeforeYear_mono (Int.add_one_le_of_lt year)
    have lt := toDays_lt valid
    simp only [toDays] at lt ⊢
    omega
  · have le := daysBeforeMonth_le date'.year valid.month_pos month
    rw [year] at day
    simp only [toDays, year]
    omega
  · simp only [toDays, year, month]
    omega

theorem before_trichotomy (date date' : Date) :
    date.Before date' ∨ date = date' ∨ date'.Before date := by
  rcases date with ⟨year, month, day⟩
  rcases date' with ⟨year', month', day'⟩
  simp only [Before, Date.mk.injEq]
  omega

/-- Dates come one before another as the days do. -/
theorem toDays_lt_iff (valid : date.IsValid) (valid' : date'.IsValid) :
    date.toDays < date'.toDays ↔ date.Before date' := by
  refine ⟨fun lt => ?_, toDays_lt_of_before valid valid'⟩
  obtain before | rfl | after := before_trichotomy date date'
  · exact before
  · exact absurd lt (Int.lt_irrefl _)
  · exact absurd lt (Int.not_lt.2 (Int.le_of_lt (toDays_lt_of_before valid' valid after)))

/-- Of the dates of the calendar only one is so many days after the start of 1970. -/
theorem toDays_inj (valid : date.IsValid) (valid' : date'.IsValid) :
    date.toDays = date'.toDays ↔ date = date' := by
  refine ⟨fun same => ?_, congrArg toDays⟩
  obtain before | rfl | after := before_trichotomy date date'
  · exact absurd same (Int.ne_of_lt (toDays_lt_of_before valid valid' before))
  · rfl
  · exact absurd same (Int.ne_of_gt (toDays_lt_of_before valid' valid after))

end Date

/-! ## Instants -/

/-- The milliseconds from the start of 1970 to a time of day on a date. -/
def millisOf (date : Date) : Nat × Nat × Nat × Nat → Int
  | (hour, minute, second, milli) =>
    date.toDays * millisPerDay + (((hour * 60 + minute) * 60 + second) * 1000 + milli : Nat)

/-- An hour of 24, a minute of 60, a second of 60 and a millisecond of 1000. -/
def IsClock : Nat × Nat × Nat × Nat → Prop
  | (hour, minute, second, milli) => hour < 24 ∧ minute < 60 ∧ second < 60 ∧ milli < 1000

variable {t t' : Instant}

theorem isClock_clock (t : Instant) : IsClock t.clock := by
  have within := Int.fmod_lt_of_pos t.millis (show 0 < millisPerDay by decide)
  simp only [clock, IsClock, ofDay]
  simp only [millisPerDay] at within ⊢
  omega

theorem isValid_date (t : Instant) : t.date.IsValid :=
  (Date.isValid_and_toDays_ofDays _).1

/-- An instant is so many milliseconds after the start of the day that its date says. -/
theorem toDays_date (t : Instant) :
    t.date.toDays * millisPerDay + t.ofDay = t.millis ∧ t.ofDay < millisPerDay := by
  have days := (Date.isValid_and_toDays_ofDays (t.millis.fdiv millisPerDay)).2
  have nonneg := Int.fmod_nonneg_of_pos t.millis (show 0 < millisPerDay by decide)
  have within := Int.fmod_lt_of_pos t.millis (show 0 < millisPerDay by decide)
  have parts := Int.mul_fdiv_add_fmod t.millis millisPerDay
  rw [date, ofDay, days, Int.mul_comm]
  omega

/-- An instant is the time of its clock on its date. -/
theorem millisOf_date_clock (t : Instant) : millisOf t.date t.clock = t.millis := by
  have millis := t.toDays_date.1
  simp only [clock, millisOf]
  omega

/-- An instant comes before another one by date and, on one date, by time of day. -/
theorem lt_iff : t < t' ↔ t.date.Before t'.date ∨ t.date = t'.date ∧ t.ofDay < t'.ofDay := by
  have order : t < t' ↔ t.millis < t'.millis := Iff.rfl
  have parts := t.toDays_date
  have parts' := t'.toDays_date
  rw [order, ← Date.toDays_lt_iff t.isValid_date t'.isValid_date,
    ← Date.toDays_inj t.isValid_date t'.isValid_date]
  simp only [millisPerDay] at parts parts'
  omega

/-- The first and the last day of the years 1 to 9999. -/
theorem Date.year_iff {date : Date} (valid : date.IsValid) :
    1 ≤ date.year ∧ date.year ≤ 9999 ↔ -719162 ≤ date.toDays ∧ date.toDays < 2932897 := by
  have epoch : Date.daysBeforeYear 1970 = 719162 := rfl
  have first : Date.daysBeforeYear 1 = 0 := rfl
  have last : Date.daysBeforeYear 10000 = 3652059 := rfl
  have lower := Date.le_toDays valid
  have upper := Date.toDays_lt valid
  constructor
  · rintro ⟨from_first, to_last⟩
    have le := Date.daysBeforeYear_mono from_first
    have le' := Date.daysBeforeYear_mono (show date.year + 1 ≤ 10000 by omega)
    omega
  · rintro ⟨from_first, to_last⟩
    refine ⟨Int.not_lt.1 fun before => ?_, Int.not_lt.1 fun after => ?_⟩
    · have le := Date.daysBeforeYear_mono (show date.year + 1 ≤ 1 by omega)
      omega
    · have le := Date.daysBeforeYear_mono (show 10000 ≤ date.year by omega)
      omega

/-- An instant lies in the years 1 to 9999 if, and only if, its milliseconds lie between the first
    and the last of them. -/
theorem year_iff (t : Instant) :
    1 ≤ t.date.year ∧ t.date.year ≤ 9999 ↔ firstMillis ≤ t.millis ∧ t.millis ≤ lastMillis := by
  have clock := t.isClock_clock
  have millis := t.millisOf_date_clock
  rw [Date.year_iff t.isValid_date]
  obtain ⟨hour, minute, second, milli⟩ := t.clock
  simp only [IsClock] at clock
  simp only [millisOf, millisPerDay] at millis
  simp only [firstMillis, lastMillis]
  omega

end InvokeWorker.Instant
