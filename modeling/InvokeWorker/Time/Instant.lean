import InvokeWorker.Text.Basic

/-!
# Instants

An instant is a number of milliseconds since the start of 1970, UTC, in the years 1 to 9999 of the
proleptic Gregorian calendar. `Instant.ofMillis?` refuses every number outside, and `Instant.iso`
writes an instant as a date and a time of day.
-/

namespace InvokeWorker

/-- A point in time with millisecond precision. -/
structure Instant where
  /-- Milliseconds since the start of 1970. -/
  millis : Int
  deriving DecidableEq, Repr, Inhabited

namespace Instant

/-- The first millisecond of year 1. -/
def firstMillis : Int := -62135596800000

/-- The last millisecond of year 9999. -/
def lastMillis : Int := 253402300799999

/-- Why a number of milliseconds is no instant. -/
inductive RangeError where
  /-- The date lies outside the years 1 to 9999. -/
  | year
  /-- The number of whole days has more than nine digits. -/
  | days (n : Int)
  /-- The number of whole days does not fit 32 bits. -/
  | word
  deriving DecidableEq, Repr

/-- The wording of a range error. -/
def RangeError.message : RangeError → Text
  | .year => "date value out of range"
  | .days n => ("days=" : Text) ++ Text.ofInt n ++ "; must have magnitude <= 999999999"
  | .word => "Python int too large to convert to C int"

/-- The number of milliseconds in a day. -/
def millisPerDay : Int := 86400000

/-- The instant of a number of milliseconds. -/
def ofMillis? (ms : Int) : Except RangeError Instant :=
  let days := ms.fdiv millisPerDay
  if days < -2147483648 ∨ 2147483647 < days then .error .word
  else if days < -999999999 ∨ 999999999 < days then .error (.days days)
  else if ms < firstMillis ∨ lastMillis < ms then .error .year
  else .ok ⟨ms⟩

instance : LT Instant := ⟨fun a b => a.millis < b.millis⟩

instance : LE Instant := ⟨fun a b => a.millis ≤ b.millis⟩

instance (a b : Instant) : Decidable (a < b) := inferInstanceAs (Decidable (a.millis < b.millis))

instance (a b : Instant) : Decidable (a ≤ b) := inferInstanceAs (Decidable (a.millis ≤ b.millis))

/-- A calendar date. -/
structure Date where
  /-- The year. -/
  year : Int
  /-- The month, from 1. -/
  month : Nat
  /-- The day of the month, from 1. -/
  day : Nat
  deriving DecidableEq, Repr

/-- The date of a number of days since the start of 1970. Years are counted from March, so that
    the leap day is the last of its year, in eras of four centuries. -/
def Date.ofDays (days : Int) : Date :=
  let shifted := days + 719468
  let era := shifted.fdiv 146097
  let ofEra := (shifted - era * 146097).toNat
  let yearOfEra := (ofEra - ofEra / 1460 + ofEra / 36524 - ofEra / 146096) / 365
  let ofYear := ofEra - (365 * yearOfEra + yearOfEra / 4 - yearOfEra / 100)
  let marchMonth := (5 * ofYear + 2) / 153
  let day := ofYear - (153 * marchMonth + 2) / 5 + 1
  let month := if marchMonth < 10 then marchMonth + 3 else marchMonth - 9
  ⟨(yearOfEra : Int) + era * 400 + (if month ≤ 2 then 1 else 0), month, day⟩

/-- The date of an instant. -/
def date (t : Instant) : Date :=
  .ofDays (t.millis.fdiv millisPerDay)

/-- The milliseconds since midnight. -/
def ofDay (t : Instant) : Nat :=
  (t.millis.fmod millisPerDay).toNat

/-- Hours, minutes, seconds and milliseconds since midnight. -/
def clock (t : Instant) : Nat × Nat × Nat × Nat :=
  let ms := t.ofDay
  (ms / 3600000, ms / 60000 % 60, ms / 1000 % 60, ms % 1000)

/-- Date, `separator` and time of day up to the seconds. -/
def stamp (separator : CodePoint) (t : Instant) : Text :=
  let date := t.date
  let (hour, minute, second, _) := t.clock
  Text.decimal 4 date.year.toNat ++ 45 :: Text.decimal 2 date.month ++ 45 :: Text.decimal 2 date.day
    ++ separator :: Text.decimal 2 hour ++ 58 :: Text.decimal 2 minute
    ++ 58 :: Text.decimal 2 second

/-- Date and time in UTC, with six digits of a second's fraction if there is one. -/
def isoWith (separator : CodePoint) (t : Instant) : Text :=
  let ms := t.ofDay % 1000
  t.stamp separator ++ (if ms = 0 then ([] : Text) else 46 :: Text.decimal 3 ms ++ ("000" : Text))
    ++ ("+00:00" : Text)

/-- Date and time in UTC, separated by `T`. -/
def iso (t : Instant) : Text :=
  t.isoWith 84

/-- Date and time in UTC with three digits of a second's fraction, separated by `T`. -/
def isoMillis (t : Instant) : Text :=
  t.stamp 84 ++ 46 :: Text.decimal 3 (t.ofDay % 1000) ++ ("+00:00" : Text)

end Instant

end InvokeWorker
