import InvokeWorker.Text.Basic

/-!
# Double-precision numbers

The numbers of the IEEE 754 binary64 format as exact data: a sign, a natural mantissa and a power
of two, besides the infinities and the one not-a-number that matters here. Operations compute
exactly in the rationals and round once, to the nearest number and in a tie to the even mantissa
(`ofRatio`), so every result is determined by arithmetic on naturals.

A finite number is *canonical*: its mantissa has 53 bits, or its exponent is the least one and it
has fewer. All functions here return canonical numbers, so equality of data is equality of bits.
-/

namespace InvokeWorker

/-- A binary64 number. -/
inductive Double where
  /-- Not a number. -/
  | nan
  /-- An infinity. -/
  | infinity (negative : Bool)
  /-- The number `± mantissa * 2 ^ exponent`. -/
  | finite (negative : Bool) (mantissa : Nat) (exponent : Int)
  deriving DecidableEq, Repr, Inhabited

namespace Double

/-- The least exponent of a finite number. -/
def minExponent : Int := -1074

/-- The greatest exponent of a finite number. -/
def maxExponent : Int := 971

/-- Zero of either sign. -/
def zero (negative : Bool) : Double :=
  .finite negative 0 minExponent

/-- The quotient of two naturals rounded to a natural: to the nearest, in a tie to the even one. -/
def roundDiv (num den : Nat) : Nat :=
  let q := num / den
  let twice := 2 * (num % den)
  if twice < den ∨ twice = den ∧ q % 2 = 0 then q else q + 1

/-- The quotient `num / den * 2 ^ (-e)` rounded to a natural. -/
def scaled (num den : Nat) (e : Int) : Nat :=
  if 0 ≤ e then roundDiv num (den * 2 ^ e.toNat) else roundDiv (num * 2 ^ (-e).toNat) den

/-- The exponent of the format in which `num / den` is rounded: the least one that leaves a
    mantissa below `2 ^ 53`. -/
def exponentOf (num den : Nat) : Int :=
  let guess : Int := max ((num.log2 : Int) - den.log2 - 53) minExponent
  let floor := if 0 ≤ guess then num / (den * 2 ^ guess.toNat)
    else num * 2 ^ (-guess).toNat / den
  if floor < 2 ^ 53 then guess else guess + 1

/-- The number nearest to `± num / den`. -/
def ofRatio (negative : Bool) (num den : Nat) : Double :=
  if num = 0 then zero negative
  else
    let e := exponentOf num den
    let m := scaled num den e
    let (m, e) := if m < 2 ^ 53 then (m, e) else (2 ^ 52, e + 1)
    if maxExponent < e then .infinity negative else .finite negative m e

/-- The number nearest to an integer divided by a positive natural. -/
def ofIntRatio (num : Int) (den : Nat) : Double :=
  ofRatio (num < 0) num.natAbs den

/-- The number nearest to `± digits * 10 ^ exponent`. An exponent far outside the format decides
    the result without a huge power being computed. -/
def ofDecimal (negative : Bool) (digits : Nat) (exponent : Int) : Double :=
  if digits = 0 then zero negative
  else
    let magnitude := exponent + (digits.log2 * 30103 / 100000 : Nat)
    if 310 < magnitude then .infinity negative
    else if magnitude < -330 then zero negative
    else if 0 ≤ exponent then ofRatio negative (digits * 10 ^ exponent.toNat) 1
    else ofRatio negative digits (10 ^ (-exponent).toNat)

/-- A finite number as an integer multiple of `2 ^ exponent`. -/
def signed (negative : Bool) (m : Nat) : Int :=
  if negative then -m else m

/-- The number nearest to `n * 2 ^ e`; `negative` is the sign of a zero. -/
def ofScaled (negative : Bool) (n : Int) (e : Int) : Double :=
  let negative := if n = 0 then negative else n < 0
  if 0 ≤ e then ofRatio negative (n.natAbs * 2 ^ e.toNat) 1
  else ofRatio negative n.natAbs (2 ^ (-e).toNat)

/-- The negated number. -/
def neg : Double → Double
  | nan => nan
  | infinity s => infinity !s
  | finite s m e => finite (!s) m e

/-- The sum of two numbers. -/
def add : Double → Double → Double
  | nan, _ => nan
  | _, nan => nan
  | infinity s, infinity t => if s = t then infinity s else nan
  | infinity s, _ => infinity s
  | _, infinity t => infinity t
  | finite s m e, finite t n f =>
    let g := min e f
    ofScaled (s && t)
      (signed s m * 2 ^ (e - g).toNat + signed t n * 2 ^ (f - g).toNat) g

/-- The difference of two numbers. -/
def sub (a b : Double) : Double :=
  add a (neg b)

/-- The product of two numbers. -/
def mul : Double → Double → Double
  | nan, _ => nan
  | _, nan => nan
  | infinity s, infinity t => infinity (s != t)
  | infinity s, finite t m _ => if m = 0 then nan else infinity (s != t)
  | finite s m _, infinity t => if m = 0 then nan else infinity (s != t)
  | finite s m e, finite t n f => ofScaled (s != t) (signed (s != t) (m * n)) (e + f)

/-- The integer part: what is left when the fraction is dropped. -/
def truncate : Double → Option Int
  | finite s m e =>
    some (signed s (if 0 ≤ e then m * 2 ^ e.toNat else m / 2 ^ (-e).toNat))
  | _ => none

/-- The nearest integer, in a tie the even one. -/
def round : Double → Option Int
  | finite s m e =>
    some (signed s (if 0 ≤ e then m * 2 ^ e.toNat else roundDiv m (2 ^ (-e).toNat)))
  | _ => none

/-- The value of a number that is an integer. -/
def integer? : Double → Option Int
  | finite s m e =>
    if 0 ≤ e then some (signed s (m * 2 ^ e.toNat))
    else if m % 2 ^ (-e).toNat = 0 then some (signed s (m / 2 ^ (-e).toNat)) else none
  | _ => none

/-- Whether a number is finite. -/
def isFinite : Double → Bool
  | finite .. => true
  | _ => false

/-- Whether a number is zero, of either sign. -/
def isZero : Double → Bool
  | finite _ m _ => m = 0
  | _ => false

/-- Numerical equality: a not-a-number equals nothing, and the zeros are equal. -/
def eq (a b : Double) : Bool :=
  match a, b with
  | nan, _ => false
  | a, b => a.isZero && b.isZero || a = b

end Double

end InvokeWorker
