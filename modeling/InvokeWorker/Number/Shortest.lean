import InvokeWorker.Number.Double
import InvokeWorker.Text.Basic

/-!
# Shortest decimal text of a double

Among the decimals with the fewest digits that are read back as a given number, the one nearest to
it (`shortest`). `Layout` decides how its digits are written: where positional notation ends and
what an exponent looks like.
-/

namespace InvokeWorker

namespace Double

/-- The number `mantissa * 2 ^ exponent` as a quotient of naturals. -/
def ratio (mantissa : Nat) (exponent : Int) : Nat × Nat :=
  if 0 ≤ exponent then (mantissa * 2 ^ exponent.toNat, 1) else (mantissa, 2 ^ (-exponent).toNat)

/-- How many digits stand before the decimal point of `num / den`: the least `k` such that the
    quotient is below `10 ^ k`, found from the guess given by the binary logarithms. -/
def pointPlace (num den : Nat) : Int :=
  let guess : Int := ((num.log2 : Int) - den.log2) * 30103 / 100000 - 1
  let below (k : Int) : Bool :=
    if 0 ≤ k then num < den * 10 ^ k.toNat else num * 10 ^ (-k).toNat < den
  if below guess then guess
  else if below (guess + 1) then guess + 1
  else if below (guess + 2) then guess + 2
  else guess + 3

/-- The candidates with `n` digits: the two multiples of `10 ^ (place - n)` around `num / den`,
    the nearer one first and of two equally near ones the even one. -/
def candidates (num den : Nat) (place : Int) (n : Nat) : List Nat :=
  let e := place - n
  let (num, den) := if 0 ≤ e then (num, den * 10 ^ e.toNat) else (num * 10 ^ (-e).toNat, den)
  let q := num / den
  let twice := 2 * (num % den)
  if twice < den ∨ twice = den ∧ q % 2 = 0 then [q, q + 1] else [q + 1, q]

/-- The first candidate of `n` digits that is read back as the number, for `n` from `17 - fuel`. -/
def shortestFrom (mantissa : Nat) (exponent place : Int) (num den : Nat) : Nat → Nat × Int
  | 0 => (mantissa, exponent)
  | fuel + 1 =>
    let n := 17 - fuel
    let reads (digits : Nat) : Bool :=
      ofDecimal false digits (place - n) = finite false mantissa exponent
    match (candidates num den place n).find? reads with
    | some digits => (digits, place - n)
    | none => shortestFrom mantissa exponent place num den fuel

/-- The shortest decimal `digits * 10 ^ e` that is read back as a positive number. -/
def shortest (mantissa : Nat) (exponent : Int) : Nat × Int :=
  let (num, den) := ratio mantissa exponent
  shortestFrom mantissa exponent (pointPlace num den) num den 17

end Double

/-- How the digits of a number are written. -/
structure Layout where
  /-- Numbers of at least `10 ^ longest` are written with an exponent. -/
  longest : Int
  /-- Numbers below `10 ^ (-leading)` are written with an exponent. -/
  leading : Int
  /-- What stands between the digits and a nonnegative exponent. -/
  plus : Text
  /-- The least number of digits of an exponent. -/
  exponentWidth : Nat
  deriving DecidableEq, Repr

namespace Layout

/-- Positional below `10 ^ 16` and from `10 ^ (-4)`; exponents carry a sign and two digits. -/
def signedExponent : Layout := ⟨16, 4, "e+", 2⟩

/-- Positional below `10 ^ 16` and from `10 ^ (-5)`; exponents are written as integers. -/
def plainExponent : Layout := ⟨16, 5, "e", 1⟩

/-- Drops trailing zeros, keeping one digit. -/
def significant (digits : Text) : Text :=
  match (digits.reverse.dropWhile (· = 48)).reverse with
  | [] => [48]
  | kept => kept

/-- Writes `0.digits * 10 ^ place`. -/
def write (layout : Layout) (digits : Text) (place : Int) : Text :=
  if layout.longest < place ∨ place ≤ -layout.leading then
    let e := place - 1
    let mantissa := match digits with
      | [d] => [d]
      | d :: rest => d :: 46 :: rest
      | [] => []
    let exponent := Text.decimal layout.exponentWidth e.natAbs
    mantissa ++ (if e < 0 then ("e-" : Text) else layout.plus) ++ exponent
  else if place ≤ 0 then ("0." : Text) ++ List.replicate (-place).toNat 48 ++ digits
  else if digits.length ≤ place.toNat then
    digits ++ List.replicate (place.toNat - digits.length) 48 ++ (".0" : Text)
  else digits.take place.toNat ++ 46 :: digits.drop place.toNat

end Layout

namespace Double

/-- The text of a finite nonnegative number. -/
def magnitude (layout : Layout) (mantissa : Nat) (exponent : Int) : Text :=
  if mantissa = 0 then "0.0"
  else
    let (digits, e) := shortest mantissa exponent
    let written := Text.ofNat digits
    layout.write (Layout.significant written) (e + written.length)

/-- The text of a number; `special` names the infinities and the not-a-number. -/
def toText (layout : Layout) (notANumber infinite : Text) : Double → Text
  | nan => notANumber
  | infinity negative => (if negative then [45] else []) ++ infinite
  | finite negative m e => (if negative then [45] else []) ++ magnitude layout m e

end Double

end InvokeWorker
