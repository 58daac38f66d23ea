import InvokeWorker.Number.Shortest

/-!
# Doubles with a given number of digits

A number written with a given number of places behind the point, or with a given number of
significant digits and an exponent. The digits are those of the exact value, rounded to the
nearest; a tie goes to the even digit.
-/

namespace InvokeWorker.Double

/-- The quotient `num / den` times a power of ten, rounded. -/
def scaledByTen (num den : Nat) (power : Int) : Nat :=
  if 0 ≤ power then roundDiv (num * 10 ^ power.toNat) den
  else roundDiv num (den * 10 ^ (-power).toNat)

/-- A magnitude with `places` digits behind the point; the point is left out if there are none,
    unless it is `forced`. -/
def fixedMagnitude (forced : Bool) (places : Nat) (mantissa : Nat) (exponent : Int) : Text :=
  let (num, den) := ratio mantissa exponent
  let digits := Text.padLeft (places + 1) 48 (Text.ofNat (scaledByTen num den places))
  let whole := digits.take (digits.length - places)
  let part := digits.drop (digits.length - places)
  if part.isEmpty && !forced then whole else whole ++ 46 :: part

/-- The `n` significant digits of a magnitude, and the power of ten of the first one. -/
def significantDigits (n : Nat) (mantissa : Nat) (exponent : Int) : Text × Int :=
  if mantissa = 0 then (List.replicate n 48, 0)
  else
    let (num, den) := ratio mantissa exponent
    let place := pointPlace num den
    let rounded := Text.ofNat (scaledByTen num den (n - place))
    if rounded.length ≤ n then (rounded, place - 1) else (rounded.take n, place)

/-- The text of an exponent, with a sign and at least two digits. -/
def exponentText (e : Int) : Text :=
  (if e < 0 then ("e-" : Text) else "e+") ++ Text.decimal 2 e.natAbs

/-- Digits with a point behind the first one, if more follow or it is `forced`. -/
def pointed (forced : Bool) : Text → Text
  | [] => []
  | d :: rest => if rest.isEmpty && !forced then [d] else d :: 46 :: rest

/-- A magnitude with one digit in front of the point, `places` behind it, and an exponent. -/
def scientificMagnitude (forced : Bool) (places : Nat) (mantissa : Nat) (exponent : Int) : Text :=
  let (digits, e) := significantDigits (places + 1) mantissa exponent
  pointed forced digits ++ exponentText e

/-- Drops trailing zeros. -/
def withoutTrailingZeros (digits : Text) : Text :=
  (digits.reverse.dropWhile (· = 48)).reverse

/-- A magnitude with `n` significant digits, trailing zeros left out unless they are `forced`;
    with an exponent if this is below -4 or not below `n`. -/
def generalMagnitude (forced : Bool) (n : Nat) (mantissa : Nat) (exponent : Int) : Text :=
  let n := max n 1
  let (digits, e) := significantDigits n mantissa exponent
  if e < -4 ∨ (n : Int) ≤ e then
    let kept := if forced then digits else digits.take 1 ++ withoutTrailingZeros (digits.drop 1)
    pointed forced kept ++ exponentText e
  else
    let placed := List.replicate (-e).toNat 48 ++ digits
    let whole := placed.take (e.toNat + 1)
    let part := placed.drop (e.toNat + 1)
    let part := if forced then part else withoutTrailingZeros part
    if part.isEmpty && !forced then whole else whole ++ 46 :: part

end InvokeWorker.Double
