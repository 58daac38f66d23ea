import InvokeWorker.Number.Double
import InvokeWorker.Value.Basic

/-!
# Plain scalars

What a YAML scalar without quotes stands for: `null`, a truth value, an integer in one of several
bases, a number, or else the text itself. The rules are those of YAML 1.1, where `yes` and `off`
are truth values, a leading zero makes a number octal, underscores may separate digits, and colons
separate the digits of base sixty.
-/

namespace InvokeWorker.Yaml

/-- The words for `null`. -/
def nullWords : List Text := ["", "~", "null", "Null", "NULL"]

/-- The words for `true`. -/
def trueWords : List Text :=
  ["yes", "Yes", "YES", "true", "True", "TRUE", "on", "On", "ON"]

/-- The words for `false`. -/
def falseWords : List Text :=
  ["no", "No", "NO", "false", "False", "FALSE", "off", "Off", "OFF"]

/-- The words for the infinity. -/
def infinityWords : List Text := [".inf", ".Inf", ".INF"]

/-- The words for the number that is none. -/
def nanWords : List Text := [".nan", ".NaN", ".NAN"]

/-- A sign, if there is one, and what follows it. -/
def signed (t : Text) : Bool × Text :=
  match t with
  | 45 :: rest => (true, rest)
  | 43 :: rest => (false, rest)
  | t => (false, t)

/-- The text without underscores. -/
def withoutUnderscores (t : Text) : Text :=
  t.filter (· ≠ 95)

/-- Whether a text is not empty and holds nothing but underscores and what `p` admits. -/
def isRun (p : CodePoint → Bool) (t : Text) : Bool :=
  !t.isEmpty && t.all fun c => c = 95 || p c

/-- The value of digits in a base. -/
def valueIn (base : Nat) (t : Text) : Nat :=
  t.foldl (fun n c => base * n + (CodePoint.hexDigit? c).getD 0) 0

/-- Whether a text is a digit of base sixty behind a colon: one decimal digit, or two of which the
    first is at most five. -/
def isSexagesimalDigit : Text → Bool
  | [d] => d.isDigit
  | [c, d] => 48 ≤ c.val && c.val ≤ 53 && d.isDigit
  | _ => false

/-- The value of the digits of base sixty. -/
def sexagesimal (digits : List Text) : Nat :=
  digits.foldl (fun n d => 60 * n + Text.digitsValue (withoutUnderscores d)) 0

/-- Whether a text is a decimal digit with digits and underscores behind it. -/
def startsWithDigit (p : CodePoint → Bool) (t : Text) : Bool :=
  match t with
  | c :: rest => c.isDigit && p c && rest.all fun c => c.isDigit || c = 95
  | [] => false

/-- The natural number a scalar without its sign stands for. -/
def natural? (t : Text) : Option Nat :=
  let isBinary (c : CodePoint) : Bool := c = 48 || c = 49
  let isOctal (c : CodePoint) : Bool := 48 ≤ c.val && c.val ≤ 55
  let isNonZero (c : CodePoint) : Bool := c ≠ 48
  match t with
  | [48] => some 0
  | 48 :: 98 :: rest =>
    if isRun isBinary rest then some (valueIn 2 (withoutUnderscores rest)) else none
  | 48 :: 120 :: rest =>
    if isRun (fun c => c.hexDigit?.isSome) rest then some (valueIn 16 (withoutUnderscores rest))
    else none
  | 48 :: rest => if isRun isOctal rest then some (valueIn 8 (withoutUnderscores rest)) else none
  | t =>
    match Text.splitOn 58 t with
    | first :: rest =>
      if startsWithDigit isNonZero first && rest.all isSexagesimalDigit then
        some (sexagesimal (first :: rest))
      else none
    | [] => none

/-- The integer a scalar stands for. -/
def integer? (t : Text) : Option Int :=
  let (negative, digits) := signed t
  (natural? digits).map fun n => if negative then -(n : Int) else n

/-- The exponent behind an `e`: it needs a sign. -/
def exponent? (t : Text) : Option Int :=
  match t with
  | [] => some 0
  | e :: sign :: rest =>
    if (e = 101 || e = 69) && (sign = 43 || sign = 45) && !rest.isEmpty &&
        rest.all CodePoint.isDigit
    then
      let n : Int := Text.digitsValue rest
      some (if sign = 45 then -n else n)
    else none
  | _ => none

/-- A number with a point, from what stands before and after it. -/
def decimal? (negative : Bool) (before after : Text) : Option Double :=
  let isDigitOrMark (c : CodePoint) : Bool := c.isDigit || c = 95
  let fraction := after.takeWhile isDigitOrMark
  let hasDigits :=
    if before.isEmpty then startsWithDigit (fun _ => true) fraction && !negative
    else startsWithDigit (fun _ => true) before
  match exponent? (after.drop fraction.length) with
  | none => none
  | some e =>
    if hasDigits then
      let digits := withoutUnderscores (before ++ fraction)
      some (.ofDecimal negative (Text.digitsValue digits)
        (e - (withoutUnderscores fraction).length))
    else none

/-- A number of base sixty with a fraction, from what stands before and after the point. -/
def sexagesimalDecimal? (negative : Bool) (before after : Text) : Option Double :=
  match Text.splitOn 58 before with
  | first :: second :: rest =>
    if startsWithDigit (fun _ => true) first && (second :: rest).all isSexagesimalDigit
        && after.all (fun c => c.isDigit || c = 95) then
      let fraction := withoutUnderscores after
      some (.ofRatio negative
        (sexagesimal (first :: second :: rest) * 10 ^ fraction.length + Text.digitsValue fraction)
        (10 ^ fraction.length))
    else none
  | _ => none

/-- The number a scalar stands for. -/
def number? (t : Text) : Option Double :=
  let (negative, rest) := signed t
  if infinityWords.contains rest then some (.infinity negative)
  else if nanWords.contains t then some .nan
  else match Text.cutFirst? 46 rest with
    | none => none
    | some (before, after) =>
      if before.isEmpty && t ≠ rest then none
      else (decimal? negative before after).or (sexagesimalDecimal? negative before after)

/-- What a plain scalar stands for. -/
def resolve (t : Text) : Value :=
  if nullWords.contains t then .null
  else if trueWords.contains t then .bool true
  else if falseWords.contains t then .bool false
  else match integer? t with
    | some n => .int n
    | none => match number? t with
      | some d => .float d
      | none => .text t

end InvokeWorker.Yaml
