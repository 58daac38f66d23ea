import InvokeWorker.Text.Quoted
import InvokeWorker.Value.Basic

/-!
# Deadlines

The deadline of an invoke arrives as a text: an optional sign and decimal digits, the milliseconds
since the start of 1970 as a signed 64-bit number. `Deadline.parse` gives the instant or says what
is wrong; a text of too many digits is not even read as a number.
-/

namespace InvokeWorker.Deadline

/-- Why a text is no deadline. -/
inductive Fault where
  /-- It is not a sign and digits. -/
  | malformed
  /-- It has this many digits, more than a number may have. -/
  | digits (count : Nat)
  /-- The number does not fit 64 bits. -/
  | word
  /-- The number is no instant. -/
  | range (error : Instant.RangeError)
  deriving DecidableEq, Repr

/-- The sign and the digits of a text. -/
def signed? (t : Text) : Option (Bool × Text) :=
  let (negative, digits) := match t with
    | 45 :: rest => (true, rest)
    | 43 :: rest => (false, rest)
    | t => (false, t)
  if digits.isEmpty || !digits.all CodePoint.isDigit then none else some (negative, digits)

/-- The least number of milliseconds a deadline may state. -/
def minMillis : Int := -(2 ^ 63)

/-- The greatest number of milliseconds a deadline may state. -/
def maxMillis : Int := 2 ^ 63 - 1

/-- The instant a text states. -/
def read (t : Text) : Except Fault Instant :=
  match signed? t with
  | none => .error .malformed
  | some (negative, digits) =>
    if Text.maxDigits < digits.length then .error (.digits digits.length)
    else
      let n : Int := Text.digitsValue digits
      let ms := if negative then -n else n
      if ms < minMillis ∨ maxMillis < ms then .error .word
      else match Instant.ofMillis? ms with
        | .ok t => .ok t
        | .error e => .error (.range e)

/-- The error a fault in a text is raised as. All but the number of digits make the invoke
    malformed. -/
def Fault.toThrown (t : Text) : Fault → Thrown
  | .malformed =>
    .malformedInvoke ("failed to parse deadline: invalid syntax: " ++ t.quoted)
  | .digits count =>
    .valueError ("Exceeds the limit (4300 digits) for integer string conversion: value has "
      ++ Text.ofNat count ++ " digits; use sys.set_int_max_str_digits() to increase the limit")
  | .word =>
    .malformedInvoke ("failed to parse deadline: value out of range: " ++ t.quoted)
  | .range e => .malformedInvoke ("failed to parse deadline: " ++ e.message)

/-- The deadline a header states. -/
def parse (t : Text) : Except Thrown Instant :=
  match read t with
  | .ok instant => .ok instant
  | .error fault => .error (fault.toThrown t)

end InvokeWorker.Deadline
