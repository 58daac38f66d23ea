import InvokeWorker.Number.Fixed
import InvokeWorker.Value.Equal
import InvokeWorker.Value.Show

/-!
# Messages with placeholders

A log message may hold placeholders that its arguments are written into: a percent sign, an
optional key in parentheses, flags, a width, a precision and a letter that says how the argument is
written. The arguments are a sequence taken in order, or a mapping from which keys take them.
-/

namespace InvokeWorker.Percent

variable [Interpreter]

/-- The arguments of a message. -/
inductive Arguments where
  /-- A sequence, of which these are left. -/
  | sequence (rest : List Value)
  /-- A mapping, which itself may be taken as an argument once, and only before one of its values
      has been taken. -/
  | mapping (entries : List (Value × Value)) (untaken : Bool)

/-- How an argument is to be written. -/
structure Spec where
  /-- To the left of its field. -/
  left : Bool
  /-- With a plus sign if it is not negative. -/
  sign : Bool
  /-- With a space if it is not negative. -/
  blank : Bool
  /-- In the alternate form. -/
  alternate : Bool
  /-- With zeros up to the width. -/
  zero : Bool
  /-- The width of its field. -/
  width : Option Nat
  /-- The precision. -/
  precision : Option Nat
  deriving DecidableEq, Repr

/-- No flags, no width and no precision. -/
def Spec.plain : Spec := ⟨false, false, false, false, false, none, none⟩

/-- Too few arguments. -/
def notEnough : Thrown := .typeError "not enough arguments for format string"

/-- The message ends within a placeholder. -/
def incomplete : Thrown := .valueError "incomplete format"

/-- Takes the next argument. -/
def Arguments.next : Arguments → Except Thrown (Value × Arguments)
  | .sequence (v :: rest) => .ok (v, .sequence rest)
  | .sequence [] => .error notEnough
  | .mapping entries true => .ok (.mapping entries, .mapping entries false)
  | .mapping _ false => .error notEnough

/-- The key at the front of a text up to its closing parenthesis; inner parentheses are balanced. -/
def readKey : (open_ : Nat) → (read : Text) → Text → Option (Text × Text)
  | _, _, [] => none
  | opened, read, c :: rest =>
    if c = 41 then
      match opened with
      | 0 => some (read.reverse, rest)
      | opened + 1 => readKey opened (c :: read) rest
    else if c = 40 then readKey (opened + 1) (c :: read) rest
    else readKey opened (c :: read) rest

/-- Reads flags. -/
def readFlags (spec : Spec) : Text → Spec × Text
  | 45 :: rest => readFlags { spec with left := true } rest
  | 43 :: rest => readFlags { spec with sign := true } rest
  | 32 :: rest => readFlags { spec with blank := true } rest
  | 35 :: rest => readFlags { spec with alternate := true } rest
  | 48 :: rest => readFlags { spec with zero := true } rest
  | t => (spec, t)

/-- The sizes that fit a number of some bits with a sign. -/
structure SizeRange where
  /-- What is measured. -/
  name : Text
  /-- The type of such a number in the message about an argument that does not fit. -/
  type : Text
  /-- How many bits it has. -/
  bits : Nat

/-- Widths. -/
def SizeRange.width : SizeRange := ⟨"width", "ssize_t", 64⟩

/-- Precisions. -/
def SizeRange.precision : SizeRange := ⟨"precision", "int", 32⟩

/-- The number an argument that is a width or precision has to be. -/
def SizeRange.ofValue (r : SizeRange) : Value → Except Thrown Int
  | .int n =>
    if -2 ^ (r.bits - 1) ≤ n ∧ n < 2 ^ (r.bits - 1) then .ok n
    else .error (.builtin "OverflowError" ("Python int too large to convert to C " ++ r.type))
  | .bool b => .ok (if b then 1 else 0)
  | _ => .error (.typeError "* wants int")

/-- The number that digits in the format denote. -/
def SizeRange.ofDigits (r : SizeRange) (digits : Text) : Except Thrown Nat :=
  let n := Text.digitsValue digits
  if n < 2 ^ (r.bits - 1) then .ok n else .error (.valueError (r.name ++ " too big"))

/-- Reads a width: digits, or an asterisk for an argument. A negative one puts the text to the
    left. -/
def readWidth (spec : Spec) (args : Arguments) (t : Text) :
    Except Thrown (Spec × Arguments × Text) :=
  match t with
  | 42 :: rest => do
    let (v, args) ← args.next
    let n ← SizeRange.width.ofValue v
    return ({ spec with width := some n.natAbs, left := spec.left || n < 0 }, args, rest)
  | t => match t.takeWhile CodePoint.isDigit with
    | [] => .ok (spec, args, t)
    | digits => do
      let n ← SizeRange.width.ofDigits digits
      return ({ spec with width := some n }, args, t.dropWhile CodePoint.isDigit)

/-- Reads a precision behind a point: digits, or an asterisk for an argument. -/
def readPrecision (spec : Spec) (args : Arguments) (t : Text) :
    Except Thrown (Spec × Arguments × Text) :=
  match t with
  | 46 :: 42 :: rest => do
    let (v, args) ← args.next
    let n ← SizeRange.precision.ofValue v
    return ({ spec with precision := some n.toNat }, args, rest)
  | 46 :: rest => do
    let n ← SizeRange.precision.ofDigits (rest.takeWhile CodePoint.isDigit)
    return ({ spec with precision := some n }, args, rest.dropWhile CodePoint.isDigit)
  | t => .ok (spec, args, t)

/-- A text in its field. `mark` is a sign and a base that stay in front of padding zeros. -/
def pad (spec : Spec) (zeros : Bool) (mark body : Text) : Text :=
  let missing := spec.width.getD 0 - (mark.length + body.length)
  if spec.left then mark ++ body ++ List.replicate missing 32
  else if zeros then mark ++ List.replicate missing 48 ++ body
  else List.replicate missing 32 ++ mark ++ body

/-- The sign of a number. -/
def signOf (spec : Spec) (negative : Bool) : Text :=
  if negative then [45] else if spec.sign then [43] else if spec.blank then [32] else []

/-- The integer an argument is; a number is cut to one if `cut`. -/
def integer (letter : CodePoint) (cut : Bool) (v : Value) : Except Thrown Int :=
  let refuse : Except Thrown Int :=
    let wanted : Text := if cut then "a real number" else "an integer"
    .error (.typeError ([37, letter] ++ (" format: " : Text) ++ wanted
      ++ (" is required, not " : Text) ++ v.plainTypeName))
  match v with
  | .int n => .ok n
  | .bool b => .ok (if b then 1 else 0)
  | .custom ⟨_, .int n, _⟩ => .ok n
  | .float d =>
    if cut then match d with
      | .nan => .error (.valueError "cannot convert float NaN to integer")
      | .infinity _ =>
        .error (.builtin "OverflowError" "cannot convert float infinity to integer")
      | d => .ok (d.truncate.getD 0)
    else refuse
  | _ => refuse

/-- Writes an integer in a base behind a mark of the base. -/
def writeInteger (spec : Spec) (base : Nat) (mark : Text) (upper : Bool) (n : Int) :
    Except Thrown Text :=
  if spec.precision.getD 0 + 3 ≥ 2 ^ 31 then
    .error (.builtin "OverflowError" "precision too large")
  else if base = 10 ∧ (Text.ofBoundedInt? n).isNone then .error .tooManyDigits
  else
    let digits := Text.digitsOnto base n.natAbs []
    let digits := if upper then digits.map fun c =>
        if 97 ≤ c.val ∧ c.val ≤ 122 then CodePoint.ofNat (c.val - 32) else c
      else digits
    let body := Text.padLeft (spec.precision.getD 0) 48 digits
    let mark := if spec.alternate then mark else []
    .ok (pad spec spec.zero (signOf spec (n < 0) ++ mark) body)

/-- The number an argument is. -/
def double (v : Value) : Except Thrown Double :=
  match v with
  | .float d => .ok d
  | .int n => .ok (.ofIntRatio n 1)
  | .bool b => .ok (.ofIntRatio (if b then 1 else 0) 1)
  | .custom ⟨_, .int n, _⟩ => .ok (.ofIntRatio n 1)
  | v => .error (.typeError ("must be real number, not " ++ v.plainTypeName))

/-- A text in upper case. -/
def upper (t : Text) : Text :=
  t.map fun c => if 97 ≤ c.val ∧ c.val ≤ 122 then CodePoint.ofNat (c.val - 32) else c

/-- Writes a number as the lower-case form of a letter says. -/
def writeDouble (spec : Spec) (letter : CodePoint) (d : Double) : Text :=
  let places := spec.precision.getD 6
  let (negative, body) : Bool × Text := match d with
    | .nan => (false, "nan")
    | .infinity negative => (negative, "inf")
    | .finite negative m e =>
      (negative,
        if letter.toLower = 101 then Double.scientificMagnitude spec.alternate places m e
        else if letter.toLower = 102 then Double.fixedMagnitude spec.alternate places m e
        else Double.generalMagnitude spec.alternate places m e)
  pad spec spec.zero (signOf spec negative) (if letter.val < 97 then upper body else body)

/-- The code point an argument is. -/
def character (v : Value) : Except Thrown CodePoint :=
  match v with
  | .text [c] => .ok c
  | .int n =>
    if h : 0 ≤ n ∧ n < 0x110000 then .ok ⟨n.toNat, by omega⟩
    else .error (.builtin "OverflowError" "%c arg not in range(0x110000)")
  | .bool b => .ok (if b then 1 else 0)
  | _ => .error (.typeError "%c requires int or char")

/-- Writes an argument's text, cut to the precision. -/
def writeText (spec : Spec) (t : Text) : Text :=
  pad spec false [] (match spec.precision with
    | none => t
    | some n => t.take n)

/-- Writes an argument as a letter says. `position` is that of the letter in the message. -/
def write (spec : Spec) (letter : CodePoint) (position : Nat) (v : Value) : Except Thrown Text :=
  if letter = 115 then v.display.map (writeText spec)
  else if letter = 114 then (v.literal nestingLimit).map (writeText spec)
  else if letter = 97 then
    (v.literal nestingLimit).map fun t => writeText spec
      (t.flatMap fun c => if c.isAscii then [c] else c.numbered)
  else if letter = 100 ∨ letter = 105 ∨ letter = 117 then do
    writeInteger spec 10 [] false (← integer letter true v)
  else if letter = 111 then do writeInteger spec 8 "0o" false (← integer letter false v)
  else if letter = 120 then do writeInteger spec 16 "0x" false (← integer letter false v)
  else if letter = 88 then do writeInteger spec 16 "0X" true (← integer letter false v)
  else if letter = 99 then (character v).map fun c => pad spec false [] [c]
  else if letter.toLower = 101 ∨ letter.toLower = 102 ∨ letter.toLower = 103 then
    (double v).map (writeDouble spec letter)
  else
    let shown : CodePoint := if 31 ≤ letter.val ∧ letter.val ≤ 126 then letter else 63
    .error (.valueError (("unsupported format character '" : Text) ++ [shown] ++ ("' (0x" : Text)
      ++ Text.hex 1 letter.val ++ (") at index " : Text) ++ Text.ofNat position))

/-- Writes the argument of the placeholder at the front of a text, the percent sign already read. -/
def argument (total : Nat) (args : Arguments) (t : Text) :
    Except Thrown (Text × Arguments × Text) := do
  let (args, t) ← match t with
    | 40 :: rest => match args with
      | .sequence _ => throw (.typeError "format requires a mapping")
      | .mapping entries _ => match readKey 0 [] rest with
        | none => throw (.valueError "incomplete format key")
        | some (key, rest) => match Value.lookup? entries (.text key) with
          | none => throw ⟨.builtin "KeyError", [.text key], .plain⟩
          | some v => pure (Arguments.sequence [v], rest)
    | t => pure (args, t)
  let (spec, t) := readFlags .plain t
  let (spec, args, t) ← readWidth spec args t
  let (spec, args, t) ← readPrecision spec args t
  let t := match t with
    | c :: rest => if c = 104 ∨ c = 108 ∨ c = 76 then rest else c :: rest
    | [] => []
  match t with
  | [] => throw incomplete
  | letter :: rest =>
    let (v, args) ← args.next
    return (← write spec letter (total - rest.length - 1) v, args, rest)

/-- Writes the placeholder at the front of a text, the percent sign already read. A second percent
    sign stands for one; anything else takes an argument. -/
def placeholder (total : Nat) (args : Arguments) (t : Text) :
    Except Thrown (Text × Arguments × Text) :=
  match t with
  | 37 :: rest => .ok ([37], args, rest)
  | t => argument total args t

/-- Writes a message behind what is written so far (last piece first). Arguments taken from a
    mapping do not count, those of a sequence must all be taken. -/
def formatOnto (total : Nat) (all : Arguments) : (fuel : Nat) → (written : List Text) →
    Arguments → Text → Except Thrown Text
  | 0, written, _, _ => .ok written.reverse.flatten
  | fuel + 1, written, args, t =>
    match t with
    | [] => match args with
      | .sequence (_ :: _) =>
        .error (.typeError "not all arguments converted during string formatting")
      | _ => .ok written.reverse.flatten
    | 37 :: rest => match placeholder total args rest with
      | .error e => .error e
      | .ok (piece, args, rest) =>
        let args := match all, args with
          | .mapping entries _, .sequence _ => .mapping entries false
          | _, args => args
        formatOnto total all fuel (piece :: written) args rest
    | c :: _ =>
      let plain := t.takeWhile (· ≠ 37)
      formatOnto total all fuel ((c :: plain.drop 1) :: written) args (t.dropWhile (· ≠ 37))

/-- A message with its arguments written into it. -/
def format (t : Text) (args : Arguments) : Except Thrown Text :=
  formatOnto t.length args (2 * t.length + 2) [] args t

/-- The arguments of a log message: a single mapping that is not empty is taken for the mapping. -/
def Arguments.of (args : List Value) : Arguments :=
  match args with
  | [.mapping (e :: es)] => .mapping (e :: es) true
  | [.custom ⟨_, .mapping (e :: es), _⟩] => .mapping (e :: es) true
  | args => .sequence args

end InvokeWorker.Percent
