import InvokeWorker.Json.Document

/-!
# Reading JSON

A reader of JSON texts that says where and why a text is none. Besides the grammar it accepts the
names `NaN`, `Infinity` and `-Infinity`. What is read may be nested only so deeply and integers may
have only so many digits; and whether a surrogate may stand alone in a text is for the caller to
say (`JsonRules`).

A fault names the place by what was left to read there, from which `JsonFault.message` computes
line and column. The reader is driven by a fuel that exceeds the number of its steps.
-/

namespace InvokeWorker

/-- What a reader lets pass. -/
structure JsonRules where
  /-- How deeply arrays and objects may be nested. -/
  depth : Nat
  /-- Whether a surrogate may stand alone in a text. -/
  loneSurrogates : Bool
  deriving DecidableEq, Repr

/-- What is wrong at some place of a JSON text. -/
inductive JsonFlaw where
  /-- No value starts here. -/
  | value
  /-- The text that starts here does not end. -/
  | unterminated
  /-- A control character stands in a text. -/
  | control
  /-- A backslash is followed by none of the known letters. -/
  | escape
  /-- A `\u` is not followed by four digits and more. -/
  | unicodeEscape
  /-- The name of a member is missing. -/
  | name
  /-- A colon is missing. -/
  | colon
  /-- A comma is missing. -/
  | comma
  /-- Something follows the document. -/
  | extra
  deriving DecidableEq, Repr

/-- Why a text is refused. -/
inductive JsonFault where
  /-- The text is malformed where `rest` of its code points are left. -/
  | malformed (flaw : JsonFlaw) (rest : Nat)
  /-- An integer has this many digits. -/
  | digits (count : Nat)
  /-- An array or, if `object`, an object is nested too deeply. -/
  | tooDeep (object : Bool)
  /-- A surrogate stands alone. -/
  | loneSurrogate
  deriving DecidableEq, Repr

/-- The wording of a flaw. -/
def JsonFlaw.message : JsonFlaw → Text
  | .value => "Expecting value"
  | .unterminated => "Unterminated string starting at"
  | .control => "Invalid control character at"
  | .escape => "Invalid \\escape"
  | .unicodeEscape => "Invalid \\uXXXX escape"
  | .name => "Expecting property name enclosed in double quotes"
  | .colon => "Expecting ':' delimiter"
  | .comma => "Expecting ',' delimiter"
  | .extra => "Extra data"

/-- The message of a fault in a text: a place is given by line, column and number of code points
    before it. -/
def JsonFault.message (t : Text) : JsonFault → Text
  | .malformed flaw rest =>
    let place := t.length - rest
    let before := t.take place
    let line := before.count 10 + 1
    let column := (before.reverse.takeWhile (· ≠ 10)).length + 1
    flaw.message ++ ": line " ++ Text.ofNat line ++ " column " ++ Text.ofNat column
      ++ " (char " ++ Text.ofNat place ++ ")"
  | .digits count =>
    "Exceeds the limit (4300 digits) for integer string conversion: value has "
      ++ Text.ofNat count ++ " digits; use sys.set_int_max_str_digits() to increase the limit"
  | .tooDeep object =>
    "maximum recursion depth exceeded while decoding a JSON "
      ++ (if object then ("object" : Text) else "array") ++ " from a unicode string"
  | .loneSurrogate => "lone surrogate"

namespace Json

/-- White space between tokens. -/
def isSpace (c : CodePoint) : Bool :=
  c = 32 || c = 9 || c = 10 || c = 13

/-- The text behind its leading white space. -/
def skipSpace (t : Text) : Text :=
  t.dropWhile isSpace

/-- The number of four hexadecimal digits. -/
def unit? (a b c d : CodePoint) : Option Nat := do
  let a ← a.hexDigit?
  let b ← b.hexDigit?
  let c ← c.hexDigit?
  let d ← d.hexDigit?
  return ((a * 16 + b) * 16 + c) * 16 + d

/-- The code point a backslash and a letter stand for. -/
def simpleEscape? (c : CodePoint) : Option CodePoint :=
  if c = 34 ∨ c = 92 ∨ c = 47 then some c
  else if c = 98 then some 8
  else if c = 102 then some 12
  else if c = 110 then some 10
  else if c = 114 then some 13
  else if c = 116 then some 9
  else none

/-- The rest of a text behind `\u` and four digits, with the number they give. At least one more
    code point must follow. -/
def unitEscape? : Text → Option (Nat × Text)
  | a :: b :: c :: d :: e :: rest => (unit? a b c d).map fun n => (n, e :: rest)
  | _ => none

/-- Reads a second unit escape, if one follows. -/
def followingEscape : Text → Option (Option Nat × Text)
  | 92 :: 117 :: a :: b :: c :: d :: e :: rest => some (unit? a b c d, e :: rest)
  | _ => none

/-- Adds the code point of a unit, in front of the code points read so far, unless it must not
    stand alone. -/
def addUnit (rules : JsonRules) (n : Nat) (read : Text) : Except JsonFault Text :=
  let c := CodePoint.ofNat n
  if c.isSurrogate ∧ !rules.loneSurrogates then .error .loneSurrogate else .ok (c :: read)

/-- Reads the rest of a text whose opening quote stands at the front of `start`, behind the code
    points read so far (last first). Two unit escapes that are a high and a low surrogate are one
    code point. -/
def readText (rules : JsonRules) (start : Text) : (fuel : Nat) → Text → Text →
    Except JsonFault (Text × Text)
  | 0, _, _ => .error (.malformed .unterminated start.length)
  | fuel + 1, read, t =>
    match t with
    | [] => .error (.malformed .unterminated start.length)
    | c :: rest =>
      if c = 34 then .ok (read.reverse, rest)
      else if c ≠ 92 then
        if c.val < 32 then .error (.malformed .control t.length)
        else readText rules start fuel (c :: read) rest
      else match rest with
        | [] => .error (.malformed .unterminated start.length)
        | e :: rest' =>
          if e ≠ 117 then
            match simpleEscape? e with
            | some c => readText rules start fuel (c :: read) rest'
            | none => .error (.malformed .escape t.length)
          else match unitEscape? rest' with
            | none => .error (.malformed .unicodeEscape rest.length)
            | some (n, after) =>
              if 0xD800 ≤ n ∧ n ≤ 0xDBFF then
                match followingEscape after with
                | some (none, _) => .error (.malformed .unicodeEscape (after.length - 1))
                | some (some m, after') =>
                  if 0xDC00 ≤ m ∧ m ≤ 0xDFFF then
                    let joined := 0x10000 + (n - 0xD800) * 0x400 + (m - 0xDC00)
                    readText rules start fuel (.ofNat joined :: read) after'
                  else match addUnit rules n read with
                    | .error fault => .error fault
                    | .ok read => readText rules start fuel read after
                | none => match addUnit rules n read with
                  | .error fault => .error fault
                  | .ok read => readText rules start fuel read after
              else match addUnit rules n read with
                | .error fault => .error fault
                | .ok read => readText rules start fuel read after

/-- The fraction at the front of a text: a point and at least one digit. -/
def fraction : Text → Text × Text
  | 46 :: rest =>
    match rest.takeWhile CodePoint.isDigit with
    | [] => ([], 46 :: rest)
    | digits => (digits, rest.dropWhile CodePoint.isDigit)
  | t => ([], t)

/-- The exponent at the front of a text: its letter, a sign and at least one digit. -/
def exponent (t : Text) : Option Int × Text :=
  match t with
  | e :: rest =>
    if e = 101 ∨ e = 69 then
      let (negative, digitsOn) := match rest with
        | 45 :: rest => (true, rest)
        | 43 :: rest => (false, rest)
        | rest => (false, rest)
      match digitsOn.takeWhile CodePoint.isDigit with
      | [] => (none, t)
      | digits =>
        let n : Int := Text.digitsValue digits
        (some (if negative then -n else n), digitsOn.dropWhile CodePoint.isDigit)
    else (none, t)
  | [] => (none, t)

/-- The integer part at the front of a text: one zero, or digits that do not start with one. -/
def integerPart (t : Text) : Text × Text :=
  match t with
  | 48 :: rest => ([48], rest)
  | t => (t.takeWhile CodePoint.isDigit, t.dropWhile CodePoint.isDigit)

/-- Reads a number. -/
def readNumber (t : Text) : Except JsonFault (Document × Text) :=
  let (negative, unsigned) := match t with
    | 45 :: rest => (true, rest)
    | t => (false, t)
  match integerPart unsigned with
  | ([], _) => .error (.malformed .value t.length)
  | (digits, rest) =>
    let (decimals, rest) := fraction rest
    let (power, rest) := exponent rest
    if decimals.isEmpty ∧ power.isNone then
      if Text.maxDigits < digits.length then .error (.digits digits.length)
      else
        let n : Int := Text.digitsValue digits
        .ok (.int (if negative then -n else n), rest)
    else
      let d := Double.ofDecimal negative (Text.digitsValue (digits ++ decimals))
        (power.getD 0 - decimals.length)
      .ok (.float d, rest)

/-- The names of constants and what they stand for. -/
def constants : List (Text × Document) :=
  [("null", .null), ("true", .bool true), ("false", .bool false), ("NaN", .float .nan),
    ("Infinity", .float (.infinity false)), ("-Infinity", .float (.infinity true))]

/-- Reads a constant, if one stands at the front of a text. -/
def readConstant? (t : Text) : Option (Document × Text) :=
  constants.findSome? fun (name, d) => (Text.after? name t).map fun rest => (d, rest)

mutual

/-- Reads a value that starts with the text's first code point. -/
def readValue (rules : JsonRules) : (fuel depth : Nat) → Text → Except JsonFault (Document × Text)
  | 0, _, t => .error (.malformed .value t.length)
  | fuel + 1, depth, t =>
    match t with
    | [] => .error (.malformed .value 0)
    | c :: rest =>
      if c = 34 then
        (readText rules t (fuel + 1) [] rest).map fun (s, rest) => (.text s, rest)
      else if c = 123 then
        match depth with
        | 0 => .error (.tooDeep true)
        | depth + 1 =>
          match skipSpace rest with
          | 125 :: rest => .ok (.object [], rest)
          | rest => readMembers rules fuel depth [] rest
      else if c = 91 then
        match depth with
        | 0 => .error (.tooDeep false)
        | depth + 1 =>
          match skipSpace rest with
          | 93 :: rest => .ok (.array [], rest)
          | rest => readItems rules fuel depth [] rest
      else match readConstant? t with
        | some read => .ok read
        | none => readNumber t

/-- Reads the items of an array behind those read so far (last first), up to its bracket. -/
def readItems (rules : JsonRules) : (fuel depth : Nat) → List Document → Text →
    Except JsonFault (Document × Text)
  | 0, _, _, t => .error (.malformed .value t.length)
  | fuel + 1, depth, read, t =>
    match readValue rules fuel depth t with
    | .error fault => .error fault
    | .ok (d, rest) =>
      match skipSpace rest with
      | 93 :: rest => .ok (.array (d :: read).reverse, rest)
      | 44 :: rest => readItems rules fuel depth (d :: read) (skipSpace rest)
      | rest => .error (.malformed .comma rest.length)

/-- Reads the members of an object behind those read so far (last first), up to its brace. -/
def readMembers (rules : JsonRules) : (fuel depth : Nat) → List (Text × Document) → Text →
    Except JsonFault (Document × Text)
  | 0, _, _, t => .error (.malformed .name t.length)
  | fuel + 1, depth, read, t =>
    match t with
    | 34 :: rest =>
      match readText rules t (fuel + 1) [] rest with
      | .error fault => .error fault
      | .ok (name, rest) =>
        match skipSpace rest with
        | 58 :: rest =>
          match readValue rules fuel depth (skipSpace rest) with
          | .error fault => .error fault
          | .ok (d, rest) =>
            match skipSpace rest with
            | 125 :: rest => .ok (.object (Document.mergeMembers ((name, d) :: read).reverse), rest)
            | 44 :: rest => readMembers rules fuel depth ((name, d) :: read) (skipSpace rest)
            | rest => .error (.malformed .comma rest.length)
        | rest => .error (.malformed .colon rest.length)
    | t => .error (.malformed .name t.length)

end

/-- The document of a JSON text, white space around it aside. -/
def read (rules : JsonRules) (t : Text) : Except JsonFault Document :=
  match readValue rules (2 * t.length + 2) rules.depth (skipSpace t) with
  | .error fault => .error fault
  | .ok (d, rest) =>
    match skipSpace rest with
    | [] => .ok d
    | rest => .error (.malformed .extra rest.length)

end Json

end InvokeWorker
