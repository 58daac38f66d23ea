/-!
# Texts and bytes

A *text* is a list of code points. The surrogates `U+D800`…`U+DFFF` are code points like any
other, so a text may hold a lone one; that is why texts are not `String`s. A string literal is
read as the text of its characters wherever a text is expected.

The functions here cut texts at separators and write numbers in base ten or sixteen; what counts
as white space, how a text is quoted and how it is encoded are modules of their own.
-/

namespace InvokeWorker

-- Powers are those of the core library, also where other ones are in scope.
@[default_instance high]
instance natPower : Pow Nat Nat := instPowNat

@[default_instance high]
instance intPower : Pow Int Nat := instPowNat

/-- A Unicode code point; the surrogates are code points too. -/
abbrev CodePoint := Fin 0x110000

/-- There are code points, so a numeral stands for one. -/
instance CodePoint.neZero : @NeZero Nat Zero.ofOfNat0 0x110000 :=
  ⟨Nat.succ_ne_zero _⟩

/-- A text: a list of code points, lone surrogates included. -/
abbrev Text := List CodePoint

/-- A sequence of octets. -/
abbrev Bytes := List UInt8

namespace CodePoint

/-- The code point of a character. -/
def ofChar (c : Char) : CodePoint :=
  ⟨c.toNat, by
    have valid : c.val.toNat < 0xD800 ∨ 0xDFFF < c.val.toNat ∧ c.val.toNat < 0x110000 := c.valid
    show c.val.toNat < 0x110000
    omega⟩

/-- The code point of a number; numbers beyond the last code point become `U+FFFD`. -/
def ofNat (n : Nat) : CodePoint :=
  if h : n < 0x110000 then ⟨n, h⟩ else 0xFFFD

/-- A high surrogate, the first half of a pair. -/
def isHighSurrogate (c : CodePoint) : Bool :=
  0xD800 ≤ c.val && c.val ≤ 0xDBFF

/-- A low surrogate, the second half of a pair. -/
def isLowSurrogate (c : CodePoint) : Bool :=
  0xDC00 ≤ c.val && c.val ≤ 0xDFFF

/-- A surrogate: no UTF-8 sequence stands for it. -/
def isSurrogate (c : CodePoint) : Bool :=
  0xD800 ≤ c.val && c.val ≤ 0xDFFF

/-- One of the 128 ASCII code points. -/
def isAscii (c : CodePoint) : Bool :=
  c.val < 0x80

/-- An ASCII decimal digit. -/
def isDigit (c : CodePoint) : Bool :=
  48 ≤ c.val && c.val ≤ 57

/-- An ASCII letter. -/
def isLetter (c : CodePoint) : Bool :=
  (65 ≤ c.val && c.val ≤ 90) || (97 ≤ c.val && c.val ≤ 122)

/-- The value of a hexadecimal digit of either case. -/
def hexDigit? (c : CodePoint) : Option Nat :=
  if 48 ≤ c.val ∧ c.val ≤ 57 then some (c.val - 48)
  else if 65 ≤ c.val ∧ c.val ≤ 70 then some (c.val - 55)
  else if 97 ≤ c.val ∧ c.val ≤ 102 then some (c.val - 87)
  else none

/-- The lower case of an ASCII letter; every other code point stays. -/
def toLower (c : CodePoint) : CodePoint :=
  if 65 ≤ c.val ∧ c.val ≤ 90 then ofNat (c.val + 32) else c

/-- The digit that stands for a number below 36, in lower case. -/
def ofDigit (d : Nat) : CodePoint :=
  if d < 10 then ofNat (48 + d) else ofNat (87 + d)

end CodePoint

namespace Text

/-- The text of a string's characters. -/
def ofString (s : String) : Text :=
  s.toList.map CodePoint.ofChar

instance : Coe String Text := ⟨ofString⟩

/-- The digits of a number in a base, the most significant first, in front of `rest`. -/
def digitsOnto (base n : Nat) (rest : Text) : Text :=
  if _h : base < 2 ∨ n < base then CodePoint.ofDigit (n % max base 1) :: rest
  else digitsOnto base (n / base) (CodePoint.ofDigit (n % base) :: rest)
termination_by n
decreasing_by exact Nat.div_lt_self (by omega) (by omega)

/-- A natural number in base ten. -/
def ofNat (n : Nat) : Text :=
  digitsOnto 10 n []

/-- An integer in base ten, with a minus sign if it is negative. -/
def ofInt : Int → Text
  | .ofNat n => ofNat n
  | .negSucc n => 45 :: ofNat (n + 1)

/-- The most digits an integer may have to be read or written. -/
def maxDigits : Nat := 4300

/-- An integer in base ten, unless it has more than the permitted number of digits. -/
def ofBoundedInt? (n : Int) : Option Text :=
  if n.natAbs < 10 ^ maxDigits then some (ofInt n) else none

/-- `t` behind as many copies of `c` as bring it to `width` code points. -/
def padLeft (width : Nat) (c : CodePoint) (t : Text) : Text :=
  List.replicate (width - t.length) c ++ t

/-- A number in base sixteen, with leading zeros up to `width` digits. -/
def hex (width n : Nat) : Text :=
  padLeft width 48 (digitsOnto 16 n [])

/-- A natural number with leading zeros up to `width` digits. -/
def decimal (width n : Nat) : Text :=
  padLeft width 48 (ofNat n)

/-- The value of a run of decimal digits. -/
def digitsValue (t : Text) : Nat :=
  t.foldl (fun n c => 10 * n + (c.val - 48)) 0

/-- The parts between the occurrences of a separator, at least one. -/
def splitOn (separator : CodePoint) (t : Text) : List Text :=
  t.foldr
    (fun c parts =>
      if c = separator then [] :: parts
      else match parts with
        | [] => [[c]]
        | part :: rest => (c :: part) :: rest)
    [[]]

/-- What stands before and after the first occurrence of a separator. -/
def cutFirst? (separator : CodePoint) (t : Text) : Option (Text × Text) :=
  match t.dropWhile (· ≠ separator) with
  | [] => none
  | _ :: after => some (t.takeWhile (· ≠ separator), after)

/-- What stands before and after the last occurrence of a separator. -/
def cutLast? (separator : CodePoint) (t : Text) : Option (Text × Text) :=
  (cutFirst? separator t.reverse).map fun (after, before) => (before.reverse, after.reverse)

/-- The texts with a separator between neighbours. -/
def join (separator : Text) (ts : List Text) : Text :=
  List.intercalate separator ts

/-- What follows `start` in `t`, if `t` starts with it. -/
def after? : (start : Text) → (t : Text) → Option Text
  | [], t => some t
  | _ :: _, [] => none
  | c :: start, d :: t => if c = d then after? start t else none

/-- Whether `t` starts with `start`. -/
def startsWith (t start : Text) : Bool :=
  (after? start t).isSome

/-- Whether `t` ends with `finish`. -/
def endsWith (t finish : Text) : Bool :=
  startsWith t.reverse finish.reverse

/-- The text with its ASCII letters in lower case. -/
def toLower (t : Text) : Text :=
  t.map CodePoint.toLower

/-- Whether some code point of the text is a surrogate. -/
def hasSurrogate (t : Text) : Bool :=
  t.any CodePoint.isSurrogate

/-- Removes the duplicates of a list of texts, keeping first occurrences in order. -/
def distinct (ts : List Text) : List Text :=
  ts.foldl (fun seen t => if seen.contains t then seen else seen ++ [t]) []

end Text

/-- The bytes of a text of code points below 256; others are cut to their low octet. -/
def Bytes.ofAscii (t : Text) : Bytes :=
  t.map fun c => UInt8.ofNat c.val

/-- The text whose code points are the octets' values. -/
def Bytes.toLatin1 (b : Bytes) : Text :=
  b.map fun o => CodePoint.ofNat o.toNat

end InvokeWorker
