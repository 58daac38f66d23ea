import InvokeWorker.Text.Utf8

/-!
# Detecting and decoding a text's encoding

A JSON text may arrive as UTF-8, UTF-16 or UTF-32. A byte-order mark decides; without one, the
place of the zero octets among the first four does, since a JSON text starts with an ASCII
character. Surrogates may stand alone in all three encodings.
-/

namespace InvokeWorker

/-- The encodings a text may arrive in. -/
inductive Encoding where
  /-- UTF-8, behind a byte-order mark if `marked`. -/
  | utf8 (marked : Bool)
  /-- UTF-16 of either byte order. -/
  | utf16 (marked bigEndian : Bool)
  /-- UTF-32 of either byte order. -/
  | utf32 (marked bigEndian : Bool)
  deriving DecidableEq, Repr

namespace Encoding

/-- The byte-order marks. Those of UTF-32 come first, as a mark of UTF-16 is the start of one. -/
def marks : List (Bytes × Encoding) :=
  [([0x00, 0x00, 0xFE, 0xFF], .utf32 true true), ([0xFF, 0xFE, 0x00, 0x00], .utf32 true false),
    ([0xFE, 0xFF], .utf16 true true), ([0xFF, 0xFE], .utf16 true false),
    ([0xEF, 0xBB, 0xBF], .utf8 true)]

/-- The encoding of a text without a mark whose first character, if any, is ASCII. -/
def ofZeros (b : Bytes) : Encoding :=
  match b with
  | [o₀, o₁] =>
    if o₀ = 0 then .utf16 false true else if o₁ = 0 then .utf16 false false else .utf8 false
  | o₀ :: o₁ :: o₂ :: o₃ :: _ =>
    if o₀ = 0 then if o₁ = 0 then .utf32 false true else .utf16 false true
    else if o₁ = 0 then if o₂ = 0 ∧ o₃ = 0 then .utf32 false false else .utf16 false false
    else .utf8 false
  | _ => .utf8 false

/-- The encoding of a text, by its mark or by its zeros. -/
def detect (b : Bytes) : Encoding :=
  match marks.find? fun mark => mark.1.isPrefixOf b with
  | some mark => mark.2
  | none => ofZeros b

/-- The encoding's name in messages. -/
def name : Encoding → Text
  | utf8 _ => "utf-8"
  | utf16 _ bigEndian => if bigEndian then "utf-16-be" else "utf-16-le"
  | utf32 _ bigEndian => if bigEndian then "utf-32-be" else "utf-32-le"

end Encoding

/-- Octets that are no text of the encoding they are read in. -/
structure DecodingFault where
  /-- The encoding. -/
  encoding : Encoding
  /-- How many octets stand before the ill-formed ones; a mark in front of UTF-8 is not counted. -/
  start : Nat
  /-- The ill-formed octets, at least one. -/
  run : Bytes
  /-- What is wrong with them. -/
  reason : Text
  deriving DecidableEq, Repr

namespace DecodingFault

/-- The message of a fault: one octet is shown, of several the positions. -/
def message (fault : DecodingFault) : Text :=
  "'" ++ fault.encoding.name ++ "' codec can't decode " ++
    (match fault.run with
      | [o] => ("byte 0x" : Text) ++ Text.hex 2 o.toNat ++ " in position " ++ Text.ofNat fault.start
      | run => ("bytes in position " : Text) ++ Text.ofNat fault.start ++ "-"
          ++ Text.ofNat (fault.start + run.length - 1)) ++
    ": " ++ fault.reason

end DecodingFault

namespace Utf8

/-- The wording of a flaw. -/
def Flaw.message : Flaw → Text
  | .start => "invalid start byte"
  | .continuation => "invalid continuation byte"
  | .truncated => "unexpected end of data"

/-- The message for a text that has no encoding: one surrogate is shown, of several the
    positions. -/
def Unencodable.message (fault : Unencodable) : Text :=
  "'utf-8' codec can't encode " ++
    (match fault.run with
      | [c] => ("character '\\u" : Text) ++ Text.hex 4 c.val ++ "' in position "
          ++ Text.ofNat fault.start
      | run => ("characters in position " : Text) ++ Text.ofNat fault.start ++ "-"
          ++ Text.ofNat (fault.start + run.length - 1)) ++
    ": surrogates not allowed"

end Utf8

namespace Wide

/-- The number of two octets. -/
def unit16 (bigEndian : Bool) (a b : UInt8) : Nat :=
  if bigEndian then a.toNat * 0x100 + b.toNat else b.toNat * 0x100 + a.toNat

/-- The number of four octets. -/
def unit32 (bigEndian : Bool) (a b c d : UInt8) : Nat :=
  if bigEndian then unit16 true a b * 0x10000 + unit16 true c d
  else unit16 false c d * 0x10000 + unit16 false a b

/-- Reads UTF-16 behind the code points read so far (last first). A low surrogate joins a high one
    in front of it. The octets left over, if their number is odd, are returned too. -/
def decode16Onto (bigEndian : Bool) (read : Text) : Bytes → Text × Bytes
  | a :: b :: rest =>
    let c := CodePoint.ofNat (unit16 bigEndian a b)
    match read with
    | high :: before =>
      if high.isHighSurrogate && c.isLowSurrogate then
        let joined := 0x10000 + (high.val - 0xD800) * 0x400 + (c.val - 0xDC00)
        decode16Onto bigEndian (.ofNat joined :: before) rest
      else decode16Onto bigEndian (c :: read) rest
    | [] => decode16Onto bigEndian [c] rest
  | rest => (read.reverse, rest)

/-- Reads UTF-32 behind the code points read so far (last first); `start` octets were read. -/
def decode32Onto (encoding : Encoding) (bigEndian : Bool) (start : Nat) (read : Text) :
    Bytes → Except DecodingFault Text
  | a :: b :: c :: d :: rest =>
    let n := unit32 bigEndian a b c d
    if n < 0x110000 then decode32Onto encoding bigEndian (start + 4) (.ofNat n :: read) rest
    else .error ⟨encoding, start, [a, b, c, d], "code point not in range(0x110000)"⟩
  | [] => .ok read.reverse
  | rest => .error ⟨encoding, start, rest, "truncated data"⟩

end Wide

/-- The text of octets in an encoding, without the byte-order mark. -/
def Encoding.decode? (encoding : Encoding) (b : Bytes) : Except DecodingFault Text :=
  match encoding with
  | .utf8 marked =>
    match Utf8.decode? true (if marked then b.drop 3 else b) with
    | .ok t => .ok t
    | .error fault => .error ⟨encoding, fault.start, fault.run, fault.kind.message⟩
  | .utf16 marked bigEndian =>
    let mark := if marked then 2 else 0
    match Wide.decode16Onto bigEndian [] (b.drop mark) with
    | (t, []) => .ok t
    | (_, rest) => .error ⟨encoding, b.length - rest.length, rest, "truncated data"⟩
  | .utf32 marked bigEndian =>
    let mark := if marked then 4 else 0
    Wide.decode32Onto encoding bigEndian mark [] (b.drop mark)

end InvokeWorker
