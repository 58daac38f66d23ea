import InvokeWorker.Text.Basic

/-!
# UTF-8

Encoding of texts as UTF-8 and its decoding, by the well-formed sequences of the Unicode
standard. A surrogate has no strict encoding: `encode?` refuses a text that holds one and says
where. `decode?` reads the longest well-formed sequence at each position and says what is wrong
with the first ill-formed one; a reader that lets surrogates pass takes their three-octet form as
well.
-/

namespace InvokeWorker.Utf8

/-- The octets of a code point; a surrogate gets the three octets of its number. -/
def units (c : CodePoint) : Bytes :=
  let n := c.val
  if n < 0x80 then [UInt8.ofNat n]
  else if n < 0x800 then [UInt8.ofNat (0xC0 + n / 0x40), UInt8.ofNat (0x80 + n % 0x40)]
  else if n < 0x10000 then
    [UInt8.ofNat (0xE0 + n / 0x1000), UInt8.ofNat (0x80 + n / 0x40 % 0x40),
      UInt8.ofNat (0x80 + n % 0x40)]
  else
    [UInt8.ofNat (0xF0 + n / 0x40000), UInt8.ofNat (0x80 + n / 0x1000 % 0x40),
      UInt8.ofNat (0x80 + n / 0x40 % 0x40), UInt8.ofNat (0x80 + n % 0x40)]

/-- The octets of a text, surrogates included. -/
def encodeLax (t : Text) : Bytes :=
  t.flatMap units

/-- Where a text cannot be encoded: a run of surrogates. -/
structure Unencodable where
  /-- How many code points stand before the run. -/
  start : Nat
  /-- The surrogates of the run, at least one. -/
  run : Text
  deriving DecidableEq, Repr

/-- The first run of surrogates of a text, if it has any. -/
def unencodable? (t : Text) : Option Unencodable :=
  match t.dropWhile (!·.isSurrogate) with
  | [] => none
  | rest => some ⟨(t.takeWhile (!·.isSurrogate)).length, rest.takeWhile CodePoint.isSurrogate⟩

/-- The octets of a text without surrogates. -/
def encode? (t : Text) : Except Unencodable Bytes :=
  match unencodable? t with
  | some fault => .error fault
  | none => .ok (encodeLax t)

/-- Why octets are not UTF-8. -/
inductive Flaw where
  /-- No sequence starts with this octet. -/
  | start
  /-- The sequence goes on with an octet that cannot follow. -/
  | continuation
  /-- The octets end within a sequence. -/
  | truncated
  deriving DecidableEq, Repr

/-- An octet that continues a sequence. -/
def isContinuation (o : UInt8) : Bool :=
  0x80 ≤ o.toNat && o.toNat ≤ 0xBF

/-- The octets that may come second in a sequence of three or four. The lead octets `E0` and `F0`
    exclude overlong forms, `ED` the surrogates and `F4` what lies beyond the last code point. -/
def isSecond (lead second : UInt8) : Bool :=
  isContinuation second &&
    (if lead = 0xE0 then 0xA0 ≤ second.toNat
      else if lead = 0xED then second.toNat < 0xA0
      else if lead = 0xF0 then 0x90 ≤ second.toNat
      else if lead = 0xF4 then second.toNat < 0x90
      else true)

/-- The three octets of a surrogate. -/
def isSurrogateForm (a b c : UInt8) : Bool :=
  a = 0xED && 0xA0 ≤ b.toNat && b.toNat ≤ 0xBF && isContinuation c

/-- The six payload bits of a continuation octet. -/
def payload (o : UInt8) : Nat :=
  o.toNat % 0x40

/-- What stands at the front of a sequence of octets. -/
inductive Front where
  /-- The end. -/
  | done
  /-- A code point and the octets after it. -/
  | point (c : CodePoint) (rest : Bytes)
  /-- An ill-formed sequence of `length` octets. -/
  | flaw (kind : Flaw) (length : Nat)

/-- Reads the first code point. -/
def front (surrogates : Bool) : Bytes → Front
  | [] => .done
  | a :: rest =>
    if a < 0x80 then .point (.ofNat a.toNat) rest
    else if a < 0xC2 then .flaw .start 1
    else if a < 0xE0 then
      match rest with
      | [] => .flaw .truncated 1
      | b :: rest =>
        if isContinuation b then .point (.ofNat (a.toNat % 0x20 * 0x40 + payload b)) rest
        else .flaw .continuation 1
    else if a < 0xF0 then
      match rest with
      | [] => .flaw .truncated 1
      | [b] => if isSecond a b then .flaw .truncated 2 else .flaw .continuation 1
      | b :: c :: rest =>
        if isSecond a b && isContinuation c || surrogates && isSurrogateForm a b c then
          .point (.ofNat (a.toNat % 0x10 * 0x1000 + payload b * 0x40 + payload c)) rest
        else if isSecond a b then .flaw .continuation 2
        else .flaw .continuation 1
    else if a < 0xF5 then
      match rest with
      | [] => .flaw .truncated 1
      | [b] => if isSecond a b then .flaw .truncated 2 else .flaw .continuation 1
      | [b, c] =>
        if !isSecond a b then .flaw .continuation 1
        else if isContinuation c then .flaw .truncated 3 else .flaw .continuation 2
      | b :: c :: d :: rest =>
        if !isSecond a b then .flaw .continuation 1
        else if !isContinuation c then .flaw .continuation 2
        else if !isContinuation d then .flaw .continuation 3
        else .point (.ofNat (a.toNat % 8 * 0x40000 + payload b * 0x1000 + payload c * 0x40
          + payload d)) rest
    else .flaw .start 1

/-- Each code point read is paid for by at least one octet. -/
theorem front_rest_lt {surrogates : Bool} {b rest : Bytes} {c : CodePoint}
    (h : front surrogates b = .point c rest) : rest.length < b.length := by
  unfold front at h
  repeat' split at h
  all_goals first
    | contradiction
    | (simp only [Front.point.injEq] at h
       obtain ⟨-, rfl⟩ := h
       simp only [List.length_cons]
       omega)

/-- Where octets stop being UTF-8. -/
structure Undecodable where
  /-- How many octets stand before the ill-formed sequence. -/
  start : Nat
  /-- The octets of the ill-formed sequence, at least one. -/
  run : Bytes
  /-- What is wrong with it. -/
  kind : Flaw
  deriving DecidableEq, Repr

/-- Decodes what is left of the octets behind the code points read so far (last first). -/
def decodeOnto (surrogates : Bool) (total : Nat) (read : Text) (b : Bytes) :
    Except Undecodable Text :=
  match _h : front surrogates b with
  | .done => .ok read.reverse
  | .point c rest => decodeOnto surrogates total (c :: read) rest
  | .flaw kind length => .error ⟨total - b.length, b.take length, kind⟩
termination_by b.length
decreasing_by exact front_rest_lt _h

/-- The text of a sequence of octets; `surrogates` may pass in their three-octet form. -/
def decode? (surrogates : Bool) (b : Bytes) : Except Undecodable Text :=
  decodeOnto surrogates b.length [] b

/-- The text of well-formed UTF-8, if the octets are that. -/
def text? (b : Bytes) : Option Text :=
  (decode? false b).toOption

end InvokeWorker.Utf8
