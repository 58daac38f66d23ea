import InvokeWorker.Text.Blank
import InvokeWorker.Text.Utf8
import InvokeWorker.Value.Equal

/-!
# Lenient reading of values

Settings and reports declare the types of their fields but take more than values of these types:
a text may be given as bytes, an integer or a truth value as a text or as a number of another kind.
A value that cannot be taken is a *misfit*, of which the kind is reported.
-/

namespace InvokeWorker

/-- Why a value does not fit a declared type. -/
inductive Misfit where
  /-- The text of a document is no JSON. -/
  | notJson
  /-- It is no object of the declared shape. -/
  | model
  /-- It is no list. -/
  | list
  /-- The iteration that was to give a list has failed. -/
  | iteration
  /-- It is no text. -/
  | text
  /-- It is no well-formed text. -/
  | unicode
  /-- It is nothing an integer can be read from. -/
  | int
  /-- It is a text that is no integer. -/
  | intText
  /-- It is an integer of too many digits. -/
  | intSize
  /-- It is a number with a fraction. -/
  | fraction
  /-- It is an infinity or no number. -/
  | infinite
  /-- It is nothing a truth value can be read from. -/
  | bool
  /-- It is a text or number that is no truth value. -/
  | boolText
  /-- It is not given. -/
  | missing
  deriving DecidableEq, Repr

/-- The name a misfit is reported by. -/
def Misfit.name : Misfit → Text
  | .notJson => "json_invalid"
  | .model => "model_type"
  | .list => "list_type"
  | .iteration => "iteration_error"
  | .text => "string_type"
  | .unicode => "string_unicode"
  | .int => "int_type"
  | .intText => "int_parsing"
  | .intSize => "int_parsing_size"
  | .fraction => "int_from_float"
  | .infinite => "finite_number"
  | .bool => "bool_type"
  | .boolText => "bool_parsing"
  | .missing => "missing"

/-- A misfit and its place, from the outside in. -/
structure Misplaced where
  /-- The place. -/
  place : List Text
  /-- What does not fit there. -/
  misfit : Misfit
  deriving DecidableEq, Repr

namespace Misplaced

/-- The wording of a misfit at its place. -/
def message (m : Misplaced) : Text :=
  Text.join "." m.place ++ ": " ++ m.misfit.name

/-- The error several misfits are raised as. -/
def toThrown (ms : List Misplaced) : Thrown :=
  .validation (Text.join "; " (ms.map message))

end Misplaced

namespace Lenient

/-- White space around a number in a text. -/
def isPadding (c : CodePoint) : Bool :=
  c.isBlank && !(0x1C ≤ c.val && c.val ≤ 0x1F)

/-- A text without white space around it. -/
def unpadded (t : Text) : Text :=
  ((t.dropWhile isPadding).reverse.dropWhile isPadding).reverse

/-- Drops leading zeros in front of a digit or a point; nothing else may follow them. -/
def withoutZeros? (t : Text) : Option Text :=
  match t with
  | 48 :: _ =>
    match t.dropWhile (· = 48) with
    | [] => some [48]
    | 46 :: rest => some (48 :: 46 :: rest)
    | c :: rest => if c.isDigit then some (c :: rest) else none
  | 45 :: _ => some t
  | c :: _ => if c.isDigit then some t else none
  | [] => none

/-- Drops a point and the zeros behind it, at least one, at the end. -/
def withoutDecimals (t : Text) : Text :=
  match Text.cutFirst? 46 t with
  | some (before, after) => if !after.isEmpty && after.all (· = 48) then before else t
  | none => t

/-- Whether a text holds two neighbouring underscores. -/
def hasDoubleUnderscore : Text → Bool
  | 95 :: 95 :: _ => true
  | _ :: rest => hasDoubleUnderscore rest
  | [] => false

/-- Drops single underscores between other code points. -/
def withoutUnderscores (t : Text) : Text :=
  if t.head? = some 95 ∨ t.getLast? = some 95 ∨ hasDoubleUnderscore t then t
  else t.filter (· ≠ 95)

/-- The integer of a minus sign, if any, and digits. -/
def plainInt? (t : Text) : Option Int :=
  match t with
  | 45 :: digits =>
    if digits.isEmpty || !digits.all CodePoint.isDigit then none
    else some (-(Text.digitsValue digits : Int))
  | digits =>
    if digits.isEmpty || !digits.all CodePoint.isDigit then none
    else some (Text.digitsValue digits)

/-- The integer a text states: with white space around it, a sign, leading zeros, underscores
    between digits, and a fraction of zeros. -/
def intOfText (t : Text) : Except Misfit Int :=
  if t.hasSurrogate then .error .unicode
  else if Text.maxDigits < (Utf8.encodeLax t).length then .error .intSize
  else
    let unsigned := match unpadded t with
      | 43 :: 45 :: _ => []
      | 43 :: rest => rest
      | rest => rest
    match withoutZeros? unsigned with
    | none => .error .intText
    | some t => match plainInt? (withoutUnderscores (withoutDecimals t)) with
      | none => .error .intText
      | some n => .ok n

/-- The integer a number is. -/
def intOfDouble (d : Double) : Except Misfit Int :=
  if !d.isFinite then .error .infinite
  else match d.integer? with
    | none => .error .fraction
    | some n => if -(2 ^ 63) < n ∧ n < 2 ^ 63 then .ok n else .error .intSize

/-- Texts that mean yes. -/
def yes : List Text := ["1", "t", "true", "y", "yes", "on"]

/-- Texts that mean no. -/
def no : List Text := ["0", "f", "false", "n", "no", "off"]

/-- The truth value a text states, in any case. -/
def boolOfText (t : Text) : Except Misfit Bool :=
  if t.hasSurrogate then .error .unicode
  else if yes.contains t.toLower then .ok true
  else if no.contains t.toLower then .ok false
  else .error .boolText

/-- The truth value an integer is. -/
def boolOfInt (n : Int) : Except Misfit Bool :=
  if n = 0 then .ok false else if n = 1 then .ok true else .error .boolText

/-- A text or the immutable octets of one; `none` if a value is neither. -/
def spelled? : Value → Option (Text ⊕ Bytes)
  | .text t => some (.inl t)
  | .bytes b => some (.inr b)
  | .custom ⟨_, .text t, _⟩ => some (.inl t)
  | .custom ⟨_, .bytes b, _⟩ => some (.inr b)
  | _ => none

/-- The text octets stand for. -/
def textOfOctets (b : Bytes) : Except Misfit Text :=
  match Utf8.text? b with
  | some t => .ok t
  | none => .error .unicode

/-- The text a value is. A text is taken as it is, but one of a derived class has to be
    well formed. -/
def text (v : Value) : Except Misfit Text :=
  match v with
  | .text t => .ok t
  | .byteArray b => textOfOctets b
  | v => match spelled? v with
    | some (.inl t) => if t.hasSurrogate then .error .unicode else .ok t
    | some (.inr b) => textOfOctets b
    | none => .error .text

/-- The integer a value is or states. -/
def int (v : Value) : Except Misfit Int :=
  match v with
  | .int n => .ok n
  | .bool b => .ok (if b then 1 else 0)
  | .custom ⟨_, .int n, _⟩ => .ok n
  | .float d => intOfDouble d
  | v => match spelled? v with
    | some (.inl t) => intOfText t
    | some (.inr b) => match Utf8.text? b with
      | some t => intOfText t
      | none => .error .intText
    | none => .error .int

/-- The truth value a value is or states. -/
def bool (v : Value) : Except Misfit Bool :=
  match v with
  | .bool b => .ok b
  | .int n => boolOfInt n
  | .custom ⟨_, .int n, _⟩ => boolOfInt n
  | .float d => match d.integer? with
    | some n => boolOfInt n
    | none => .error .bool
  | v => match spelled? v with
    | some (.inl t) => boolOfText t
    | some (.inr b) => match Utf8.text? b with
      | some t => boolOfText t
      | none => .error .boolText
    | none => .error .bool

/-- What a value yields that may stand for a list: a container other than a mapping, or an
    iteration. -/
def pieces? : Value → Option Pieces
  | .list vs => some ⟨vs, none⟩
  | .tuple vs => some ⟨vs, none⟩
  | .set vs => some ⟨vs, none⟩
  | .frozenSet vs => some ⟨vs, none⟩
  | .selfList => some ⟨[.selfList], none⟩
  | .memoryView b => some ⟨b.map fun o => .int o.toNat, none⟩
  | .releasedView => some ⟨[], some .releasedView⟩
  | .generator p => some p
  | .custom ⟨_, .list vs, _⟩ => some ⟨vs, none⟩
  | .custom ⟨_, .tuple vs, _⟩ => some ⟨vs, none⟩
  | .custom ⟨_, .bare, own⟩ => own.pieces
  | _ => none

/-- The entries of a value that is a mapping. -/
def entries? : Value → Option (List (Value × Value))
  | .mapping es => some es
  | .custom ⟨_, .mapping es, _⟩ => some es
  | _ => none

end Lenient

end InvokeWorker
