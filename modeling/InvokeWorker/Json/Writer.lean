import InvokeWorker.Json.Document
import InvokeWorker.Number.Shortest

/-!
# Writing JSON

A document is written in one of three styles. They differ in the white space behind commas and
colons, in whether texts are kept to ASCII, and in how doubles are written. In all of them a text
is written between double quotes; the quote, the backslash and the control characters are escaped,
five of these by a letter.

`Document.render` builds the text from the end of what is written so far, so that long arrays cost
no stack.
-/

namespace InvokeWorker

/-- How documents are written. -/
structure JsonStyle where
  /-- What separates items and members. -/
  comma : Text
  /-- What separates a member's name from its value. -/
  colon : Text
  /-- Whether code points beyond the visible ASCII characters are escaped. -/
  asciiOnly : Bool
  /-- How doubles are written. -/
  number : Double → Text

namespace JsonStyle

/-- Doubles with signed two-digit exponents, the special ones by name. -/
def named (d : Double) : Text :=
  d.toText .signedExponent "NaN" "Infinity"

/-- Doubles with plain exponents, the special ones as `null`. -/
def finiteOrNull (d : Double) : Text :=
  match d with
  | .finite .. => d.toText .plainExponent [] []
  | _ => "null"

/-- ASCII without white space, as response bodies are written. -/
def compact : JsonStyle := ⟨",", ":", true, named⟩

/-- ASCII with spaces. -/
def spaced : JsonStyle := ⟨", ", ": ", true, named⟩

/-- Spaces, and code points as they are, as log lines are written. -/
def readable : JsonStyle := ⟨", ", ": ", false, named⟩

/-- Neither spaces nor escapes beyond the necessary ones, as reports are written. -/
def wire : JsonStyle := ⟨",", ":", false, finiteOrNull⟩

/-- A UTF-16 unit by number. -/
def escapedUnit (n : Nat) : Text :=
  ("\\u" : Text) ++ Text.hex 4 n

/-- A code point within a text. -/
def escaped (style : JsonStyle) (c : CodePoint) : Text :=
  if c = 34 ∨ c = 92 then [92, c]
  else if c = 8 then "\\b"
  else if c = 12 then "\\f"
  else if c = 10 then "\\n"
  else if c = 13 then "\\r"
  else if c = 9 then "\\t"
  else if c.val < 32 then escapedUnit c.val
  else if style.asciiOnly ∧ 126 < c.val then
    if c.val < 0x10000 then escapedUnit c.val
    else escapedUnit (0xD800 + (c.val - 0x10000) / 0x400)
      ++ escapedUnit (0xDC00 + (c.val - 0x10000) % 0x400)
  else [c]

/-- A text between double quotes. -/
def quoted (style : JsonStyle) (t : Text) : Text :=
  34 :: t.flatMap style.escaped ++ [34]

end JsonStyle

mutual

/-- Writes a document behind what is written so far, both reversed. -/
def Document.writeOnto (style : JsonStyle) : Document → Text → Text
  | .null, written => ("null" : Text).reverseAux written
  | .bool true, written => ("true" : Text).reverseAux written
  | .bool false, written => ("false" : Text).reverseAux written
  | .int n, written => (Text.ofInt n).reverseAux written
  | .float d, written => (style.number d).reverseAux written
  | .text t, written => (style.quoted t).reverseAux written
  | .array [], written => 93 :: 91 :: written
  | .array (d :: ds), written =>
    93 :: Document.writeItemsOnto style ds (d.writeOnto style (91 :: written))
  | .object [], written => 125 :: 123 :: written
  | .object ((name, d) :: ms), written =>
    125 :: Document.writeMembersOnto style ms
      (d.writeOnto style (style.colon.reverseAux ((style.quoted name).reverseAux (123 :: written))))
termination_by structural d => d

/-- Writes further items of an array, each behind a comma. -/
def Document.writeItemsOnto (style : JsonStyle) : List Document → Text → Text
  | [], written => written
  | d :: ds, written =>
    Document.writeItemsOnto style ds (d.writeOnto style (style.comma.reverseAux written))
termination_by structural ds => ds

/-- Writes further members of an object, each behind a comma. -/
def Document.writeMembersOnto (style : JsonStyle) : List (Text × Document) → Text → Text
  | [], written => written
  | (name, d) :: ms, written =>
    Document.writeMembersOnto style ms
      (d.writeOnto style
        (style.colon.reverseAux ((style.quoted name).reverseAux (style.comma.reverseAux written))))
termination_by structural ms => ms

end

/-- The text of a document. -/
def Document.render (style : JsonStyle) (d : Document) : Text :=
  (d.writeOnto style []).reverse

end InvokeWorker
