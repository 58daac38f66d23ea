import InvokeWorker.Text.Charset
import InvokeWorker.Text.Encoding
import InvokeWorker.Text.LowerCase

/-!
# Headers

The headers of an answer: names with octets as values. Names are compared without regard to case,
and the values of repeated headers are joined. The octets of all headers are read in one encoding:
ASCII if that fits, else UTF-8, else one code point for each octet. A name that is looked for is
written in this encoding first, which it may not have.
-/

namespace InvokeWorker

/-- The headers of an answer, in order. -/
abbrev Headers := List (Text × Bytes)

/-- An encoding of headers. -/
inductive HeaderEncoding where
  /-- ASCII. -/
  | ascii
  /-- UTF-8. -/
  | utf8
  /-- One code point for each octet. -/
  | latin1
  deriving DecidableEq, Repr

namespace HeaderEncoding

/-- Whether octets can be read. -/
def accepts : HeaderEncoding → Bytes → Bool
  | ascii, b => b.all (· < 0x80)
  | utf8, b => (Utf8.text? b).isSome
  | latin1, _ => true

/-- The text of octets that can be read. -/
def decode : HeaderEncoding → Bytes → Text
  | utf8, b => (Utf8.text? b).getD []
  | _, b => b.toLatin1

/-- The octets of a text, or a message why it has none. -/
def encode? : HeaderEncoding → Text → Except Text Bytes
  | ascii, t => Charset.ascii.encode? t
  | utf8, t => (Utf8.encode? t).mapError (·.message)
  | latin1, t => Charset.latin1.encode? t

end HeaderEncoding

/-- Octets with the ASCII letters among them in lower case. -/
def Bytes.toLower (b : Bytes) : Bytes :=
  b.map fun o => if 65 ≤ o ∧ o ≤ 90 then o + 32 else o

namespace Headers

/-- The encoding of headers: the first one that accepts all names and values. -/
def encoding (headers : Headers) : HeaderEncoding :=
  let octets := headers.flatMap fun (name, b) => [Utf8.encodeLax name, b]
  if octets.all HeaderEncoding.ascii.accepts then .ascii
  else if octets.all HeaderEncoding.utf8.accepts then .utf8
  else .latin1

/-- The value of the headers with a name, given in octets; empty if there are none. -/
def valueOf (headers : Headers) (name : Bytes) : Text :=
  let found := headers.filter fun (n, _) => Bytes.toLower (Utf8.encodeLax n) = name
  Text.join ", " (found.map fun (_, b) => headers.encoding.decode b)

/-- The value of a header, empty if there is none, or a message why the name has no encoding. -/
def find (headers : Headers) (name : Text) : Except Text Text :=
  (headers.encoding.encode? name.lowered).map headers.valueOf

/-- The value of a header; empty if there is none. -/
def get (headers : Headers) (name : Text) : Text :=
  (headers.find name).toOption.getD []

end Headers

namespace Header

/-- The id of the invoke. -/
def requestId : Text := "Lambda-Runtime-Aws-Request-Id"

/-- The deadline of the invoke. -/
def deadline : Text := "Lambda-Runtime-Deadline-Ms"

/-- The trace the invoke belongs to. -/
def trace : Text := "Lambda-Runtime-Trace-Id"

/-- The identity the invoke is made under. -/
def identity : Text := "Lambda-Runtime-Cognito-Identity"

/-- The application the invoke comes from. -/
def clientContext : Text := "Lambda-Runtime-Client-Context"

/-- The name of the function that is invoked. -/
def functionArn : Text := "Lambda-Runtime-Invoked-Function-Arn"

end Header

/-- The content type of JSON. -/
def ContentType.json : Text := "application/json"

/-- The content type of bytes of unknown meaning. -/
def ContentType.octets : Text := "application/octet-stream"

end InvokeWorker
