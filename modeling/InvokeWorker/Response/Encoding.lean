import InvokeWorker.Json.Writer
import InvokeWorker.Response.Negotiation
import InvokeWorker.Value.Encode

/-!
# Encoding of results

A result that is not a body already is encoded as JSON. If it declares a content type, the encoded
body keeps it.
-/

namespace InvokeWorker.Response

variable [Interpreter]

/-- The error a result is reported as that has no document. -/
def marshalError (message : Text) : Thrown :=
  .chosen "Runtime.MarshalError" ("Unable to marshal response: " ++ message)

/-- The JSON of a result. -/
def jsonOf (v : Value) : Except Thrown Bytes :=
  match v.document? Value.refuse nestingLimit with
  | .ok d => .ok (Bytes.ofAscii (d.render .compact))
  | .error fault =>
    if fault.isRefusal then match fault.toThrown.display with
      | .ok shown => .error (marshalError shown)
      | .error e => .error e
    else .error fault.toThrown

/-- The body of a result: the result itself, or its JSON. -/
def encode (v : Value) : Run Value := do
  if v.passesThrough then return v
  let body ← Run.ofExcept (jsonOf v)
  if v.declaresContentType then
    return .typed (.bytes body) (.text (← contentType v ContentType.octets))
  return .bytes body

end InvokeWorker.Response
