import InvokeWorker.Interpreter
import InvokeWorker.Json.Reader
import InvokeWorker.Text.Encoding
import InvokeWorker.Value.Basic

/-!
# Payloads

The payload of an invoke is the JSON of an event, in any of the encodings JSON may have. No payload
at all stands for `null`. What cannot be read is an error of the invoke; an event nested too deeply
is one of the stack.
-/

namespace InvokeWorker.Payload

variable [Interpreter]

/-- How deeply events may be nested. -/
def nestingLimit : Nat := Interpreter.read

theorem le_nestingLimit {n : Nat} (few : n ≤ 500) : n ≤ nestingLimit :=
  Nat.le_trans few Interpreter.le_read

/-- The JSON of payloads. -/
def rules : JsonRules := ⟨nestingLimit, true⟩

/-- The error of a payload that cannot be read. -/
def unmarshalError (message : Text) : Thrown :=
  .chosen "Runtime.UnmarshalError" ("Unable to unmarshal input: " ++ message)

/-- The event a payload stands for. -/
def decode (payload : Bytes) : Except Thrown Document :=
  if payload.isEmpty then .ok .null
  else match (Encoding.detect payload).decode? payload with
    | .error fault => .error (unmarshalError fault.message)
    | .ok t => match Json.read rules t with
      | .ok d => .ok d
      | .error (.tooDeep object) => .error (.recursionError (JsonFault.message t (.tooDeep object)))
      | .error fault => .error (unmarshalError (fault.message t))

end InvokeWorker.Payload
