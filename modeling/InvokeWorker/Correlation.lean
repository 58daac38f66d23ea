import InvokeWorker.Text.Encoding
import InvokeWorker.Trace
import InvokeWorker.Value.Basic

/-!
# What identifies the invoke being processed

Log lines are correlated with an invoke by its request id and its trace header. The trace header is
also published in a variable of the process for instrumentation that knows no other channel; the
variable keeps its value until the next header is published.
-/

namespace InvokeWorker

/-- The identification of the invoke being processed. -/
structure Correlation where
  /-- The trace header log lines are correlated with. -/
  trace : Option Text
  /-- The request id log lines are correlated with. -/
  request : Option Text
  /-- The published trace header. -/
  published : Option Text
  deriving DecidableEq, Repr, Inhabited

namespace Correlation

/-- The name of the variable the trace header is published in. -/
def variableName : Text := "_X_AMZN_TRACE_ID"

/-- Nothing is known and nothing published. -/
def empty : Correlation := ⟨none, none, none⟩

/-- A new thread of control knows nothing, but sees what is published. -/
def forThread (c : Correlation) : Correlation :=
  { empty with published := c.published }

/-- Takes a request id. -/
def setRequest (c : Correlation) (id : Text) : Correlation :=
  { c with request := some id }

/-- Whether a surrogate stands for an octet that was no UTF-8; a variable can hold it. -/
def isEscapedOctet (c : CodePoint) : Bool :=
  0xDC80 ≤ c.val && c.val ≤ 0xDCFF

/-- Why a variable of the process cannot hold a text: surrogates have no encoding, and a NUL
    character would end it. -/
def unpublishable? (t : Text) : Option Thrown :=
  match Utf8.unencodable? t with
  | some fault =>
    if fault.run.all isEscapedOctet then none
    else some (.builtin "UnicodeEncodeError" fault.message)
  | none => if t.contains 0 then some (.valueError "embedded null byte") else none

/-- Publishes a trace header; log lines are correlated with it unless it is empty. Nothing changes
    if the variable cannot hold it. -/
def publishTrace (c : Correlation) (header : Text) : Except Thrown Correlation :=
  match unpublishable? header with
  | some e => .error e
  | none => .ok { c with
      trace := if header.isEmpty then none else some header
      published := some header }

/-- Forgets the trace header; what is published stays. -/
def resetTrace (c : Correlation) : Correlation :=
  { c with trace := none }

/-- Forgets trace header and request id; what is published stays. -/
def clear (c : Correlation) : Correlation :=
  { c with trace := none, request := none }

/-- The trace id shown for a trace header: its root, or the whole header if it names none. -/
def shownTrace (header : Text) : Text :=
  match (TraceHeader.parse header).root with
  | [] => header
  | root => root

end Correlation

end InvokeWorker
