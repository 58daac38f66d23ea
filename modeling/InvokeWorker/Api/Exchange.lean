import InvokeWorker.Invoke.Header
import InvokeWorker.Value.Basic

/-!
# What is exchanged with the Runtime API

The worker asks for an invoke and gets a *delivery*, or a failure of the transport in its place.
With the delivery come the *replies* the API has in store for the report of the invoke. A request is
known by what reaches the transport.
-/

namespace InvokeWorker

/-- A request as it reaches the transport. -/
structure Request where
  /-- The method. -/
  method : Text
  /-- The URL. -/
  url : Text
  /-- The octets of the content type. -/
  contentType : Option Bytes
  /-- The length of the body, if it is stated. -/
  length : Option Nat
  /-- Whether the body is sent in chunks of unstated length. -/
  chunked : Bool
  /-- The body. -/
  body : Bytes
  /-- Who asks. -/
  userAgent : Text
  /-- The trace document of a failure. -/
  cause : Option Bytes
  deriving DecidableEq, Repr

/-- What the API answers to a report. -/
inductive Reply where
  /-- A status. -/
  | status (code : Int)
  /-- Nothing: the transport raises an error. -/
  | failure (e : Thrown)

namespace Reply

/-- The status of a report that is taken. -/
def acceptedStatus : Int := 202

/-- A report is taken. -/
def accepted : Reply := .status acceptedStatus

end Reply

/-- The replies to the two kinds of report an invoke can end with, and to one whose URL has lost its
    ending. -/
structure Replies where
  /-- The reply to a response. -/
  response : Reply
  /-- The reply to an error. -/
  error : Reply
  /-- The reply at any other path: an id may hold a character that ends the path. -/
  other : Reply

/-- All reports are taken. -/
def Replies.accepted : Replies := ⟨.accepted, .accepted, .accepted⟩

/-- What the API answers when it is asked for an invoke. -/
inductive Answer where
  /-- An answer with a status, headers and a body. -/
  | delivered (status : Int) (headers : Headers) (payload : Bytes)
  /-- Nothing: the transport raises an error. -/
  | failure (e : Thrown)

/-- An answer with the replies to the report it leads to. -/
structure Delivery where
  /-- The answer. -/
  answer : Answer
  /-- The replies. -/
  replies : Replies

namespace Delivery

/-- There are no more invokes to be had. -/
def exhausted : Delivery :=
  ⟨.failure ⟨.transport "ConnectError", [.text "no more invokes"], .plain⟩, .accepted⟩

end Delivery

end InvokeWorker
