import InvokeWorker.Api.Body
import InvokeWorker.Api.Url

/-!
# The client of the Runtime API

The client asks for the next invoke and reports what has become of one. A report is a POST that has
to be answered by the status 202; every failure of the transport and every other status is raised
as an error of the Runtime API. A request that cannot even be made raises what is wrong with it:
first its URL is read, then its headers, then its body.
-/

namespace InvokeWorker

variable [Interpreter]

/-- A client of the Runtime API at an address. -/
structure Client where
  /-- Host and port of the API. -/
  address : Text
  deriving DecidableEq, Repr

/-- An invoke as it was delivered. -/
structure Invoke where
  /-- The id. -/
  id : Text
  /-- The payload. -/
  payload : Bytes
  /-- The headers it came with. -/
  headers : Headers
  /-- The client that has fetched it. -/
  client : Option Client
  deriving DecidableEq, Repr

namespace Client

/-- The version of the API. -/
def apiVersion : Text := "2018-06-01"

/-- Who asks. -/
def userAgent : Text := "esb-runtime-python/<version>"

/-- From this many bytes on a trace document is too large for a header. -/
def causeLimit : Nat := 1024 * 1024

/-- The status of an invoke that is delivered. -/
def deliveredStatus : Int := 200

/-- The logger of the client. -/
def logger : Text := "runtime.client"

/-- What the URLs of the API start with. -/
def baseUrl (c : Client) : Text :=
  "http://" ++ c.address ++ 47 :: apiVersion ++ "/runtime/invocation/"

/-- The URL to report an invoke at. -/
def invocationUrl (c : Client) (id action : Text) : Text :=
  c.baseUrl ++ id ++ 47 :: action

/-- The URL of the next invoke. -/
def nextUrl (c : Client) : Text :=
  c.baseUrl ++ "next"

/-- A status that was not expected. -/
def unexpectedStatus (request url : Text) (status : Int) : Thrown :=
  .runtimeApi
    ("failed to " ++ request ++ url ++ ": got unexpected status code: " ++ Text.ofInt status)
    (.int status)

/-- The error a failure of the transport is raised as; another error stays what it is. -/
def transportFailure (remark : Text) (e : Thrown) : Thrown :=
  if e.isIn .transport then
    match e.display with
    | .ok shown => .runtimeApi (remark ++ ": " ++ shown) .null
    | .error raised => raised
  else e

/-- The octets of a header, which has to be ASCII. -/
def headerOctets (t : Text) : Except Thrown Bytes :=
  (Charset.ascii.encode? t).mapError (.builtin "UnicodeEncodeError")

/-- The normalized text of a URL. -/
def normalize (url : Text) : Except Thrown Url :=
  match Url.parse url with
  | .ok u => .ok u
  | .error fault => .error fault.toThrown

/-- Asks for the next invoke. -/
def next (c : Client) (delivery : Delivery) : Run Invoke := do
  let url ← Run.ofExcept (normalize c.nextUrl)
  Run.note (.request ⟨"GET", url.toText, none, none, false, [], userAgent, none⟩)
  match delivery.answer with
  | .failure e => throw (transportFailure "failed to get the next invoke" e)
  | .delivered status headers payload =>
    modify fun w => { w with replies := delivery.replies }
    if status ≠ deliveredStatus then throw (unexpectedStatus "GET " c.nextUrl status)
    let id := headers.get Header.requestId
    Run.log
      { LogEntry.of "DEBUG" logger ("Received invoke " ++ id) with
        extras := [("payload_size", .int payload.length)] }
    return ⟨id, payload, headers, some c⟩

/-- The reply to a request: which it is depends on the end of the path. -/
def replyTo (replies : Replies) (url : Url) : Reply :=
  if Text.endsWith url.path "/response" then replies.response
  else if Text.endsWith url.path "/error" then replies.error
  else replies.other

/-- Reports something at a URL. -/
def post (url : Text) (body : Value) (contentType : Text) (cause : Option Bytes) : Run Unit := do
  let failed := transportFailure ("failed to POST to " ++ url)
  let parsed ← Run.ofExcept (normalize url)
  let type ← Run.ofExcept (headerOctets contentType)
  let body ← Run.ofExcept (Body.of body)
  let content ← Run.ofExcept (body.content.mapError failed)
  let cause := cause.filter fun b => b.length < causeLimit
  Run.note (.request
    ⟨"POST", parsed.toText, some type, body.length, body.length.isNone, content, userAgent, cause⟩)
  match replyTo (← get).replies parsed with
  | .failure e => throw (failed e)
  | .status status =>
    if status ≠ Reply.acceptedStatus then throw (unexpectedStatus "POST to " url status)

end Client

namespace Invoke

/-- The value of a header; empty if there is none. -/
def header (i : Invoke) (name : Text) : Text :=
  i.headers.get name

/-- The value of a header whose name may have no encoding. -/
def findHeader (i : Invoke) (name : Text) : Except Thrown Text :=
  (i.headers.find name).mapError (.builtin "UnicodeEncodeError")

/-- The client that has fetched the invoke. -/
def boundClient (i : Invoke) : Run Client :=
  match i.client with
  | some c => pure c
  | none => throw (.runtimeError ("invoke " ++ i.id ++ " is not bound to a Runtime API client"))

/-- Reports the response of an invoke. -/
def succeed (i : Invoke) (body : Value) (contentType : Text) : Run Unit := do
  let c ← i.boundClient
  Client.post (c.invocationUrl i.id "response") body contentType none

/-- Reports the error of an invoke. -/
def fail (i : Invoke) (body : Value) (contentType : Text) (cause : Option Bytes) : Run Unit := do
  let c ← i.boundClient
  Client.post (c.invocationUrl i.id "error") body contentType cause

end Invoke

end InvokeWorker
