import InvokeWorker.Worker.Bootstrap

/-!
# Recorded sessions

A session is what the Runtime API has answered a worker: a JSON object with the time, in
milliseconds since the start of 1970, and the invokes that were delivered, each with a status,
headers and a payload. What is left out has a default. `Session.read` reads a session; a worker that
is run on it does what it would have done at that time, which `Event.shown?` writes down line by
line as far as it leaves the process.

A session can be run without any code of a function: `Handler.echo` returns the event it gets.
-/

namespace InvokeWorker

variable [Interpreter]

/-- A recorded session. -/
structure Session where
  /-- The time. -/
  now : Int
  /-- The answers of the Runtime API. -/
  deliveries : List Delivery

namespace Session

/-- The text of a member of an object; empty unless it is there and a text. -/
def textMember (name : Text) (d : Document) : Text :=
  match d.member? name with
  | some (.text t) => t
  | _ => []

/-- The integer of a member of an object, or a default. -/
def intMember (name : Text) (absent : Int) (d : Document) : Int :=
  match d.member? name with
  | some (.int n) => n
  | _ => absent

/-- The headers an object lists. -/
def headers (d : Document) : Headers :=
  match d.member? "headers" with
  | some (.object members) =>
    members.map fun (name, _) => (name, Utf8.encodeLax (textMember name (.object members)))
  | _ => []

/-- The delivery an object describes. Its reports are taken. -/
def delivery (d : Document) : Delivery :=
  ⟨.delivered (intMember "status" Client.deliveredStatus d) (headers d)
    (Utf8.encodeLax (textMember "payload" d)), .accepted⟩

/-- The session a document describes. -/
def ofDocument (d : Document) : Session :=
  ⟨intMember "now" 0 d, match d.member? "invokes" with
    | some (.array items) => items.map delivery
    | _ => []⟩

/-- Reads a session. -/
def read (content : Bytes) : Option Session :=
  match Utf8.text? content with
  | none => none
  | some t => match Json.read Payload.rules t with
    | .ok (.object members) => some (ofDocument (.object members))
    | _ => none

end Session

namespace LogEntry

/-- The worker's own record as one of the general kind, made at a time. -/
def toRecord (e : LogEntry) (now : Int) : LogRecord :=
  ⟨e.logger, e.level, .text e.message, [], Invocation.seconds now,
    e.extras.map fun (name, d) => (name, d.toValue), e.failure.map Failure.text⟩

end LogEntry

namespace Event

/-- What is written down for an event at a time: log lines, and requests as JSON objects. -/
def shown? (now : Int) : Event → Option Text
  | .log entry trace id =>
    ((entry.toRecord now).line ⟨trace, id, none⟩).toOption
  | .request r => some ((Document.object
      [("method", .text r.method), ("url", .text r.url), ("body", .text r.body.toLatin1)]).render
        .spaced)
  | _ => none

end Event

/-- A handler that returns the event it gets. -/
def Handler.echo : Handler :=
  .of .plain fun _ arrival => ⟨[], .returns (match arrival with
    | .raw _ payload => .bytes payload
    | .adapted event _ => event.toValue)⟩

/-- The one module there is when a session is run: it binds the echo to the name the worker looks
    for unless it is told another one. -/
def Modules.echo : Modules :=
  [("lambda_function", [("lambda_handler", .handler)])]

/-- The worker after a session, with the status the process exits with. -/
def Session.run (s : Session) (surroundings : Surroundings) (file : Text)
    (directory : Option Text) : Worker × Int :=
  let worker := Worker.start s.now directory
  match (Run.boot surroundings file Modules.echo Handler.echo s.deliveries).run worker with
  | .ok () w => (w, 0)
  | .error e w => match e.exitCode? with
    | some (.int status) => (w, status)
    | _ => (w, 1)

end InvokeWorker
