import InvokeWorker.Handler.Payload
import InvokeWorker.Report.OfError
import InvokeWorker.Response.Encoding

/-!
# Handlers

A handler is code the worker knows nothing about. It is called with what has arrived and may, before
it ends, let time pass, cancel contexts or derive new ones, and arm the post-invoke signal
(`Deed`). It ends by returning a value or by raising an error at some place of its code. All of
this may depend on everything there is to see in the process.

A *raw* handler takes the context and the payload and returns a body. Other handlers take the event
and the invocation, and their result is encoded. They may also be asynchronous, in which case an
error that ends an iteration cannot leave them as it is. The code that does this for them is passed
by errors as well, so that its places precede theirs.
-/

namespace InvokeWorker

variable [Interpreter]

/-- How a handler is called. -/
inductive CallStyle where
  /-- With a context and a payload. -/
  | raw
  /-- With an event and an invocation. -/
  | plain
  /-- With an event and an invocation; the handler is a coroutine. -/
  | coroutine
  /-- With an event and an invocation; the handler returns something that can be awaited. -/
  | awaitable
  deriving DecidableEq, Repr

/-- Something a handler does before it ends. The contexts at its disposal are its own, at position
    zero, and those it has derived. -/
inductive Deed where
  /-- Lets milliseconds pass; the timers that are due are fired unless they are late. -/
  | advance (ms : Int) (fire : Bool)
  /-- Cancels the context every invoke's context is derived from. -/
  | cancelBase
  /-- Cancels a context. -/
  | cancel (position : Nat)
  /-- Looks at a context. -/
  | look (position : Nat)
  /-- Derives a context with a deadline. -/
  | derive (position : Nat) (deadline : Instant)
  /-- Arms the post-invoke signal and, if `set`, sets the event it gets. -/
  | arm (set : Bool)
  deriving DecidableEq, Repr

/-- How a call of a handler ends. -/
inductive Ending where
  /-- It returns a value. -/
  | returns (v : Value)
  /-- It raises an error, which has passed the places of a traceback. -/
  | raises (e : Thrown) (trace : Traceback)

/-- What a handler does in one call. -/
structure Conduct where
  /-- What it does before it ends. -/
  deeds : List Deed
  /-- How it ends. -/
  ending : Ending

/-- What is done with a handler that takes an event. -/
inductive Stage where
  /-- The event is decoded. -/
  | decoding
  /-- The handler is called. -/
  | calling
  /-- What it returns is awaited, and the error it ends with replaced by another one. -/
  | awaiting
  deriving DecidableEq, Repr

/-- A handler. -/
structure Handler where
  /-- How it is called. -/
  style : CallStyle
  /-- What it does in a call. -/
  conduct : Worker → Arrival → Conduct
  /-- The places an error passes at a stage within the code around that of the handler. -/
  passed : Stage → Thrown → List Site
  /-- The places an error of encoding a result has passed, in that code and in the classes of the
      result. -/
  encoded : Thrown → Traceback

/-- A handler of which nothing is known but what it does itself. -/
def Handler.of (style : CallStyle) (conduct : Worker → Arrival → Conduct) : Handler :=
  ⟨style, conduct, fun _ _ => [], fun _ => .ok []⟩

/-- The names code is known by. -/
structure CodeNames where
  /-- The name within the place of definition. -/
  name : Text
  /-- The name together with the place of definition. -/
  qualified : Text
  deriving DecidableEq, Repr

/-- The names of an adapted handler: those of its code, as far as it has any. Code without names is
    known as `handler`. -/
def CodeNames.adapted (name qualified : Option Text) : CodeNames :=
  let name := name.getD "handler"
  ⟨name, qualified.getD name⟩

/-- What the worker is told to run. -/
structure HandlerOptions where
  /-- The handler. -/
  handler : Handler
  /-- The context every invoke's context is derived from. -/
  base : Context
  /-- What the function is configured with. -/
  settings : Option FunctionSettings

/-- Options with a base context that is given, or else a new one. -/
def HandlerOptions.prepare (handler : Handler) (base : Option Context)
    (settings : Option FunctionSettings) : Run HandlerOptions :=
  match base with
  | some base => pure ⟨handler, base, settings⟩
  | none => Run.act fun w =>
    let (w, base) := w.newRoot
    (w, ⟨handler, base, settings⟩)

namespace Worker

/-- What a handler sees that was called with `arrival`. -/
def sight (w : Worker) (arrival : Arrival) : Worker × Sight :=
  match arrival with
  | .raw context _ =>
    let (w, s) := w.standing context
    (w, .standing s)
  | .adapted _ invocation => (w, .remaining (invocation.map (·.remainingMillis w.now)))

/-- The worker after a deed of a handler, with the contexts at the handler's disposal. -/
def perform (base : Context) (arrival : Arrival) (w : Worker) (contexts : List Context) :
    Deed → Worker × List Context
  | .advance ms fire =>
    let (w, s) := (w.advance ms fire).sight arrival
    (w.note (.advanced s), contexts)
  | .cancelBase => (w.cancel base, contexts)
  | .cancel position => match contexts[position]? with
    | some c => (w.cancel c, contexts)
    | none => (w, contexts)
  | .look position => match contexts[position]? with
    | some c => (w.refresh c, contexts)
    | none => (w, contexts)
  | .derive position deadline => match contexts[position]? with
    | some c =>
      let (w, derived) := w.derive c deadline
      (w, contexts ++ [derived])
    | none => (w, contexts)
  | .arm set =>
    if base.hasSignal then
      let signal := w.signal.arm
      let signal := if set then (signal.set? w.signal.events.length).getD signal else signal
      ({ w with signal }, contexts)
    else (w, contexts)

/-- The worker after deeds of a handler. -/
def performAll (base : Context) (arrival : Arrival) (w : Worker) (contexts : List Context) :
    List Deed → Worker
  | [] => w
  | deed :: rest =>
    let (w, contexts) := w.perform base arrival contexts deed
    w.performAll base arrival contexts rest

end Worker

namespace Handler

/-- Calls a handler with what has arrived; its own context is `context`. -/
def call (h : Handler) (base context : Context) (arrival : Arrival) : Run Ending :=
  Run.act fun w =>
    let (w, sight) := w.sight arrival
    let conduct := h.conduct w arrival
    let w := w.note (.called arrival sight w.correlation)
    (w.performAll base arrival [context] conduct.deeds, conduct.ending)

/-- The traceback of an error of the handler behind the code around it. -/
def below (h : Handler) (e : Thrown) (trace : Traceback) : Traceback :=
  trace.map (h.passed .calling e ++ ·)

/-- How a call ends that was awaited. The end of an iteration is another error there. -/
def awaited (h : Handler) (ending : Ending) : Ending :=
  match ending with
  | .returns v => .returns v
  | .raises e trace =>
    if e.isIn .stopIteration then
      match h.style with
      | .coroutine => replaced "coroutine raised StopIteration"
      | .awaitable => replaced "generator raised StopIteration"
      | _ => .raises e (h.below e trace)
    else .raises e (h.below e trace)
where
  /-- The end with the error that takes the place of that of the handler. -/
  replaced (message : Text) : Ending :=
    .raises (.runtimeError message) (.ok (h.passed .awaiting (.runtimeError message)))

/-- Encodes a result. An error in doing so counts as one of the handler. -/
def encode (h : Handler) (v : Value) : Run Ending := do
  match ← (Response.encode v).outcome with
  | .ok v => return .returns v
  | .error e => return .raises e (h.encoded e)

/-- Runs a handler that takes an event: the payload is decoded and the result encoded. -/
def runAdapted (h : Handler) (base context : Context) (payload : Bytes) : Run Ending := do
  match Payload.decode payload with
  | .error e => return .raises e (.ok (h.passed .decoding e))
  | .ok event =>
    match h.awaited (← h.call base context (.adapted event context.invocation?)) with
    | .raises e trace => return .raises e trace
    | .returns v => h.encode v

/-- Runs a handler on a payload. -/
def run (h : Handler) (base context : Context) (payload : Bytes) : Run Ending :=
  match h.style with
  | .raw => h.call base context (.raw context payload)
  | _ => h.runAdapted base context payload

/-- Runs a handler and gives its result, or the report of its failure. -/
def invoke (h : Handler) (base context : Context) (payload : Bytes) :
    Run (Except Report Value) := do
  match ← h.run base context payload with
  | .returns v => return .ok v
  | .raises e trace => return .error (← Run.ofExcept (Report.ofFailure e trace))

end Handler

end InvokeWorker
