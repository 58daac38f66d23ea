import InvokeWorker.Context.Signal
import InvokeWorker.Worker.Event

/-!
# The state of the worker

`Worker` holds all that lasts from one step of the worker to the next, and its journal. `Run` is
the type of what the worker does: it changes the state and ends with a result or an error. What a
failing step has done before it fails stays done.

The operations on contexts are those of their scopes at the worker's time.
-/

namespace InvokeWorker

/-- The state of the worker. -/
structure Worker where
  /-- The time, in milliseconds since the start of 1970. -/
  now : Int
  /-- The scopes of all contexts. -/
  scopes : ScopeTree
  /-- What identifies the invoke being processed. -/
  correlation : Correlation
  /-- The signal handler code can arm. -/
  signal : PostInvokeSignal
  /-- The working directory, unless it is gone. -/
  directory : Option Text
  /-- The replies to the report of the last invoke. -/
  replies : Replies
  /-- For each client opened so far whether it is closed. -/
  closed : List Bool
  /-- What has happened, in order. -/
  journal : List Event

/-- Something the worker does: a change of its state that ends with a result or an error. -/
abbrev Run (α : Type) := EStateM Thrown Worker α

namespace Worker

/-- A worker that has done nothing yet. -/
def start (now : Int) (directory : Option Text) : Worker :=
  ⟨now, .empty, .empty, .initial, directory, .accepted, [], []⟩

/-- How often the handler was called. -/
def calls (w : Worker) : Nat :=
  w.journal.countP Event.isCall

/-- The worker after an event. -/
def note (w : Worker) (e : Event) : Worker :=
  { w with journal := w.journal ++ [e] }

/-- The worker after a log line, which carries what identifies the invoke. -/
def log (w : Worker) (entry : LogEntry) : Worker :=
  w.note (.log entry (w.correlation.trace.map Correlation.shownTrace)
    (w.correlation.request.filter fun id => !id.isEmpty))

/-- A new root scope. -/
def newRoot (w : Worker) : Worker × Context :=
  let (scopes, id) := w.scopes.create none none w.now
  ({ w with scopes }, .ofScope id)

/-- A context below another one, with a deadline. -/
def derive (w : Worker) (parent : Context) (deadline : Instant) : Worker × Context :=
  let (scopes, id) := w.scopes.create (some parent.scope) (some deadline) w.now
  ({ w with scopes }, { parent with scope := id })

/-- The worker after the cancellation of a context. -/
def cancel (w : Worker) (c : Context) : Worker :=
  { w with scopes := w.scopes.cancel c.scope .cancelled }

/-- The worker after somebody has looked at a context. -/
def refresh (w : Worker) (c : Context) : Worker :=
  { w with scopes := w.scopes.refresh c.scope w.now }

/-- The state of a context as it is, whether its deadline has passed or not. -/
def standingNow (w : Worker) (c : Context) : Standing :=
  ⟨w.scopes.deadlineOf (some c.scope), w.scopes.isSignalled c.scope, w.scopes.reasonOf c.scope⟩

/-- Whether somebody is woken at once who waits for the cancellation of a context. Who waits does
    not look at the clock. -/
def waits (w : Worker) (c : Context) : Bool :=
  w.scopes.isSignalled c.scope

/-- The state of a context as somebody sees it who looks at it. -/
def standing (w : Worker) (c : Context) : Worker × Standing :=
  let w := w.refresh c
  (w, w.standingNow c)

/-- The worker some milliseconds later, with the timers that are due fired unless they are late. -/
def advance (w : Worker) (ms : Int) (fire : Bool) : Worker :=
  let w := { w with now := w.now + ms }
  if fire then { w with scopes := w.scopes.fire w.now (w.scopes.due w.now) } else w

/-- The worker with another correlation. -/
def withCorrelation (w : Worker) (f : Correlation → Correlation) : Worker :=
  { w with correlation := f w.correlation }

end Worker

namespace Run

/-- Notes an event. -/
def note (e : Event) : Run Unit :=
  modify (·.note e)

/-- Writes a log line. -/
def log (entry : LogEntry) : Run Unit :=
  modify (·.log entry)

/-- The result of a computation without effects. -/
def ofExcept {α : Type} : Except Thrown α → Run α
  | .ok a => pure a
  | .error e => throw e

/-- Changes the state and returns a result. -/
def act {α : Type} (f : Worker → Worker × α) : Run α :=
  modifyGet fun w => let (w, a) := f w; (a, w)

/-- What something ends with, be it an error. -/
def outcome {α : Type} (run : Run α) : Run (Except Thrown α) :=
  tryCatch (Except.ok <$> run) fun e => pure (.error e)

/-- Does something, and then something else whether the first has failed or not. -/
def andFinally {α : Type} (run : Run α) (after : Run Unit) : Run α := do
  match ← run.outcome with
  | .ok a => after; return a
  | .error e => after; throw e

/-- Replaces an ordinary error by another one. -/
def replacing {α : Type} (run : Run α) (f : Thrown → Run Thrown) : Run α := do
  match ← run.outcome with
  | .ok a => return a
  | .error e => if e.isOrdinary then throw (← f e) else throw e

end Run

end InvokeWorker
