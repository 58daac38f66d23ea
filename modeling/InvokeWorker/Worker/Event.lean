import InvokeWorker.Api.Exchange
import InvokeWorker.Context.Basic
import InvokeWorker.Correlation
import InvokeWorker.Json.Document
import InvokeWorker.Log.Record

/-!
# What can be seen of the worker

The worker is known by what it does in sequence: it writes log lines, sends requests, calls the
handler and methods of what the handler returns, closes streams, waits, opens clients and sets up
its log. Each of these is an event of its journal.
-/

namespace InvokeWorker

/-- The state of a context as its readers see it. -/
structure Standing where
  /-- The deadline. -/
  deadline : Option Instant
  /-- Whether those who wait for the cancellation have been woken. -/
  cancelled : Bool
  /-- Why it is cancelled, if it is. -/
  reason : Option Reason
  deriving DecidableEq, Repr

/-- What a handler is called with. -/
inductive Arrival where
  /-- A context and the payload as it is. -/
  | raw (context : Context) (payload : Bytes)
  /-- The event the payload stands for, and the invocation. -/
  | adapted (event : Document) (invocation : Option Invocation)

/-- What a handler sees of the time and of its context. -/
inductive Sight where
  /-- The state of its context. -/
  | standing (s : Standing)
  /-- The milliseconds left to the invocation, if there is one. -/
  | remaining (ms : Option Int)
  deriving DecidableEq, Repr

/-- Something the worker does. -/
inductive Event where
  /-- A log line, with the trace id and the request id it carries. -/
  | log (entry : LogEntry) (trace request : Option Text)
  /-- A request that has reached the transport. -/
  | request (r : Request)
  /-- A call of the handler, what it sees, and the correlation at that time. -/
  | called (arrival : Arrival) (sight : Sight) (correlation : Correlation)
  /-- Time has passed within the handler, which sees how it stands. -/
  | advanced (sight : Sight)
  /-- A call of a method of what the handler has returned. -/
  | method (name : Text)
  /-- A stream or generator that the handler has returned is closed. -/
  | closed
  /-- A wait of this many milliseconds for an event to be set. -/
  | waited (timeout : Int)
  /-- A new client with its options. -/
  | client (options : List (Text × Document))
  /-- The log is to be set up from a file. -/
  | setup (path : Text)
  /-- A text is read as a configuration of the log. -/
  | reading (text : Text)
  /-- The log is set up from a configuration. -/
  | configured (configuration : Document)
  /-- The log is set up with a level and nothing else. -/
  | configuredLevel (level : Text)

namespace Event

/-- Whether an event is a call of the handler. -/
def isCall : Event → Bool
  | called .. => true
  | _ => false

/-- The request of an event. -/
def request? : Event → Option Request
  | request r => some r
  | _ => none

end Event

end InvokeWorker
