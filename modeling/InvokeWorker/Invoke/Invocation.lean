import InvokeWorker.Invoke.HeaderDocument
import InvokeWorker.Number.Double

/-!
# Invocations

What handler code is told about the invoke it processes: the invoke's id, function, client,
identity, deadline and trace, and what the process is configured with.
-/

namespace InvokeWorker

/-- What the function is configured with. -/
structure FunctionSettings where
  /-- Its name. -/
  name : Text
  /-- Its version. -/
  version : Text
  /-- Its memory limit in megabytes. -/
  memory : Int
  /-- The group its log belongs to. -/
  logGroup : Text
  /-- The stream its log belongs to. -/
  logStream : Text
  deriving DecidableEq, Repr

/-- Nothing is configured. -/
def FunctionSettings.absent : FunctionSettings := ⟨[], [], 0, [], []⟩

/-- One invocation of the function. -/
structure Invocation where
  /-- The id of the invoke. -/
  requestId : Text
  /-- The name the function is invoked by. -/
  functionArn : Text
  /-- The client. -/
  clientContext : ClientContext
  /-- The identity. -/
  identity : Identity
  /-- The deadline. -/
  deadline : Instant
  /-- The trace header. -/
  trace : Text
  /-- What the function is configured with. -/
  settings : FunctionSettings
  deriving DecidableEq, Repr

namespace Invocation

/-- An invocation of which only the id and the deadline are known. -/
def bare (requestId : Text) (deadline : Instant) : Invocation :=
  ⟨requestId, [], .unknown, .unknown, deadline, [], .absent⟩

/-- A number of milliseconds as seconds, rounded to double precision. -/
def seconds (ms : Int) : Double :=
  .ofIntRatio ms 1000

/-- The milliseconds left at a time, at least zero. Deadline and time are seconds in double
    precision, and so are their difference and its thousandfold; the fraction is dropped. -/
def remainingMillis (i : Invocation) (now : Int) : Int :=
  let left := (seconds i.deadline.millis).sub (seconds now)
  max ((left.mul (.ofIntRatio 1000 1)).truncate.getD 0) 0

end Invocation

end InvokeWorker
