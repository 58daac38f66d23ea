import InvokeWorker.Api.Client
import InvokeWorker.Invoke.Deadline

/-!
# The context of an invoke

The headers of an invoke say until when it has to be done, for whom, and to which trace it belongs.
From these the context of the invoke is built, below a base context: it is cancelled at the
deadline and carries the invocation and the trace header. The trace header is published as well,
but only once all headers are known to be well formed.
-/

namespace InvokeWorker

namespace Invocation

/-- The invocation the headers of an invoke describe. -/
def ofInvoke (invoke : Invoke) (settings : Option FunctionSettings) : Except Thrown Invocation :=
  match Deadline.parse (invoke.header Header.deadline) with
  | .error e => .error e
  | .ok deadline =>
    match ClientContext.parse (invoke.header Header.clientContext) with
    | .error e => .error e
    | .ok clientContext =>
      match Identity.parse (invoke.header Header.identity) with
      | .error e => .error e
      | .ok identity =>
        .ok ⟨invoke.id, invoke.header Header.functionArn, clientContext, identity, deadline,
          invoke.header Header.trace, settings.getD .absent⟩

end Invocation

namespace Run

/-- Publishes a trace header. -/
def publishTrace (header : Text) : Run Unit := do
  let correlation ← ofExcept ((← get).correlation.publishTrace header)
  modify (·.withCorrelation fun _ => correlation)

end Run

namespace Context

/-- Builds the context of an invoke below a base context. -/
def build (invoke : Invoke) (base : Context) (settings : Option FunctionSettings) :
    Run Context := do
  let invocation ← Run.ofExcept (Invocation.ofInvoke invoke settings)
  let context ← Run.act (·.derive base invocation.deadline)
  Run.publishTrace invocation.trace
  return (context.withSlot invocationKey (.invocation invocation)).withValue traceKey
    (.text invocation.trace)

end Context

end InvokeWorker
