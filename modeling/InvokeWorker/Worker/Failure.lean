import InvokeWorker.Context.Build
import InvokeWorker.Handler.Basic
import InvokeWorker.Report.Wire

/-!
# Reporting a failure

The report of a failed invoke is logged and sent, with a trace document beside it if one can be
made. A report that cannot be sent is an error of the Runtime API.
-/

namespace InvokeWorker

variable [Interpreter]

namespace Run

/-- The logger of failures. -/
def failureLogger : Text := "runtime.failure"

/-- The trace document of a report. One that cannot be written is dropped with a warning, but its
    paths have to be such that they can be listed. -/
def traceDocument (r : Report) : Run (Option Bytes) := do
  ofExcept r.checkPaths
  match r.trace? ((← get).directory.getD []) with
  | .ok d => return some (Utf8.encodeLax (d.render .wire))
  | .error fault =>
    log (.of "WARNING" failureLogger
      ("Dropping X-Ray error cause that could not be serialized: " ++ fault.message))
    return none

/-- An ordinary error as an error of the Runtime API that says what could not be done. If the error
    has no text or its status code cannot be looked up, what is raised by that takes its place. -/
def asApiError (remark : Text) (e : Thrown) : Run Thrown := do
  match e.display with
  | .error raised => return raised
  | .ok shown => match e.statusCode with
    | .error raised => return raised
    | .ok status => return .runtimeApi (remark ++ ": " ++ shown) status

/-- Reports the failure of an invoke. The trace document is made of what the payload has left of the
    report. -/
def reportFailure (invoke : Invoke) (r : Report) : Run Unit := do
  log (.of "ERROR" failureLogger r.payloadText)
  let cause ← traceDocument r.left
  (invoke.fail (.bytes r.payload) ContentType.json cause).replacing
    (asApiError "unexpected error occurred when sending the function error to the API")

end Run

end InvokeWorker
