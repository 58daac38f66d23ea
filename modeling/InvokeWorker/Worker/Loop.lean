import InvokeWorker.Worker.Failure

/-!
# The invoke loop

The worker takes one invoke after the other and reports exactly one outcome for each: the response
of the handler, or the report of a failure. After a fatal failure has been reported the worker
stops, as it does when the Runtime API cannot be reached or refuses a report. Between two invokes it
waits, not too long, for work that the handler has announced by arming the post-invoke signal.
-/

namespace InvokeWorker

variable [Interpreter]

namespace Run

/-- The logger of the loop. -/
def loopLogger : Text := "runtime.loop"

/-- The seconds the worker waits for the post-invoke signal. -/
def postInvokeWait : Double := .ofIntRatio 10 1

/-- The error of a result that is no body. -/
def unsendable (v : Value) : Thrown :=
  .chosen "Runtime.MarshalError" ("Unable to send response of type " ++ v.typeName)

/-- Sends the response of an invoke and releases it. -/
def sendResponse (invoke : Invoke) (response : Value) : Run Unit :=
  Response.releasing response do
    let (body, contentType) ← Response.negotiate response
    (invoke.succeed body contentType).replacing
      (asApiError "unexpected error occurred when sending the function functionResponse to the API")

/-- Reports a failure of the handler; after a fatal one the worker stops. -/
def reportAndStopIfFatal (invoke : Invoke) (r : Report) : Run Unit := do
  reportFailure invoke r
  if r.isFatal then throw (.handlerCrash r)

/-- Runs the handler on an invoke and reports what has come of it. -/
def execute (invoke : Invoke) (context : Context) (options : HandlerOptions) : Run Unit := do
  match ← options.handler.invoke options.base context invoke.payload with
  | .error r => reportAndStopIfFatal invoke r
  | .ok response =>
    if response.isBody then sendResponse invoke response
    else reportAndStopIfFatal invoke (← ofExcept (Report.ofError (unsendable response) (.ok [])))

/-- Rejects an invoke with malformed headers. -/
def reject (invoke : Invoke) (e : Thrown) : Run Unit := do
  let shown ← ofExcept e.display
  log (.of "WARNING" loopLogger ("Rejecting malformed invoke " ++ invoke.id ++ ": " ++ shown))
  reportFailure invoke (← ofExcept (Report.ofError e (.ok [])))

/-- Processes one invoke. Its context is cancelled in the end. -/
def handleInvoke (invoke : Invoke) (options : HandlerOptions) : Run Unit := do
  modify (·.withCorrelation fun c => (c.setRequest invoke.id).resetTrace)
  match ← (Context.build invoke options.base options.settings).outcome with
  | .error e => if e.isIn .malformedInvoke then reject invoke e else throw e
  | .ok context => (execute invoke context options).andFinally (modify (·.cancel context))

/-- Waits for the event in the slot of the post-invoke signal, if there is one, and clears the
    slot. Returns whether the event was set. -/
def waitForSignal (seconds : Double) : Run Bool := do
  let signal := (← get).signal
  if signal.armed then
    note (.waited ((seconds.mul (.ofIntRatio 1000 1)).truncate.getD 0))
    modify fun w => { w with signal := signal.cleared }
  return signal.fires

/-- Gives work that the handler has announced a chance to be finished. -/
def waitAfterInvoke (base : Context) : Run Unit := do
  if base.hasSignal && (← get).signal.armed then
    unless ← waitForSignal postInvokeWait do
      log (.of "INFO" loopLogger
        ("Post-invoke signal not set within " ++ Value.floatLiteral postInvokeWait
          ++ "s, continuing"))

/-- Processes invokes as they are delivered. When there are no more, the transport fails. -/
def serve (client : Client) (options : HandlerOptions) : List Delivery → Run Unit
  | [] => discard (client.next .exhausted)
  | delivery :: rest => do
    let invoke ← client.next delivery
    handleInvoke invoke options
    waitAfterInvoke options.base
    serve client options rest

/-- Runs the loop. It never returns but by an error. -/
def loop (client : Client) (api : Text) (options : HandlerOptions) (deliveries : List Delivery) :
    Run Unit := do
  log (.of "INFO" loopLogger ("Starting invoke loop against Runtime API " ++ api))
  serve client options deliveries

end Run

end InvokeWorker
