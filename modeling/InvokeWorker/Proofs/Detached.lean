import InvokeWorker.Proofs.RunLogic
import InvokeWorker.Worker.Loop

/-!
# Detached computations

What the worker does before and after a call of the handler looks at little: at the ids of the
invoke, at the working directory and at the replies in store. And it changes nothing but the
journal. Such a computation is *detached* (`Run.Detached`): whatever else may be different about two
workers, it ends in the same way on both, after the same events.

Of the events it is known that the log lines among them show the ids of the worker
(`Event.Shows`), that none of them is critical, and that there are no others than log lines,
reports, and calls of methods of a result or its being closed (`Event.isOwn`).
-/

namespace InvokeWorker

/-- The trace id and the request id that log lines show. -/
def Correlation.ids (c : Correlation) : Option Text × Option Text :=
  (c.trace.map shownTrace, c.request.filter fun id => !id.isEmpty)

namespace Event

/-- The event shows these ids, if it is a log line. -/
def Shows (ids : Option Text × Option Text) : Event → Prop
  | .log _ trace id => (trace, id) = ids
  | _ => True

/-- Whether an event is a log line of the highest level. -/
def isCritical : Event → Bool
  | .log entry _ _ => entry.level = "CRITICAL"
  | _ => false

/-- Whether an event is one of what the worker does with an invoke on its own. -/
def isOwn : Event → Bool
  | .log _ _ _ => true
  | .request r => r.method = "POST"
  | .method _ => true
  | .closed => true
  | _ => false

/-- Whether an event is a request for the next invoke. -/
def isAsking : Event → Bool
  | .request r => r.method = "GET"
  | _ => false

theorem not_isAsking_of_isOwn {e : Event} (own : e.isOwn = true) : e.isAsking = false := by
  cases e with
  | request r =>
    have post : r.method = "POST" := of_decide_eq_true own
    rw [isAsking, post]
    decide
  | _ => rfl

theorem not_isCall_of_isOwn {e : Event} (own : e.isOwn = true) : e.isCall = false := by
  cases e with
  | called => cases own
  | _ => rfl

end Event

namespace Worker

/-- The worker after some events. -/
def noting (w : Worker) (events : List Event) : Worker :=
  { w with journal := w.journal ++ events }

/-- All that a detached computation can see of two workers is the same. -/
structure Agrees (w w' : Worker) : Prop where
  ids : w'.correlation.ids = w.correlation.ids
  directory : w'.directory = w.directory
  replies : w'.replies = w.replies

/-- From `w` to `w'` events were added to the journal, all of them as `P` says. -/
def Grows (P : Event → Prop) (w w' : Worker) : Prop :=
  ∃ events, w'.journal = w.journal ++ events ∧ ∀ e ∈ events, P e

variable {w w' : Worker}

namespace Grows

variable {P Q : Event → Prop} {v : Worker}

theorem of_same (same : w'.journal = w.journal) : Grows P w w' :=
  ⟨[], same.trans (List.append_nil _).symm, fun _ mem => absurd mem List.not_mem_nil⟩

theorem note {e : Event} (h : P e) : Grows P w (w.note e) :=
  ⟨[e], rfl, fun _ mem => List.mem_singleton.1 mem ▸ h⟩

theorem trans (h : Grows P w v) (h' : Grows P v w') : Grows P w w' := by
  obtain ⟨first, journal, holds⟩ := h
  obtain ⟨second, journal', holds'⟩ := h'
  refine ⟨first ++ second, ?_, fun e mem => ?_⟩
  · rw [journal', journal, List.append_assoc]
  · exact (List.mem_append.1 mem).elim (holds e) (holds' e)

theorem mono (h : Grows P w w') (weaker : ∀ e, P e → Q e) : Grows Q w w' := by
  obtain ⟨events, journal, holds⟩ := h
  exact ⟨events, journal, fun e mem => weaker e (holds e mem)⟩

end Grows

@[simp] theorem noting_nil (w : Worker) : w.noting [] = w := by
  rw [noting, List.append_nil]

@[simp] theorem noting_noting (w : Worker) (first second : List Event) :
    (w.noting first).noting second = w.noting (first ++ second) := by
  rw [noting, noting, noting, List.append_assoc]

theorem Agrees.noting (h : w.Agrees w') (events : List Event) :
    (w.noting events).Agrees (w'.noting events) :=
  ⟨h.ids, h.directory, h.replies⟩

end Worker

namespace Run

open Worker (Agrees)

variable {α β : Type} {run : Run α} {f : α → Run β}

/-- The computation ends in the same way on all workers that agree, after the same events. -/
def Detached (run : Run α) : Prop :=
  ∀ w : Worker, ∃ r events,
    (∀ e ∈ events, e.Shows w.correlation.ids ∧ e.isCritical = false ∧ e.isOwn = true) ∧
    ∀ w', w.Agrees w' → run w' = ended r (w'.noting events)

end Run

namespace Handler

variable [Interpreter]

/-- What is made of the ending of a call with an event: a result is encoded. -/
def conclude (h : Handler) (ending : Ending) : Run Ending := do
  match h.awaited ending with
  | .raises e trace => return .raises e trace
  | .returns v => h.encode v

/-- What the ending of a run amounts to: a result, or the report of a failure. -/
def outcome : Ending → Run (Except Report Value)
  | .returns v => return .ok v
  | .raises e trace => return .error (← Run.ofExcept (Report.ofFailure e trace))

theorem runAdapted_eq (h : Handler) (base context : Context) (payload : Bytes) :
    h.runAdapted base context payload = match Payload.decode payload with
      | .error e => pure (.raises e (.ok (h.passed .decoding e)))
      | .ok event => h.call base context (.adapted event context.invocation?) >>= h.conclude :=
  rfl

theorem run_of_adapted {h : Handler} (adapted : h.style ≠ .raw) (base context : Context)
    (payload : Bytes) : h.run base context payload = h.runAdapted base context payload := by
  rw [Handler.run]
  split
  · next raw => exact absurd raw adapted
  · rfl

theorem invoke_eq (h : Handler) (base context : Context) (payload : Bytes) :
    h.invoke base context payload = h.run base context payload >>= outcome :=
  rfl

end Handler

namespace Run

/-- What is done with an invoke for which a context was built, or could not be built. -/
def proceed [Interpreter] (i : Invoke) (options : HandlerOptions) : Except Thrown Context → Run Unit
  | .error e => if e.isIn .malformedInvoke then reject i e else throw e
  | .ok context => (execute i context options).andFinally (modify (·.cancel context))

/-- What is done with an invoke once the handler has ended. -/
def settle [Interpreter] (i : Invoke) : Except Report Value → Run Unit
  | .error r => reportAndStopIfFatal i r
  | .ok response => do
    if response.isBody then sendResponse i response
    else reportAndStopIfFatal i (← ofExcept (Report.ofError (unsendable response) (.ok [])))

theorem execute_eq [Interpreter] (i : Invoke) (context : Context) (options : HandlerOptions) :
    execute i context options =
      options.handler.invoke options.base context i.payload >>= settle i :=
  rfl

namespace Detached

/-! ## Rules -/

theorem ofExcept (r : Except Thrown α) : Detached (ofExcept r) := by
  refine fun w => ⟨r, [], by simp, fun w' _ => ?_⟩
  rw [Worker.noting_nil]
  cases r <;> rfl

theorem pure (a : α) : Detached (pure a : Run α) :=
  ofExcept (.ok a)

theorem throw (e : Thrown) : Detached (throw e : Run α) :=
  ofExcept (.error e)

/-- Events other than critical log lines, if they show the ids of the worker. -/
theorem note {e : Event} (shows_ids : ∀ ids, e.Shows ids) (calm : e.isCritical = false)
    (own : e.isOwn = true) : Detached (note e) := by
  refine fun w => ⟨.ok (), [e], fun _ mem => ?_, fun w' _ => rfl⟩
  rw [List.mem_singleton.1 mem]
  exact ⟨shows_ids _, calm, own⟩

theorem log {entry : LogEntry} (calm : entry.level ≠ "CRITICAL") : Detached (log entry) := by
  intro w
  refine ⟨.ok (), [.log entry w.correlation.ids.1 w.correlation.ids.2], ?_, fun w' agrees => ?_⟩
  · rintro _ mem
    rw [List.mem_singleton.1 mem]
    exact ⟨rfl, decide_eq_false calm, rfl⟩
  · rw [← agrees.ids]
    rfl

theorem warning {entry : LogEntry} (level : entry.level = "WARNING") :
    Detached (Run.log entry) :=
  log (by rw [level]; decide)

theorem bind (h : Detached run) (h' : ∀ a, Detached (f a)) : Detached (run >>= f) := by
  intro w
  obtain ⟨r, events, proper, ends⟩ := h w
  cases r with
  | error e => exact ⟨.error e, events, proper, fun w' agrees => bind_of_error (ends w' agrees)⟩
  | ok a =>
    -- The second computation starts from workers that agree again, as both have noted the same.
    obtain ⟨r', events', proper', ends'⟩ := h' a (w.noting events)
    refine ⟨r', events ++ events', fun e mem => ?_, fun w' agrees => ?_⟩
    · exact (List.mem_append.1 mem).elim (proper e) (proper' e)
    · rw [bind_of_ok (ends w' agrees), ends' _ (agrees.noting events), Worker.noting_noting]

/-- What is read of the worker must be the same for all that agree. -/
theorem get_bind {f : Worker → Run α} (h : ∀ w, Detached (f w))
    (same : ∀ w w', w.Agrees w' → f w' = f w) : Detached (get >>= f) := by
  intro w
  obtain ⟨r, events, proper, ends⟩ := h w w
  refine ⟨r, events, proper, fun w' agrees => ?_⟩
  have unfolded : (get >>= f) w' = f w' w' := rfl
  rw [unfolded, same w w' agrees]
  exact ends w' agrees

theorem outcome (h : Detached run) : Detached run.outcome := by
  intro w
  obtain ⟨r, events, proper, ends⟩ := h w
  exact ⟨.ok r, events, proper, fun w' agrees => outcome_of_ended (ends w' agrees)⟩

theorem andFinally {after : Run Unit} (h : Detached run) (h' : Detached after) :
    Detached (run.andFinally after) := by
  refine h.outcome.bind fun r => ?_
  cases r with
  | ok a => exact h'.bind fun _ => pure a
  | error e => exact h'.bind fun _ => throw e

theorem replacing {g : Thrown → Run Thrown} (h : Detached run) (h' : ∀ e, Detached (g e)) :
    Detached (run.replacing g) := by
  refine h.outcome.bind fun r => ?_
  cases r with
  | ok a => exact pure a
  | error e =>
    dsimp only
    split
    · exact (h' e).bind fun _ => throw _
    · exact throw e

/-! ## What is detached -/

theorem passOver [Interpreter] {e : Thrown} {entry : Text → LogEntry}
    (level : ∀ shown, (entry shown).level = "WARNING") :
    Detached (Response.passOver e entry) := by
  rw [Response.passOver]
  split
  · exact (ofExcept _).bind fun shown => warning (level shown)
  · exact throw e

theorem contentType [Interpreter] (v : Value) (absent : Text) :
    Detached (Response.contentType v absent) := by
  have noted : Detached (Run.note (.method "content_type")) := note (fun _ => trivial) rfl rfl
  rw [Response.contentType.eq_def]
  split
  · exact pure _
  · split
    · exact noted.bind fun _ => pure _
    · exact noted.bind fun _ => (passOver fun _ => rfl).bind fun _ => pure _
    · exact pure _
    · exact pure _
  · exact pure _

theorem negotiate [Interpreter] (v : Value) : Detached (Response.negotiate v) :=
  (ofExcept _).bind fun _ => (contentType v _).bind fun _ => pure _

theorem release [Interpreter] (v : Value) : Detached (Response.release v) := by
  have noted : Detached (Run.note (.method "close")) := note (fun _ => trivial) rfl rfl
  have closed : Detached (Run.note .closed) := note (fun _ => trivial) rfl rfl
  rw [Response.release.eq_def]
  split
  · exact closed
  · exact closed
  · split
    · exact noted
    · exact noted.bind fun _ => passOver fun _ => rfl
    · exact pure _
    · exact passOver fun _ => rfl
    · exact closed
    · exact closed
    · exact pure _
  · exact pure _

theorem encode [Interpreter] (v : Value) : Detached (Response.encode v) := by
  rw [Response.encode]
  split
  · exact pure _
  · refine (ofExcept _).bind fun body => ?_
    split
    · exact (contentType v _).bind fun _ => pure _
    · exact pure _

theorem post [Interpreter] (url : Text) (body : Value) (type : Text) (cause : Option Bytes) :
    Detached (Client.post url body type cause) := by
  refine (ofExcept _).bind fun u => (ofExcept _).bind fun t => (ofExcept _).bind fun b =>
    (ofExcept _).bind fun content => ?_
  refine Detached.bind (note (fun _ => trivial : ∀ ids, Event.Shows ids (.request _)) rfl rfl)
    fun _ => ?_
  refine get_bind (fun w => ?_) fun w w' agrees => by rw [agrees.replies]
  split
  · exact throw _
  · split
    · exact throw _
    · exact pure _

theorem boundClient (i : Invoke) : Detached i.boundClient := by
  rw [Invoke.boundClient]
  split
  · exact pure _
  · exact throw _

theorem asApiError [Interpreter] (remark : Text) (e : Thrown) :
    Detached (Run.asApiError remark e) := by
  rw [Run.asApiError]
  split
  · exact pure _
  · split <;> exact pure _

theorem traceDocument [Interpreter] (r : Report) : Detached (Run.traceDocument r) := by
  refine (ofExcept _).bind fun _ =>
    get_bind (fun w => ?_) fun w w' agrees => by rw [agrees.directory]
  split
  · exact pure _
  · exact (warning rfl).bind fun _ => pure _

theorem reportFailure [Interpreter] (i : Invoke) (r : Report) :
    Detached (Run.reportFailure i r) := by
  have logged : Detached (Run.log (.of "ERROR" failureLogger r.payloadText)) :=
    log (show ("ERROR" : Text) ≠ "CRITICAL" by decide)
  refine logged.bind fun _ => (traceDocument r.left).bind fun cause => ?_
  exact ((boundClient i).bind fun _ => post _ _ _ cause).replacing (asApiError _)

theorem reportAndStopIfFatal [Interpreter] (i : Invoke) (r : Report) :
    Detached (Run.reportAndStopIfFatal i r) := by
  refine (reportFailure i r).bind fun _ => ?_
  split
  · exact throw _
  · exact pure _

theorem sendResponse [Interpreter] (i : Invoke) (response : Value) :
    Detached (Run.sendResponse i response) := by
  refine ((negotiate response).bind fun _ => ?_).andFinally (release response)
  exact ((boundClient i).bind fun _ => post _ _ _ none).replacing (asApiError _)

theorem settle [Interpreter] (i : Invoke) (outcome : Except Report Value) :
    Detached (Run.settle i outcome) := by
  rw [Run.settle.eq_def]
  split
  · exact reportAndStopIfFatal i _
  · split
    · exact sendResponse i _
    · exact (ofExcept _).bind fun r => reportAndStopIfFatal i r

theorem reject [Interpreter] (i : Invoke) (e : Thrown) : Detached (Run.reject i e) :=
  (ofExcept _).bind fun _ => (warning rfl).bind fun _ => (ofExcept _).bind fun r =>
    reportFailure i r

theorem proceed_error [Interpreter] (i : Invoke) (options : HandlerOptions) (e : Thrown) :
    Detached (proceed i options (.error e)) := by
  rw [proceed]
  split
  · exact reject i e
  · exact throw e

theorem conclude [Interpreter] (h : Handler) (ending : Ending) : Detached (h.conclude ending) := by
  rw [Handler.conclude]
  split
  · exact pure _
  · refine (encode _).outcome.bind fun r => ?_
    cases r <;> exact pure _

theorem answer [Interpreter] (ending : Ending) : Detached (Handler.outcome ending) := by
  cases ending with
  | returns v => exact pure _
  | raises e trace => exact (ofExcept _).bind fun _ => pure _

/-! ## What is left behind -/

/-- Nothing changes but the journal. -/
theorem ends (h : Detached run) (w : Worker) : Ends run w fun _ w' => ∃ events,
    w' = w.noting events ∧
      ∀ e ∈ events, e.Shows w.correlation.ids ∧ e.isCritical = false ∧ e.isOwn = true := by
  obtain ⟨r, events, proper, ends⟩ := h w
  rw [Ends, ends w ⟨rfl, rfl, rfl⟩]
  cases r <;> exact ⟨events, rfl, proper⟩

end Detached

/-- What is not changed by the worker's own events still holds after a detached computation. -/
theorem Ends.bind_detached {w : Worker} {P : Worker → Prop} (first : Ends run w fun _ v => P v)
    (detached : ∀ a, Detached (f a))
    (own : ∀ v events, P v → (∀ e ∈ events, e.isOwn = true) → P (v.noting events)) :
    Ends (run >>= f) w fun _ v => P v := by
  refine first.bind (fun a v holds => ?_) fun _ _ holds => holds
  refine ((detached a).ends v).mono ?_
  rintro _ _ ⟨events, rfl, proper⟩
  exact own v events holds fun e mem => (proper e mem).2.2

end Run

end InvokeWorker
