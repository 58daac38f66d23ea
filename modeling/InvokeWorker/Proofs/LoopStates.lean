import InvokeWorker.Proofs.Detached
import InvokeWorker.Proofs.InvokeScopes
import InvokeWorker.Proofs.ReportProtocol

/-!
# The states of the loop

Before each invoke the loop is in a state that earlier invokes have left behind; `Run.Reaches` lists
these states, with what is still to be delivered. From each of them the loop goes on as if it had
started there (`Reaches.loop_eq`), and in one of them it ends: either no invoke is to be had, or the
invoke that was delivered fails (`Run.ends_loop`).
-/

namespace InvokeWorker

open Run (Ends ended)
open ScopeTree (skeleton)

variable {c : Client} {options : HandlerOptions} {delivery : Delivery} {i : Invoke} {w w' : Worker}

/-! ## Asking for an invoke -/

namespace Client

/-- The request for the next invoke. -/
def asking (url : Url) : Request :=
  ⟨"GET", url.toText, none, none, false, [], userAgent, none⟩

/-- What is logged of an invoke that was delivered. -/
def received (i : Invoke) : LogEntry :=
  { LogEntry.of "DEBUG" logger ("Received invoke " ++ i.id) with
    extras := [("payload_size", .int i.payload.length)] }

end Client

/-- The worker after an invoke was delivered, with replies to the report of it in store. -/
def Worker.receiving (w : Worker) (url : Url) (replies : Replies) (i : Invoke) : Worker :=
  ({ w.note (.request (Client.asking url)) with replies }).log (Client.received i)

/-- An invoke is delivered, or nothing happens but a request at most. -/
theorem ends_next_exact [Interpreter] (c : Client) (delivery : Delivery) (w : Worker) :
    Ends (c.next delivery) w fun r w' => match r with
      | .ok i => Delivers c delivery i ∧ ∃ url, Client.normalize c.nextUrl = .ok url ∧
          w' = w.receiving url delivery.replies i
      | .error _ => w.Grows (·.isAsking = true) w' := by
  refine Ends.ofExcept_bind (fun url parsed => Ends.note_bind ?_) fun e failed => .of_same rfl
  have asked : w.Grows (·.isAsking = true) (w.note (.request (Client.asking url))) :=
    .note (by simp [Event.isAsking, Client.asking])
  split
  · exact asked
  · next status headers payload answered =>
    refine Ends.modify_bind ?_
    split
    · exact asked
    · next delivered =>
      rw [Decidable.not_not.1 delivered] at answered
      exact ⟨⟨headers, payload, answered, rfl⟩, url, parsed, rfl⟩

/-- An invoke is delivered to any worker that asks for it. -/
theorem next_of_delivers [Interpreter] {url : Url} (delivers : Delivers c delivery i)
    (parsed : Client.normalize c.nextUrl = .ok url) (w : Worker) :
    c.next delivery w = .ok i (w.receiving url delivery.replies i) := by
  obtain ⟨headers, payload, answered, rfl⟩ := delivers
  obtain ⟨answer, replies⟩ := delivery
  cases answered
  delta Client.next
  rw [parsed]
  rfl

/-- What a request for an invoke comes to that is answered by one. -/
theorem delivers_of_next [Interpreter] (delivered : c.next delivery w = .ok i w') :
    Delivers c delivery i ∧ ∃ url, Client.normalize c.nextUrl = .ok url ∧
      w' = w.receiving url delivery.replies i := by
  have ends := ends_next_exact c delivery w
  rw [Ends, delivered] at ends
  exact ends

/-! ## The stages of an invoke -/

/-- An invoke is named before anything is logged. -/
def Worker.naming (w : Worker) (i : Invoke) : Worker :=
  w.withCorrelation fun c => (c.setRequest i.id).resetTrace

/-- A context that carries an invocation. -/
def Context.carrying (c : Context) (invocation : Invocation) : Context :=
  (c.withSlot invocationKey (.invocation invocation)).withValue traceKey (.text invocation.trace)

/-- The correlation once a trace header is published. -/
def Correlation.publishing (c : Correlation) (header : Text) : Correlation :=
  { c with trace := if header.isEmpty then none else some header, published := some header }

section Build

variable {settings : Option FunctionSettings} {invocation : Invocation} {e : Thrown}

theorem build_of_malformed (made : Invocation.ofInvoke i settings = .error e) (base : Context)
    (w : Worker) : Context.build i base settings w = ended (.error e) w := by
  delta Context.build
  rw [made]
  rfl

theorem build_of_unpublishable (made : Invocation.ofInvoke i settings = .ok invocation)
    (refused : Correlation.unpublishable? invocation.trace = some e) (base : Context)
    (w : Worker) :
    Context.build i base settings w = ended (.error e) (w.derive base invocation.deadline).1 := by
  have failed : Run.publishTrace invocation.trace (w.derive base invocation.deadline).1 =
      .error e (w.derive base invocation.deadline).1 := by
    refine Run.bind_of_ok (a := _) rfl |>.trans ?_
    refine Run.bind_of_error ?_
    rw [Correlation.publishTrace, refused]
    rfl
  delta Context.build
  rw [made]
  show (Run.publishTrace invocation.trace >>= fun _ => pure _) _ = _
  exact Run.bind_of_error failed

theorem build_of_publishable (made : Invocation.ofInvoke i settings = .ok invocation)
    (accepted : Correlation.unpublishable? invocation.trace = none) (base : Context)
    (w : Worker) :
    Context.build i base settings w =
      ended (.ok ((w.derive base invocation.deadline).2.carrying invocation))
        ((w.derive base invocation.deadline).1.withCorrelation
          (·.publishing invocation.trace)) := by
  have published : Run.publishTrace invocation.trace (w.derive base invocation.deadline).1 =
      .ok () ((w.derive base invocation.deadline).1.withCorrelation
        (·.publishing invocation.trace)) := by
    refine Run.bind_of_ok (a := _) rfl |>.trans ?_
    rw [Correlation.publishTrace, accepted]
    rfl
  delta Context.build
  rw [made]
  exact Run.bind_of_ok published

end Build

theorem handleInvoke_of_build [Interpreter] (options : HandlerOptions) {r : Except Thrown Context}
    (built : Context.build i options.base options.settings (w.naming i) = ended r w') :
    Run.handleInvoke i options w = Run.proceed i options r w' := by
  refine (Run.bind_of_ok (Run.outcome_of_ended built)).trans ?_
  cases r <;> rfl

/-- The end of an invoke is that of what is done once its context is built. -/
theorem ends_handleInvoke_of_build [Interpreter] {r : Except Thrown Context}
    {Q : Except Thrown Unit → Worker → Prop}
    (built : Context.build i options.base options.settings (w.naming i) = ended r w')
    (ends : Ends (Run.proceed i options r) w' Q) : Ends (Run.handleInvoke i options) w Q := by
  rw [Ends, handleInvoke_of_build options built]
  exact ends

/-- The three ways in which an invoke can go: its headers are malformed, its trace header cannot be
    published, or a context is built and the invoke is executed. -/
theorem ends_handleInvoke_of_cases [Interpreter] {Q : Except Thrown Unit → Worker → Prop}
    (malformed : ∀ e, Invocation.ofInvoke i options.settings = .error e →
      Ends (Run.proceed i options (.error e)) (w.naming i) Q)
    (unpublishable : ∀ invocation e, Invocation.ofInvoke i options.settings = .ok invocation →
      Correlation.unpublishable? invocation.trace = some e →
      Ends (Run.proceed i options (.error e))
        ((w.naming i).derive options.base invocation.deadline).1 Q)
    (published : ∀ invocation, Invocation.ofInvoke i options.settings = .ok invocation →
      Correlation.unpublishable? invocation.trace = none →
      Ends (Run.proceed i options
          (.ok (((w.naming i).derive options.base invocation.deadline).2.carrying invocation)))
        (((w.naming i).derive options.base invocation.deadline).1.withCorrelation
          (·.publishing invocation.trace)) Q) :
    Ends (Run.handleInvoke i options) w Q := by
  cases made : Invocation.ofInvoke i options.settings with
  | error e =>
    exact ends_handleInvoke_of_build (build_of_malformed made _ _) (malformed e made)
  | ok invocation =>
    cases refused : Correlation.unpublishable? invocation.trace with
    | some e =>
      exact ends_handleInvoke_of_build (build_of_unpublishable made refused _ _)
        (unpublishable invocation e made refused)
    | none =>
      exact ends_handleInvoke_of_build (build_of_publishable made refused _ _)
        (published invocation made refused)

theorem Handler.call_eq (h : Handler) (base context : Context) (arrival : Arrival) (w : Worker) :
    h.call base context arrival w = Run.ended (.ok (h.conduct (w.sight arrival).1 arrival).ending)
      (((w.sight arrival).1.note
        (.called arrival (w.sight arrival).2 (w.sight arrival).1.correlation)).performAll base
          arrival [context] (h.conduct (w.sight arrival).1 arrival).deeds) :=
  rfl

theorem Worker.performAll_cons (w : Worker) (base : Context) (arrival : Arrival)
    (contexts : List Context) (deed : Deed) (deeds : List Deed) :
    w.performAll base arrival contexts (deed :: deeds) =
      (w.perform base arrival contexts deed).1.performAll base arrival
        (w.perform base arrival contexts deed).2 deeds :=
  rfl

/-! ## While the handler runs -/

/-- A deed of a handler leaves no trace but of what the handler sees, and changes nothing but the
    time, the scopes and the post-invoke signal. -/
theorem Worker.perform_frame (w : Worker) (base : Context) (arrival : Arrival)
    (contexts : List Context) (deed : Deed) :
    ∃ now scopes signal events, (w.perform base arrival contexts deed).1 =
        { w with now, scopes, signal, journal := w.journal ++ events } ∧
      ∀ e ∈ events, ∃ sight, e = .advanced sight := by
  have unnoticed : ∀ now scopes signal, ∃ now' scopes' signal' events,
      { w with now, scopes, signal } = { w with
        now := now', scopes := scopes', signal := signal', journal := w.journal ++ events } ∧
      ∀ e ∈ events, ∃ sight, e = Event.advanced sight := by
    intro now scopes signal
    refine ⟨now, scopes, signal, [], ?_, by simp⟩
    rw [List.append_nil]
  cases deed with
  | advance ms fire =>
    refine ⟨w.now + ms, ((w.advance ms fire).sight arrival).1.scopes, w.signal,
      [.advanced ((w.advance ms fire).sight arrival).2], ?_, ?_⟩
    · cases fire <;> cases arrival <;> rfl
    · exact fun e mem => ⟨_, List.mem_singleton.1 mem⟩
  | cancelBase => exact unnoticed _ _ _
  | cancel position =>
    rw [Worker.perform.eq_def]
    dsimp only
    split <;> exact unnoticed _ _ _
  | look position =>
    rw [Worker.perform.eq_def]
    dsimp only
    split <;> exact unnoticed _ _ _
  | derive position deadline =>
    rw [Worker.perform.eq_def]
    dsimp only
    split <;> exact unnoticed _ _ _
  | arm set =>
    rw [Worker.perform.eq_def]
    dsimp only
    split <;> exact unnoticed _ _ _

/-- So are all deeds together. -/
theorem Worker.performAll_frame (w : Worker) (base : Context) (arrival : Arrival)
    (contexts : List Context) (deeds : List Deed) :
    ∃ now scopes signal events, w.performAll base arrival contexts deeds =
        { w with now, scopes, signal, journal := w.journal ++ events } ∧
      ∀ e ∈ events, ∃ sight, e = .advanced sight := by
  induction deeds generalizing w contexts with
  | nil => exact ⟨w.now, w.scopes, w.signal, [], by rw [List.append_nil]; rfl, by simp⟩
  | cons deed deeds ih =>
    obtain ⟨_, _, _, first, eq, seen⟩ := w.perform_frame base arrival contexts deed
    obtain ⟨now, scopes, signal, second, eq', seen'⟩ :=
      ih (w.perform base arrival contexts deed).1 (w.perform base arrival contexts deed).2
    refine ⟨now, scopes, signal, first ++ second, ?_, fun e mem => ?_⟩
    · rw [Worker.performAll_cons, eq', eq, List.append_assoc]
    · exact (List.mem_append.1 mem).elim (seen e) (seen' e)

/-- A call of the handler is one event. What the handler sees while time passes are others. -/
theorem journal_call (h : Handler) (base context : Context) (arrival : Arrival) (w : Worker) :
    Ends (h.call base context arrival) w fun _ w' => ∃ sight events,
      w'.journal = w.journal ++ .called arrival sight w.correlation :: events ∧
        ∀ e ∈ events, ∃ sight, e = .advanced sight := by
  obtain ⟨now, scopes, signal, events, eq, seen⟩ := Worker.performAll_frame
    ((w.sight arrival).1.note
      (.called arrival (w.sight arrival).2 (w.sight arrival).1.correlation)) base arrival [context]
    (h.conduct (w.sight arrival).1 arrival).deeds
  have looked : (w.sight arrival).1.journal = w.journal ∧
      (w.sight arrival).1.correlation = w.correlation := by
    cases arrival <;> exact ⟨rfl, rfl⟩
  rw [Ends, Handler.call_eq, eq]
  refine ⟨(w.sight arrival).2, events, ?_, seen⟩
  show (w.sight arrival).1.journal ++ [_] ++ events = _
  rw [looked.1, looked.2, List.append_assoc, List.singleton_append]

/-! ## Scopes between two invokes -/

/-- Whatever comes of an invoke, the scopes are in order, and the base context is still there. -/
theorem valid_handleInvoke [Interpreter] (valid : Scene.Valid ⟨w, [options.base]⟩) (i : Invoke) :
    Ends (Run.handleInvoke i options) w fun _ w' => Scene.Valid ⟨w', [options.base]⟩ := by
  have inside : options.base.scope < w.scopes.scopes.length := valid.inside _ List.mem_cons_self
  have before := ScopeTree.before_of_some inside
  -- Where the scopes are those there were, or one more, the base context has kept its place.
  have still : ∀ {v : Worker}, v.scopes.InOrder →
      w.scopes.scopes.length ≤ v.scopes.scopes.length → Scene.Valid ⟨v, [options.base]⟩ := by
    intro v order longer
    refine ⟨order, fun c mem => ?_⟩
    rw [List.mem_singleton.1 mem]
    exact Nat.lt_of_lt_of_le inside longer
  have refused : ∀ {e : Thrown} {v : Worker}, e.IsPlain → Scene.Valid ⟨v, [options.base]⟩ →
      Ends (Run.proceed i options (.error e)) v fun _ w' => Scene.Valid ⟨w', [options.base]⟩ := by
    intro e v plain valid
    rw [Run.proceed]
    split
    · refine (ends_reject i plain).mono ?_
      rintro _ w' ⟨r, w₁, quiet, reported⟩
      have same := reported.scopes.trans quiet.scopes
      exact valid.congr (same ▸ valid.inOrder) (by rw [same])
    · exact valid
  refine ends_handleInvoke_of_cases ?malformed ?unpublishable ?published
  case malformed =>
    intro e made
    exact refused (plainly_ofInvoke i _ e made) (valid.congr valid.inOrder rfl)
  case unpublishable =>
    intro invocation e made unpublishable
    have longer : ((w.naming i).derive options.base invocation.deadline).1.scopes.scopes.length =
        w.scopes.scopes.length + 1 := ScopeTree.length_create before
    exact refused (isPlain_unpublishable unpublishable)
      (still (valid.inOrder.create before (some invocation.deadline) w.now) (by omega))
  case published =>
    intro invocation made publishable
    have contained : Contained w.scopes.scopes.length
        (((w.naming i).derive options.base invocation.deadline).1.withCorrelation
          (·.publishing invocation.trace))
        [((w.naming i).derive options.base invocation.deadline).2.carrying invocation] :=
      .of_derive (w := w) valid.inOrder inside rfl rfl
    refine (contained.ends_execute i options).andFinally fun r w' after => ?_
    have cancelled : ∀ c, Scene.Valid ⟨w'.cancel c, [options.base]⟩ := fun c =>
      still (after.cancel c).inOrder (Nat.le_of_lt (after.cancel c).inside)
    cases r <;> exact cancelled _

namespace Run

variable [Interpreter]

/-- The states in which the loop asks for an invoke, with what is still to be delivered. -/
inductive Reaches (c : Client) (api : Text) (options : HandlerOptions) (deliveries : List Delivery)
    (w : Worker) : List Delivery → Worker → Prop
  | start : Reaches c api options deliveries w deliveries
    (w.log (.of "INFO" loopLogger ("Starting invoke loop against Runtime API " ++ api)))
  | next {delivery : Delivery} {rest : List Delivery} {i : Invoke} {v v₁ v₂ v₃ : Worker} :
    Reaches c api options deliveries w (delivery :: rest) v → c.next delivery v = .ok i v₁ →
    handleInvoke i options v₁ = .ok () v₂ → waitAfterInvoke options.base v₂ = .ok () v₃ →
    Reaches c api options deliveries w rest v₃

variable {api : Text} {deliveries rest : List Delivery} {v v' v₁ v₂ v₃ : Worker}

/-- One round of the loop. -/
theorem serve_cons (delivered : c.next delivery v = .ok i v₁)
    (handled : handleInvoke i options v₁ = .ok () v₂)
    (waited : waitAfterInvoke options.base v₂ = .ok () v₃) :
    serve c options (delivery :: rest) v = serve c options rest v₃ := by
  rw [serve, bind_of_ok delivered, bind_of_ok handled, bind_of_ok waited]

namespace Reaches

theorem loop_eq (reached : Reaches c api options deliveries w rest v) :
    loop c api options deliveries w = serve c options rest v := by
  induction reached with
  | start => rfl
  | next _ delivered handled waited ih => rw [ih, serve_cons delivered handled waited]

/-- The error of an invoke ends the loop. -/
theorem stops {e : Thrown} (reached : Reaches c api options deliveries w (delivery :: rest) v)
    (delivered : c.next delivery v = .ok i v₁) (failed : handleInvoke i options v₁ = .error e v₂) :
    loop c api options deliveries w = .error e v₂ := by
  rw [reached.loop_eq, serve, bind_of_ok delivered, bind_of_error failed]

/-- After an invoke without an error the loop goes on. -/
theorem goes_on (reached : Reaches c api options deliveries w (delivery :: rest) v)
    (delivered : c.next delivery v = .ok i v₁) (handled : handleInvoke i options v₁ = .ok () v₂) :
    ∃ v₃, Reaches c api options deliveries w rest v₃ := by
  obtain ⟨v₃, waited, -⟩ := Ends.exists_ok (a := ()) (P := fun v₃ => v₂.Quietly v₃)
    ((ends_waitAfterInvoke options.base).mono fun _ _ ⟨quietly, ok⟩ => ⟨ok, quietly⟩)
  exact ⟨v₃, reached.next delivered handled waited⟩

/-- What is still to be delivered comes last of all that is delivered. -/
theorem suffix (reached : Reaches c api options deliveries w rest v) : rest <:+ deliveries := by
  induction reached with
  | start => exact List.suffix_rfl
  | next _ _ _ _ ih => exact (List.suffix_cons _ _).trans ih

/-- In all these states the scopes are in order, if they were at first. -/
theorem valid (reached : Reaches c api options deliveries w rest v)
    (valid : Scene.Valid ⟨w, [options.base]⟩) : Scene.Valid ⟨v, [options.base]⟩ := by
  induction reached with
  | start => exact valid.congr valid.inOrder rfl
  | @next delivery rest i v v₁ v₂ v₃ _ delivered handled waited ih =>
    obtain ⟨-, url, -, rfl⟩ := delivers_of_next delivered
    have ended := valid_handleInvoke (ih.congr (w := v.receiving url delivery.replies i) ih.inOrder
      rfl) i
    rw [Ends, handled] at ended
    have paused := ends_waitAfterInvoke (w := v₂) options.base
    rw [Ends, waited] at paused
    have same := paused.1.scopes
    exact ended.congr (same ▸ ended.inOrder) (by rw [same])

end Reaches

/-- The loop stops: no invoke is to be had, or the processing of the one that was delivered fails.
    After the last delivery no more invokes are to be had. -/
inductive Stops (c : Client) (options : HandlerOptions) (rest : List Delivery) (v : Worker) :
    Thrown → Worker → Prop
  | undelivered {e : Thrown} {v' : Worker} : c.next (rest.headD .exhausted) v = .error e v' →
    Stops c options rest v e v'
  | unhandled {i : Invoke} {e : Thrown} {v₁ v' : Worker} :
    c.next (rest.headD .exhausted) v = .ok i v₁ → handleInvoke i options v₁ = .error e v' →
    Stops c options rest v e v'

/-- The loop ends with an error, at which it stops in one of its states. -/
theorem Reaches.ends_serve (reached : Reaches c api options deliveries w rest v) :
    Ends (serve c options rest) v fun r v' => ∃ e, r = .error e ∧ ∃ rest' u,
      Reaches c api options deliveries w rest' u ∧ Stops c options rest' u e v' := by
  induction rest generalizing v with
  | nil =>
    refine (Ends.self (c.next .exhausted) v).discard (fun i v₁ delivered => ?_) fun e v₁ failed =>
      ⟨e, rfl, [], v, reached, .undelivered failed⟩
    obtain ⟨⟨headers, payload, ⟨⟩, -⟩, -⟩ := delivers_of_next delivered
  | cons delivery rest ih =>
    refine (Ends.self (c.next delivery) v).bind (fun i v₁ delivered => ?_) fun e v₁ failed =>
      ⟨e, rfl, _, v, reached, .undelivered failed⟩
    refine (Ends.self (handleInvoke i options) v₁).bind (fun _ v₂ handled => ?_)
      fun e v₂ failed => ⟨e, rfl, _, v, reached, .unhandled delivered failed⟩
    refine (Ends.self (waitAfterInvoke options.base) v₂).bind (fun _ v₃ waited => ?_)
      fun e v₃ failed => ?_
    · exact ih (reached.next delivered handled waited)
    · have waited := ends_waitAfterInvoke (w := v₂) options.base
      rw [Ends, failed] at waited
      cases waited.2

theorem ends_loop (c : Client) (api : Text) (options : HandlerOptions) (deliveries : List Delivery)
    (w : Worker) :
    Ends (loop c api options deliveries) w fun r w' => ∃ e, r = .error e ∧ ∃ rest v,
      Reaches c api options deliveries w rest v ∧ Stops c options rest v e w' :=
  Ends.log_bind Reaches.start.ends_serve

end Run

/-! ## A run of two invokes -/

/-- A handler that lets a millisecond pass and returns no bytes, below the first root there is. -/
def HandlerOptions.idle : HandlerOptions :=
  ⟨.of .raw fun _ _ => ⟨[.advance 1 true], .returns (.bytes [])⟩, .ofScope 0, none⟩

/-- The headers of an invoke that is to be done within nine seconds. -/
def Headers.traced (id trace : Text) : Headers :=
  [(Header.requestId, Bytes.ofAscii id), (Header.deadline, Bytes.ofAscii "9000"),
    (Header.trace, Bytes.ofAscii trace)]

/-- An invoke without a payload, the report of which is taken. -/
def Delivery.bare (headers : Headers) : Delivery :=
  ⟨.delivered Client.deliveredStatus headers [], .accepted⟩

/-- The loop gets to the second of two invokes; the first has left its ids behind. -/
theorem Run.exists_reaches_second :
    ∃ v v₁, Reaches ⟨"h"⟩ "h" .idle [.bare (.traced "a" "Root=1-a"), .bare (.traced "b" "")]
        ((Scene.start 0 none).act .root).worker [.bare (.traced "b" "")] v ∧
      v.correlation = ⟨some "Root=1-a", some "a", some "Root=1-a"⟩ ∧
      Client.next ⟨"h"⟩ (.bare (.traced "b" "")) v =
        .ok ⟨"b", [], .traced "b" "", some ⟨"h"⟩⟩ v₁ := by
  obtain ⟨url, parsed⟩ : ∃ url, Client.normalize (Client.nextUrl ⟨"h"⟩) = .ok url := ⟨_, rfl⟩
  have delivers : Delivers ⟨"h"⟩ (.bare (.traced "a" "Root=1-a"))
    ⟨"a", [], .traced "a" "Root=1-a", some ⟨"h"⟩⟩ := ⟨_, _, rfl, by decide +kernel⟩
  have delivers' : Delivers ⟨"h"⟩ (.bare (.traced "b" ""))
    ⟨"b", [], .traced "b" "", some ⟨"h"⟩⟩ := ⟨_, _, rfl, by decide +kernel⟩
  have handled : ∀ url, Ends (handleInvoke ⟨"a", [], .traced "a" "Root=1-a", some ⟨"h"⟩⟩ .idle)
      ((((Scene.start 0 none).act .root).worker.log (.of "INFO" loopLogger
        ("Starting invoke loop against Runtime API " ++ "h"))).receiving url .accepted
          ⟨"a", [], .traced "a" "Root=1-a", some ⟨"h"⟩⟩) fun r w' =>
      r = .ok () ∧ w'.correlation = ⟨some "Root=1-a", some "a", some "Root=1-a"⟩ :=
    fun url => ⟨rfl, rfl⟩
  obtain ⟨v, handled, left⟩ := (handled url).exists_ok
  have waited : waitAfterInvoke (.ofScope 0) v = .ok () v := rfl
  exact ⟨v, _, Reaches.start.next (next_of_delivers delivers parsed _) handled waited, left,
    next_of_delivers delivers' parsed v⟩

end InvokeWorker
