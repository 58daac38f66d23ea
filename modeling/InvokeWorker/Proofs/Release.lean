import InvokeWorker.Proofs.Detached
import InvokeWorker.Proofs.LoopStates

/-!
# The release of a result

A result of the handler may hold a resource, which has to be released: after the attempt to send
the result, whatever has come of that, and before the next invoke is asked for. The loop does so
with the value that it sends (`Released`), and only then.

* `Run.releases`: a result is released once, and after the attempt to send it, if the loop sends the
  very result (`Handler.Sends`). A result that was encoded is not released at all.
* `Run.not_forall_closed`: so a list with a method to close it is sent, but never closed.

What can be closed are streams, generators, and objects of classes that have a method for it or
derive it from that of a stream or a generator (`Value.closing?`).
-/

namespace InvokeWorker

open Run (Ends)

/-- Whether an event closes a result. -/
def Event.isClosing : Event → Bool
  | method name => name = "close"
  | closed => true
  | _ => false

/-- The event that a value is closed, if it can be. -/
def Value.closing? : Value → Option Event
  | stream _ => some .closed
  | generator _ => some .closed
  | custom o => match o.own.close, o.core with
    | some (.returns _), _ => some (.method "close")
    | some (.raises _), _ => some (.method "close")
    | some (.attribute _), _ => none
    | none, stream _ => some .closed
    | none, generator _ => some .closed
    | none, _ => none
  | _ => none

theorem Value.isClosing_of_closing? {x : Value} {e : Event} (closes : x.closing? = some e) :
    e.isClosing = true ∧ e.isLoud = false := by
  rw [closing?.eq_def] at closes
  split at closes
  · cases closes
    exact ⟨rfl, rfl⟩
  · cases closes
    exact ⟨rfl, rfl⟩
  · split at closes <;> cases closes <;> exact ⟨rfl, rfl⟩
  · cases closes

theorem Value.isByteArray_of_unpacked {x : Value} (unpacked : x.packed?.isSome = false) :
    x.isByteArray = false := by
  rw [isByteArray.eq_def]
  split
  · cases unpacked
  · cases unpacked
  · rfl

/-- A value that needs no encoding can be sent as it is. -/
theorem Value.isBody_of_passesThrough {x : Value} (passes : x.passesThrough = true) :
    x.isBody = true := by
  rw [passesThrough] at passes
  cases no_body : x.isBody with
  | true => rfl
  | false =>
    have capable := no_body
    rw [isBody.eq_def] at capable
    split at capable
    · cases capable
    · simp only [Bool.or_eq_false_iff] at capable
      obtain ⟨⟨⟨⟨unpacked, -⟩, no_bytes⟩, not_readable⟩, -⟩ := capable
      rw [no_bytes, not_readable, no_body, isByteArray_of_unpacked unpacked] at passes
      simp at passes

/-- From `w` to `w'` no result is closed. -/
abbrev Worker.Keeps (w w' : Worker) : Prop :=
  w.Grows (·.isClosing = false) w'

/-- A request closes nothing. -/
theorem Reported.keeps [Interpreter] {Lets : Thrown → Prop} {i : Invoke} {action : Text}
    {body : Value} {w w' : Worker} {r : Except Thrown Unit}
    (reported : Reported Lets i action body w r w') : w.Keeps w' := by
  cases reported with
  | unsent => exact .of_same rfl
  | sent => exact .note rfl

namespace Run

variable {α β : Type} {run : Run α} {f : α → Run β}

/-- The computation closes no result. -/
def Retains (run : Run α) : Prop :=
  ∀ w, Ends run w fun _ w' => w.Keeps w'

namespace Retains

theorem ofExcept (r : Except Thrown α) : Retains (ofExcept r) := by
  intro w
  cases r <;> exact .of_same rfl

theorem pure (a : α) : Retains (pure a : Run α) :=
  ofExcept (.ok a)

theorem throw (e : Thrown) : Retains (throw e : Run α) :=
  ofExcept (.error e)

theorem note {e : Event} (open_ : e.isClosing = false) : Retains (note e) :=
  fun _ => .note open_

theorem log (entry : LogEntry) : Retains (log entry) :=
  fun _ => .note rfl

theorem bind (h : Retains run) (h' : ∀ a, Retains (f a)) : Retains (run >>= f) := fun w =>
  (h w).bind (fun a v keeps => (h' a v).mono fun _ _ keeps' => keeps.trans keeps')
    fun _ _ keeps => keeps

theorem get_bind {f : Worker → Run α} (h : ∀ w, Retains (f w)) : Retains (get >>= f) :=
  fun w => Ends.get_bind (h w w)

/-! ## What closes nothing -/

theorem passOver [Interpreter] (e : Thrown) (entry : Text → LogEntry) :
    Retains (Response.passOver e entry) := by
  rw [Response.passOver]
  split
  · exact (ofExcept _).bind fun _ => log _
  · exact throw e

theorem contentType [Interpreter] (x : Value) (absent : Text) :
    Retains (Response.contentType x absent) := by
  rw [Response.contentType.eq_def]
  split
  · exact pure _
  · split
    · exact (note rfl).bind fun _ => pure _
    · exact (note rfl).bind fun _ => (passOver _ _).bind fun _ => pure _
    · exact pure _
    · exact pure _
  · exact pure _

theorem negotiate [Interpreter] (x : Value) : Retains (Response.negotiate x) :=
  (ofExcept _).bind fun _ => (contentType x _).bind fun _ => pure _

theorem encode [Interpreter] (x : Value) : Retains (Response.encode x) := by
  rw [Response.encode]
  split
  · exact pure _
  · refine (ofExcept _).bind fun body => ?_
    split
    · exact (contentType x _).bind fun _ => pure _
    · exact pure _

theorem traceDocument [Interpreter] (r : Report) : Retains (Run.traceDocument r) := by
  refine (ofExcept _).bind fun _ => get_bind fun w => ?_
  split
  · exact pure _
  · exact (log _).bind fun _ => pure _

theorem reportAndStopIfFatal [Interpreter] (i : Invoke) (r : Report) :
    Retains (Run.reportAndStopIfFatal i r) := by
  have sent : ∀ cause, Retains ((i.fail (.bytes r.payload) ContentType.json cause).replacing
      (asApiError "unexpected error occurred when sending the function error to the API")) :=
    fun cause w => (Reported.ends_replacing _ (fun _ _ => False.elim) (ends_fail i _ _ cause)).mono
      fun _ _ reported => reported.keeps
  have reported : Retains (Run.reportFailure i r) :=
    (log _).bind fun _ => (traceDocument r.left).bind sent
  refine reported.bind fun _ => ?_
  split
  · exact throw _
  · exact pure _

end Retains

end Run

variable {i : Invoke} {options : HandlerOptions} {context : Context} {x : Value}
  {w w' v v' : Worker}

/-! ## Sending and closing -/

/-- From `w` to `w'` there was neither a call of the handler nor a request, and of the events there
    were, those that close a result are just the given one, if any. -/
def Worker.Releases (w : Worker) (closing : Option Event) (w' : Worker) : Prop :=
  ∃ events, w'.journal = w.journal ++ events ∧ (∀ e ∈ events, e.isLoud = false) ∧
    events.filter Event.isClosing = closing.toList

namespace Worker.Releases

theorem none (w : Worker) : w.Releases none w :=
  ⟨[], (List.append_nil _).symm, by simp, rfl⟩

theorem close {e : Event} (closes : x.closing? = some e) (w : Worker) :
    w.Releases (some e) (w.note e) := by
  obtain ⟨closing, quiet⟩ := Value.isClosing_of_closing? closes
  exact ⟨[e], rfl, fun _ mem => List.mem_singleton.1 mem ▸ quiet, List.filter_cons_of_pos closing⟩

/-- What else goes unnoticed and closes nothing may follow. -/
theorem append {closing : Option Event} {u : Worker} (h : w.Releases closing v)
    (quiet : v.Quietly u) (keeps : v.Keeps u) : w.Releases closing u := by
  obtain ⟨events, journal, silent, closings⟩ := h
  obtain ⟨⟨more, adds, silent'⟩, -⟩ := quiet
  obtain ⟨more', journal', open_⟩ := keeps
  have same : more = more' := List.append_cancel_left (adds.journal.symm.trans journal')
  subst same
  refine ⟨events ++ more, ?_, fun e mem => ?_, ?_⟩
  · rw [journal', journal, List.append_assoc]
  · exact (List.mem_append.1 mem).elim (silent e) (silent' e)
  · rw [List.filter_append, closings, List.filter_eq_nil_iff.2 (by simpa using open_),
      List.append_nil]

end Worker.Releases

/-- What can be closed is closed once. -/
theorem releases_release [Interpreter] (x : Value) (w : Worker) :
    Ends (Response.release x) w fun _ w' => w.Releases x.closing? w' := by
  have passed : ∀ {closing : Option Event} {v : Worker} (e : Thrown) (entry : Text → LogEntry),
      w.Releases closing v →
      Ends (Response.passOver e entry) v fun _ w' => w.Releases closing w' :=
    fun e entry released => ((ends_passOver e entry).and (Run.Retains.passOver e entry _)).mono
      fun _ _ h => released.append h.1.1 h.2
  cases x with
  | stream content => exact .close (x := .stream content) rfl w
  | generator p => exact .close (x := .generator p) rfl w
  | custom o =>
    rw [Response.release.eq_def]
    dsimp only
    have closing_eq : ∀ {e}, (Value.custom o).closing? = some e →
        w.Releases (Value.custom o).closing? (w.note e) := fun closes => by
      rw [closes]
      exact .close closes w
    split
    · next close => exact closing_eq (by rw [Value.closing?, close])
    · next raised close =>
      refine Ends.note_bind (passed raised _ (closing_eq ?_))
      rw [Value.closing?, close]
    · next close =>
      rw [Value.closing?, close]
      exact .none w
    · next y _ close =>
      rw [Value.closing?, close]
      exact passed _ _ (.none w)
    · next close core => exact closing_eq (by rw [Value.closing?, close, core])
    · next close core => exact closing_eq (by rw [Value.closing?, close, core])
    · next close no_stream no_generator =>
      have nothing : (Value.custom o).closing? = .none := by
        rw [Value.closing?.eq_def]
        dsimp only
        split <;> simp_all
      rw [nothing]
      exact .none w
  | _ => exact .none w

/-- From `w` to `w'` it was tried to send a result as the response of an invoke, with the outcome
    `s`. Whatever that is, the result was released afterwards, and never before; `r` is the outcome
    after that, which is `s` unless the release has raised an error. -/
def Released [Interpreter] (i : Invoke) (x : Value) (w : Worker) (r : Except Thrown Unit)
    (w' : Worker) : Prop :=
  ∃ body w₁ w₂ w₃ s released, w.Keeps w₁ ∧ Reported x.LetsThrough i "response" body w₁ s w₂ ∧
    Response.release x w₂ = Run.ended released w₃ ∧ (r = released.bind fun _ => s) ∧
    w₂.Releases x.closing? w₃ ∧ w'.journal = w₃.journal

theorem released_sendResponse [Interpreter] (i : Invoke) (x : Value) (w : Worker) :
    Ends (Run.sendResponse i x) w (Released i x w) := by
  have negotiated := ((Run.Retains.negotiate x w).and (ends_negotiate x)).mono
    fun r w₁ h => (⟨h.1, h.2.2⟩ : w.Keeps w₁ ∧ _)
  refine (ends_sendResponse_exact i negotiated).mono ?_
  rintro r w' ⟨body, w₁, w₂, s, released, keeps, reported, ended, rfl⟩
  have releases := releases_release x w₂
  rw [Ends, ended] at releases
  refine ⟨body, w₁, w₂, w', s, released, keeps, reported, ended, rfl, ?_, rfl⟩
  cases released <;> exact releases

/-- Where there is nothing to close, nothing is closed. -/
theorem Run.Retains.sendResponse [Interpreter] (none : x.closing? = none) (i : Invoke) :
    Retains (Run.sendResponse i x) := by
  refine fun w => (released_sendResponse i x w).mono ?_
  rintro r w' ⟨body, w₁, w₂, w₃, s, released, keeps, reported, -, -, releases, same⟩
  obtain ⟨events, journal, -, closings⟩ := releases
  refine (keeps.trans reported.keeps).trans ⟨events, same.trans journal, fun e mem => ?_⟩
  rw [none] at closings
  exact Bool.eq_false_iff.2 (List.filter_eq_nil_iff.1 closings e mem)

theorem Run.Retains.settle [Interpreter] (i : Invoke) (outcome : Except Report Value)
    (none : ∀ x, outcome = .ok x → x.isBody = true → x.closing? = none) :
    Retains (Run.settle i outcome) := by
  cases outcome with
  | error r => exact reportAndStopIfFatal i r
  | ok x =>
    rw [Run.settle]
    split
    · next body => exact sendResponse (none x rfl body) i
    · exact (ofExcept _).bind fun r => reportAndStopIfFatal i r

/-! ## From the handler to the loop -/

/-- The handler is called with the payload and returns `x`, when `w` has become `w'`. -/
inductive Handler.Yields [Interpreter] (h : Handler) (base context : Context) (payload : Bytes)
    (w : Worker) (x : Value) (w' : Worker) : Prop
  | raw : h.style = .raw → h.call base context (.raw context payload) w = .ok (.returns x) w' →
    Yields h base context payload w x w'
  | adapted {event : Document} : h.style ≠ .raw → Payload.decode payload = .ok event →
    h.call base context (.adapted event context.invocation?) w = .ok (.returns x) w' →
    Yields h base context payload w x w'

/-- What the loop sends is the very result of the handler: it is called without an event and returns
    a body, or the result needs no encoding. -/
def Handler.Sends (h : Handler) (x : Value) : Prop :=
  h.style = .raw ∧ x.isBody = true ∨ h.style ≠ .raw ∧ x.passesThrough = true

theorem Handler.Sends.isBody {h : Handler} (sends : h.Sends x) : x.isBody = true :=
  sends.elim (fun raw => raw.2) fun adapted => Value.isBody_of_passesThrough adapted.2

theorem encode_of_passesThrough [Interpreter] (passes : x.passesThrough = true) :
    Response.encode x = pure x := by
  rw [Response.encode, if_pos passes]

/-- An encoding has nothing to close. -/
theorem ends_encode_closing [Interpreter] (encoded : x.passesThrough = false) (w : Worker) :
    Ends (Response.encode x) w fun r _ => ∀ y, r = .ok y → y.closing? = none := by
  rw [Response.encode, if_neg (by simp [encoded])]
  refine Ends.ofExcept_bind (fun body _ => ?_) ?_
  · split
    · refine (ends_contentType x _).bind ?_ ?_
      · rintro t w' - y ⟨⟩
        rfl
      · rintro e w' - y ⟨⟩
    · rintro y ⟨⟩
      rfl
  · rintro e - y ⟨⟩

section Yields

variable [Interpreter] {h : Handler} {base : Context} {payload : Bytes}

/-- A result of a call with an event is encoded, or is its own encoding. -/
theorem run_of_returns {event : Document} (style : h.style ≠ .raw)
    (decoded : Payload.decode payload = .ok event) (returned :
      h.call base context (.adapted event context.invocation?) v = .ok (.returns x) v') :
    h.run base context payload v = h.encode x v' := by
  rw [Handler.run_of_adapted style, Handler.runAdapted_eq, decoded]
  exact Run.bind_of_ok returned

theorem run_of_yields (yields : h.Yields base context payload v x v') (sends : h.Sends x) :
    h.run base context payload v = .ok (.returns x) v' := by
  cases yields with
  | raw style returned =>
    rw [Handler.run, style]
    exact returned
  | adapted style decoded returned =>
    have passes := (sends.resolve_left fun raw => style raw.1).2
    rw [run_of_returns style decoded returned, Handler.encode, encode_of_passesThrough passes]
    rfl

/-- A result that is not sent is no body, or another value is sent, which has nothing to close. -/
theorem ends_run_of_yields (yields : h.Yields base context payload v x v')
    (other : ¬ h.Sends x) :
    Ends (h.run base context payload) v fun r u => v'.Keeps u ∧
      ∀ y, r = .ok (.returns y) → y.isBody = true → y.closing? = none := by
  cases yields with
  | raw style returned =>
    rw [Ends, Handler.run, style]
    dsimp only
    rw [returned]
    refine ⟨.of_same rfl, ?_⟩
    rintro _ ⟨⟩ body
    exact absurd (.inl ⟨style, body⟩) other
  | adapted style decoded returned =>
    have encoding := ends_encode_closing
      (Bool.eq_false_iff.2 fun passes => other (.inr ⟨style, passes⟩)) v'
    -- To encode the result may fail, too; then the handler has raised an error in its place.
    have contained : Ends (h.encode x) v' fun r u => v'.Keeps u ∧
        ∀ y, r = .ok (.returns y) → y.isBody = true → y.closing? = none := by
      refine ((Run.Retains.encode x v').and encoding).outcome_bind ?_
      rintro r u ⟨keeps, closed⟩
      cases r with
      | ok y =>
        refine ⟨keeps, ?_⟩
        rintro _ ⟨⟩ -
        exact closed y rfl
      | error e => exact ⟨keeps, by rintro y ⟨⟩⟩
    rw [Ends, run_of_returns style decoded returned]
    exact contained

end Yields

/-! ## A whole invoke -/

theorem released_execute [Interpreter]
    (yields : options.handler.Yields options.base context i.payload v x v')
    (sends : options.handler.Sends x) :
    Ends (Run.execute i context options) v (Released i x v') := by
  have invoked : options.handler.invoke options.base context i.payload v = .ok (.ok x) v' := by
    rw [Handler.invoke_eq, Run.bind_of_ok (run_of_yields yields sends)]
    rfl
  have settled : Run.settle i (.ok x) = Run.sendResponse i x := if_pos sends.isBody
  rw [Ends, Run.execute_eq, Run.bind_of_ok invoked, settled]
  exact released_sendResponse i x v'

theorem keeps_execute [Interpreter]
    (yields : options.handler.Yields options.base context i.payload v x v')
    (other : ¬ options.handler.Sends x) :
    Ends (Run.execute i context options) v fun _ u => v'.Keeps u := by
  have invoked : Ends (options.handler.invoke options.base context i.payload) v fun r u =>
      v'.Keeps u ∧ ∀ y, r = .ok (.ok y) → y.isBody = true → y.closing? = none := by
    rw [Handler.invoke_eq]
    refine (ends_run_of_yields yields other).bind ?_ fun e u h => ⟨h.1, nofun⟩
    rintro ending u ⟨keeps, closed⟩
    cases ending with
    | returns y =>
      refine ⟨keeps, ?_⟩
      rintro _ ⟨⟩
      exact closed y rfl
    | raises e trace =>
      exact Ends.ofExcept_bind (fun _ _ => ⟨keeps, nofun⟩) fun _ _ => ⟨keeps, nofun⟩
  rw [Run.execute_eq]
  refine invoked.bind ?_ fun e u h => h.1
  rintro outcome u ⟨keeps, closed⟩
  exact (Run.Retains.settle i outcome (fun y eq => closed y (eq ▸ rfl)) u).mono
    fun _ _ keeps' => keeps.trans keeps'

/-- Until the handler has returned nothing is closed. -/
theorem keeps_of_yields [Interpreter]
    (built : Context.build i options.base options.settings (w.naming i) = .ok context v)
    (yields : options.handler.Yields options.base context i.payload v x v') : w.Keeps v' := by
  have before : w.Keeps v := by
    have adds := ends_build (w := w.naming i) i options.base options.settings
    rw [Ends, built] at adds
    exact .of_same (adds.1.journal.trans (List.append_nil _))
  have called : ∀ arrival, options.handler.call options.base context arrival v =
      .ok (.returns x) v' → v.Keeps v' := by
    intro arrival returned
    have journal := journal_call options.handler options.base context arrival v
    rw [Ends, returned] at journal
    obtain ⟨sight, events, journal, seen⟩ := journal
    refine ⟨_, journal, ?_⟩
    rintro e (_ | ⟨_, mem⟩)
    · rfl
    · obtain ⟨sight, rfl⟩ := seen e mem
      rfl
  cases yields with
  | raw _ returned => exact before.trans (called _ returned)
  | adapted _ _ returned => exact before.trans (called _ returned)

/-- A result of the handler that the loop sends itself is released once, after the attempt to send
    it and whatever has come of that. But one that is encoded is not: what is released is the
    encoding, which has nothing to close. No result is closed before the attempt to send it. -/
theorem Run.releases [Interpreter] (options : HandlerOptions) (i : Invoke) (w : Worker)
    (context : Context) (v v' : Worker) (x : Value)
    (built : Context.build i options.base options.settings (w.naming i) = .ok context v)
    (yields : options.handler.Yields options.base context i.payload v x v') :
    w.Keeps v' ∧
    (options.handler.Sends x → Ends (handleInvoke i options) w (Released i x v')) ∧
    (¬ options.handler.Sends x → Ends (handleInvoke i options) w fun _ w' => v'.Keeps w') := by
  refine ⟨keeps_of_yields built yields, fun sends => ?_, fun other => ?_⟩
  · refine ends_handleInvoke_of_build (r := .ok context) built ?_
    refine (released_execute yields sends).andFinally fun r u released => ?_
    cases r <;> exact released
  · refine ends_handleInvoke_of_build (r := .ok context) built ?_
    refine (keeps_execute yields other).andFinally fun r u keeps => ?_
    cases r <;> exact keeps

/-! ## Results with a close method -/

/-- An object of a class that is derived from that of a value, with a method to close it. -/
def Value.closable (core : Value) : Value :=
  .custom ⟨"Resource", core, { Capabilities.none with close := some (.returns .null) }⟩

/-- A handler of events that does nothing but return a value, below the first root there is. -/
def HandlerOptions.returning (x : Value) : HandlerOptions :=
  ⟨.of .plain fun _ _ => ⟨[], .returns x⟩, .ofScope 0, none⟩

/-- An invoke without a payload. -/
def Invoke.bare : Invoke :=
  ⟨"a", [], .traced "a" "", some ⟨"h"⟩⟩

theorem exists_yields [Interpreter] (x : Value) (w : Worker) :
    ∃ context v v', Context.build .bare (.ofScope 0) none (w.naming .bare) = .ok context v ∧
      (HandlerOptions.returning x).handler.Yields (.ofScope 0) context [] v x v' :=
  ⟨_, _, _, rfl, .adapted nofun rfl rfl⟩

/-- Bytes of a derived class are closed after they were sent. -/
theorem Run.releases_of_bytes :
    (Value.closable (.bytes [])).closing?.isSome ∧
      ∃ v', Ends (handleInvoke .bare (.returning (.closable (.bytes [])))) (.start 0 none)
        (Released .bare (.closable (.bytes [])) v') := by
  obtain ⟨context, v, v', built, yields⟩ := exists_yields (.closable (.bytes [])) (.start 0 none)
  obtain ⟨-, released, -⟩ := releases (.returning (.closable (.bytes []))) .bare (.start 0 none)
    context v v' _ built yields
  exact ⟨rfl, v', released (.inr ⟨nofun, rfl⟩)⟩

/-- A list of a derived class is encoded and sent, but never closed. -/
theorem Run.not_forall_closed :
    ¬ ∀ (options : HandlerOptions) (c : Client) (i : Invoke) (w w' : Worker) (context : Context)
      (v v' : Worker) (x body : Value) (r : Request) (reply : Reply), i.client = some c →
      Context.build i options.base options.settings (w.naming i) = .ok context v →
      options.handler.Yields options.base context i.payload v x v' → x.closing?.isSome →
      handleInvoke i options w = .ok () w' → w.journal = [] → .request r ∈ w'.journal →
      Posted w.replies (c.invocationUrl i.id "response") body r reply →
      ∃ e ∈ w'.journal, e.isClosing = true := by
  intro all
  obtain ⟨context, v, v', built, yields⟩ :=
    exists_yields (.closable (.list [.bool true])) (.start 0 none)
  obtain ⟨call, r, w', handled, journal, is_call, posted⟩ : ∃ call r w',
      handleInvoke .bare (.returning (.closable (.list [.bool true]))) (.start 0 none) =
        .ok () w' ∧
      w'.journal = [call, .request r] ∧ call.isCall = true ∧
      Posted (Worker.start 0 none).replies (Client.invocationUrl ⟨"h"⟩ "a" "response")
        (.bytes (Bytes.ofAscii "[true]")) r .accepted :=
    ⟨_, _, _, rfl, rfl, rfl, rfl, ⟨_, rfl, rfl, rfl⟩, _, rfl, rfl⟩
  obtain ⟨e, mem, closing⟩ := all (.returning (.closable (.list [.bool true]))) ⟨"h"⟩ .bare
    (.start 0 none) w' context v v' _ _ r _ rfl built yields rfl handled rfl (by simp [journal])
    posted
  rw [journal] at mem
  rcases mem with _ | ⟨_, _ | ⟨_, ⟨⟩⟩⟩
  · cases call with
    | called => cases closing
    | _ => cases is_call
  · cases closing

end InvokeWorker
