import InvokeWorker.Proofs.LogCorrelation
import InvokeWorker.Worker.Bootstrap

/-!
# What ends the loop

The loop never returns. Where a request fails, the worker makes that an error of the Runtime API,
but not every error is caught: some errors of the transport are *let through*
(`Delivery.LetsThrough`).

* `Run.loop_errors`: if the handler returns bytes, then the loop, and each invoke, ends with an
  error of the Runtime API or with one that is let through. The process logs why the loop has
  ended, in its only critical line, and exits with the status 1, unless an error was let through.
* `Run.not_forall_isApiError`: an error can be let through.
-/

namespace InvokeWorker

open Run (Ends)

/-! ## Errors that are let through -/

/-- The Runtime API cannot be reached, or refuses a request. -/
def Thrown.IsApiError (e : Thrown) : Prop :=
  ∃ message status, e = .runtimeApi message status

/-- An error of sending a report is let through, or one that comes up in its place: it asks the
    process to stop, or its text or its status code cannot be had. -/
inductive Thrown.Escapes [Interpreter] (x : Thrown) : Thrown → Prop
  | stop : x.isOrdinary = false → x.Escapes x
  | text {y e : Thrown} : x.Brings y → y.display = .error e → x.Escapes e
  | status {y e : Thrown} : x.Brings y → y.statusCode = .error e → x.Escapes e

/-- To some report the transport replies with an error. -/
def Replies.Fails (replies : Replies) (x : Thrown) : Prop :=
  replies.response = .failure x ∨ replies.error = .failure x ∨ replies.other = .failure x

/-- An error of sending a report is let through. -/
def Replies.LetThrough [Interpreter] (replies : Replies) (e : Thrown) : Prop :=
  ∃ x, replies.Fails x ∧ x.Escapes e

/-- An error is let through that is raised when an invoke is asked for or reported. -/
inductive Delivery.LetsThrough [Interpreter] (d : Delivery) : Thrown → Prop
  /-- Asked for an invoke, the transport raises an error, which is none of its own failures. -/
  | foreign {x : Thrown} : d.answer = .failure x → x.isIn .transport = false → d.LetsThrough x
  /-- It raises an error whose text cannot be had. -/
  | text {x e : Thrown} : d.answer = .failure x → x.display = .error e → d.LetsThrough e
  /-- It raises an error when the invoke is reported. -/
  | report {e : Thrown} : d.replies.LetThrough e → d.LetsThrough e

/-- An error is let through in a run of the loop: the address of the client makes no URL, or it is
    let through at some delivery. -/
def LetThrough [Interpreter] (c : Client) (deliveries : List Delivery) (e : Thrown) : Prop :=
  Client.normalize c.nextUrl = .error e ∨ ∃ d ∈ deliveries, d.LetsThrough e

/-- A handler that is called with a payload and always returns bytes. -/
structure Handler.ReturnsBytes (h : Handler) : Prop where
  style : h.style = .raw
  bytes : ∀ w context payload, ∃ b,
    (h.conduct w (.raw context payload)).ending = .returns (.bytes b)

/-- The deadline of an invoke is not too long to be read as a number, and its trace header can be
    published if its other headers are well formed. -/
structure Invoke.Sound (i : Invoke) : Prop where
  deadline : ∀ n, Deadline.read (i.header Header.deadline) ≠ .error (.digits n)
  trace : i.WellFormed → Correlation.unpublishable? (i.header Header.trace) = none

variable {c : Client} {i : Invoke} {options : HandlerOptions} {delivery : Delivery}
  {deliveries rest : List Delivery} {replies : Replies} {w w' v v' : Worker} {e x : Thrown}
  {α β : Type}

theorem Thrown.IsApiError.isPlain (h : e.IsApiError) : e.IsPlain := by
  obtain ⟨message, status, rfl⟩ := h
  exact Thrown.isPlain_runtimeApi message status

theorem Thrown.IsApiError.isOrdinary (h : e.IsApiError) : e.isOrdinary = true := by
  obtain ⟨message, status, rfl⟩ := h
  rfl

/-- What becomes of an error of the transport. -/
theorem transportFailure_cases [Interpreter] (remark : Text) (x : Thrown) :
    (Client.transportFailure remark x).IsApiError ∨
      (x.isIn .transport = false ∧ Client.transportFailure remark x = x) ∨
      x.display = .error (Client.transportFailure remark x) := by
  rw [Client.transportFailure]
  split
  · split
    · exact .inl ⟨_, _, rfl⟩
    · next raised unshown => exact .inr (.inr unshown)
  · next foreign => exact .inr (.inl ⟨Bool.eq_false_iff.2 foreign, rfl⟩)

theorem isOrdinary_of_normalize {url : Text} (failed : Client.normalize url = .error e) :
    e.isOrdinary = true := by
  rw [Client.normalize] at failed
  split at failed
  · cases failed
  · next fault _ =>
    cases failed
    cases fault <;> rfl

/-! ## Reports -/

/-- What sending a report can raise: an error that is plain and ordinary, or one of the
    transport. -/
def Replies.Raises [Interpreter] (replies : Replies) (e : Thrown) : Prop :=
  (e.IsPlain ∧ e.isOrdinary = true) ∨ ∃ x, replies.Fails x ∧ x.Brings e

theorem fails_of_replyTo {url : Url} (failed : Client.replyTo replies url = .failure x) :
    replies.Fails x := by
  rw [Client.replyTo] at failed
  split at failed
  · exact .inl failed
  · split at failed
    · exact .inr (.inl failed)
    · exact .inr (.inr failed)

/-- There is only one error to say something about. -/
theorem forall_error {P : Thrown → Prop} (h : P e) :
    ∀ e', (.error e : Except Thrown α) = .error e' → P e' := by
  rintro _ ⟨⟩
  exact h

theorem isOrdinary_of_headerOctets {t : Text} (failed : Client.headerOctets t = .error e) :
    e.isOrdinary = true := by
  rw [Client.headerOctets] at failed
  cases encoded : Charset.ascii.encode? t with
  | ok octets =>
    rw [encoded] at failed
    cases failed
  | error fault =>
    rw [encoded] at failed
    cases failed
    rfl

theorem raises_of_afterReply [Interpreter] {url : Text} {u : Url}
    (failed : Client.afterReply url (Client.replyTo replies u) = .error e) :
    replies.Raises e := by
  cases reply : Client.replyTo replies u with
  | failure x =>
    rw [reply] at failed
    cases failed
    rcases transportFailure_cases ("failed to POST to " ++ url) x with api | ⟨-, same⟩ | unshown
    · exact .inl ⟨api.isPlain, api.isOrdinary⟩
    · rw [same]
      exact .inr ⟨x, fails_of_replyTo reply, .self⟩
    · exact .inr ⟨x, fails_of_replyTo reply, .text .self unshown⟩
  | status status =>
    rw [reply, Client.afterReply] at failed
    split at failed
    · cases failed
    · cases failed
      exact .inl ⟨Thrown.isPlain_runtimeApi _ _, rfl⟩

/-- A POST of bytes. -/
theorem ends_post_bytes [Interpreter] (url : Text) (b : Bytes) (type : Text)
    (cause : Option Bytes) :
    Ends (Client.post url (.bytes b) type cause) w fun r w' => w'.replies = w.replies ∧
      ∀ e, r = .error e → w.replies.Raises e := by
  refine (concludes_post url (.bytes b) type cause).mono ?_
  rintro _ _ (unmade | made)
  · have plain := unmade.came.resolve_right (Value.not_letsThrough_bytes b _)
    refine ⟨rfl, forall_error (.inl ⟨plain, ?_⟩)⟩
    obtain failed | failed | failed | ⟨body, x, made, failed, -⟩ := unmade
    · exact isOrdinary_of_normalize failed
    · exact isOrdinary_of_headerOctets failed
    · cases failed
    · cases made
      cases failed
  · exact ⟨rfl, fun e failed => raises_of_afterReply failed⟩

namespace Run

variable [Interpreter]

/-- Errors of the computation are errors of the Runtime API, or are let through. The replies stay in
    store. -/
def Guarded (run : Run α) : Prop :=
  ∀ w, Ends run w fun r w' => w'.replies = w.replies ∧
    ∀ e, r = .error e → e.IsApiError ∨ w.replies.LetThrough e

namespace Guarded

variable {run : Run α} {f : α → Run β}

theorem of_ok (h : ∀ w, Ends run w fun r w' => w'.replies = w.replies ∧ ∃ a, r = .ok a) :
    Guarded run := by
  intro w
  refine (h w).mono ?_
  rintro _ _ ⟨same, a, rfl⟩
  exact ⟨same, nofun⟩

theorem bind (h : Guarded run) (h' : ∀ a, Guarded (f a)) : Guarded (run >>= f) := by
  intro w
  refine (h w).bind ?_ ?_
  · rintro a v ⟨same, -⟩
    refine (h' a v).mono fun r w' ⟨same', errors⟩ => ?_
    rw [same] at same' errors
    exact ⟨same', errors⟩
  · exact fun e v ⟨same, errors⟩ => ⟨same, forall_error (errors e rfl)⟩

/-- What is raised in place of ordinary errors. -/
theorem replacing (remark : Text)
    (h : ∀ w, Ends run w fun r w' => w'.replies = w.replies ∧
      ∀ e, r = .error e → w.replies.Raises e) :
    Guarded (run.replacing (asApiError remark)) := by
  intro w
  refine (h w).replacing (fun a v ⟨same, _⟩ => ⟨same, nofun⟩) fun e v ⟨same, errors⟩ => ?_
  split
  · rw [asApiError]
    split
    · next raised unshown =>
      refine ⟨same, forall_error ?_⟩
      rcases errors e rfl with ⟨plain, -⟩ | ⟨x, fails, brings⟩
      · -- A plain error has a text.
        obtain ⟨t, shown⟩ := plain.display
        simp [shown] at unshown
      · exact .inr ⟨x, fails, .text brings unshown⟩
    · split
      · next raised unknown =>
        refine ⟨same, forall_error ?_⟩
        rcases errors e rfl with ⟨plain, -⟩ | ⟨x, fails, brings⟩
        · -- And its status code is a plain attribute.
          obtain ⟨status, known⟩ := plain.statusCode
          simp [known] at unknown
        · exact .inr ⟨x, fails, .status brings unknown⟩
      · exact ⟨same, forall_error (.inl ⟨_, _, rfl⟩)⟩
  · next extraordinary =>
    refine ⟨same, forall_error ?_⟩
    rcases errors e rfl with ⟨-, ordinary⟩ | ⟨x, fails, brings⟩
    · exact absurd ordinary extraordinary
    · refine .inr ⟨x, fails, ?_⟩
      cases brings with
      | self => exact .stop (Bool.eq_false_iff.2 extraordinary)
      | text brings unshown => exact .text brings unshown
      | status brings unknown => exact .status brings unknown

/-- A report of bytes. -/
theorem send (i : Invoke) (action : Text) (b : Bytes) (type : Text) (cause : Option Bytes)
    (remark : Text) :
    Guarded (Run.replacing (do
      let c ← i.boundClient
      Client.post (c.invocationUrl i.id action) (.bytes b) type cause) (asApiError remark)) := by
  refine replacing remark fun w => ?_
  rw [Invoke.boundClient]
  split
  · exact ends_post_bytes _ b type cause
  · exact ⟨rfl, forall_error (.inl ⟨Thrown.isPlain_builtin _ _, rfl⟩)⟩

theorem log (entry : LogEntry) : Guarded (Run.log entry) :=
  of_ok fun _ => ⟨rfl, (), rfl⟩

theorem reportFailure (i : Invoke) {r : Report} (lists : r.ListsPaths) :
    Guarded (Run.reportFailure i r) := by
  have document : Guarded (traceDocument r.left) := of_ok fun w =>
    lists.ends_traceDocument.mono fun _ _ ⟨⟨⟨events, adds, _⟩, _⟩, made⟩ => ⟨adds.replies, made⟩
  exact (log _).bind fun _ => document.bind fun cause => send i "error" r.payload _ cause _

theorem reject (i : Invoke) (plain : e.IsPlain) : Guarded (Run.reject i e) := by
  obtain ⟨t, shown⟩ := plain.display
  obtain ⟨r, report⟩ := plain.ofError []
  rw [Run.reject, shown, report]
  have lists := Report.listsPaths_of_frames (plain.frames_ofError report)
  exact (log _).bind fun _ => reportFailure i lists

/-- Bytes are sent as they are, and there is nothing to release. -/
theorem sendResponse (i : Invoke) (b : Bytes) : Guarded (Run.sendResponse i (.bytes b)) :=
  fun w => (send i "response" b ContentType.octets none _ w).andFinally fun r w' h => by
    cases r <;> exact h

end Guarded

end Run

/-! ## Invokes -/

theorem malformed_of_headerDocument {remark : Text} {absent : α}
    {read : Document → HeaderDocument.Outcome α} {t : Text}
    (failed : HeaderDocument.parse remark absent read t = .error e) :
    e.isIn .malformedInvoke = true := by
  rw [HeaderDocument.parse] at failed
  split at failed
  · cases failed
  · split at failed
    · cases failed
      rfl
    · split at failed
      · cases failed
      · cases failed
        rfl

/-- All that can be wrong with the headers makes an invoke malformed, if the deadline is not too
    long. -/
theorem malformed_of_ofInvoke {settings : Option FunctionSettings}
    (short : ∀ n, Deadline.read (i.header Header.deadline) ≠ .error (.digits n))
    (failed : Invocation.ofInvoke i settings = .error e) : e.isIn .malformedInvoke = true := by
  rw [Invocation.ofInvoke] at failed
  split at failed
  · next e unread =>
    cases failed
    rw [Deadline.parse] at unread
    split at unread
    · cases unread
    · next fault read =>
      cases unread
      cases fault with
      | digits n => exact absurd read (short n)
      | _ => rfl
  · split at failed
    · next e unread =>
      cases failed
      exact malformed_of_headerDocument unread
    · split at failed
      · next e unread =>
        cases failed
        exact malformed_of_headerDocument unread
      · cases failed

/-- Such a handler is called, and bytes come out. -/
theorem Handler.ReturnsBytes.call [Interpreter] {h : Handler} (returns : h.ReturnsBytes)
    (base context : Context) (payload : Bytes) (w : Worker) :
    ∃ b w', h.run base context payload w = .ok (.returns (.bytes b)) w' ∧
      w'.replies = w.replies := by
  obtain ⟨b, ending⟩ := returns.bytes (w.sight (.raw context payload)).1 context payload
  have run_eq : h.run base context payload = h.call base context (.raw context payload) := by
    rw [Handler.run, returns.style]
  obtain ⟨events, adds, -⟩ := Worker.adds_performAll ((w.sight (.raw context payload)).1.note
    (.called (.raw context payload) (w.sight (.raw context payload)).2
      (w.sight (.raw context payload)).1.correlation)) base (.raw context payload) [context]
    (h.conduct (w.sight (.raw context payload)).1 (.raw context payload)).deeds
  rw [run_eq, Handler.call_eq, ending]
  exact ⟨b, _, rfl, adds.replies⟩

theorem Handler.ReturnsBytes.invoke [Interpreter] {h : Handler} (returns : h.ReturnsBytes)
    (base context : Context) (payload : Bytes) (w : Worker) :
    ∃ b w', h.invoke base context payload w = .ok (.ok (.bytes b)) w' ∧
      w'.replies = w.replies := by
  obtain ⟨b, w', ran, same⟩ := returns.call base context payload w
  exact ⟨b, w', Run.bind_of_ok ran, same⟩

namespace Run.Guarded

variable [Interpreter]

theorem execute (returns : options.handler.ReturnsBytes) (i : Invoke) (context : Context) :
    Guarded (Run.execute i context options) := by
  intro w
  obtain ⟨b, v, invoked, same⟩ := returns.invoke options.base context i.payload w
  have sent := sendResponse i b v
  rw [same] at sent
  rw [Ends, Run.execute_eq, bind_of_ok invoked]
  exact sent

/-- No error but those of the Runtime API comes out of an invoke, unless it is let through. -/
theorem handleInvoke (options : HandlerOptions) (returns : options.handler.ReturnsBytes)
    (sound : i.Sound) :
    Guarded (Run.handleInvoke i options) := by
  intro w
  refine ends_handleInvoke_of_cases ?malformed ?unpublishable ?published
  case malformed =>
    intro e made
    rw [Run.proceed, if_pos (malformed_of_ofInvoke sound.deadline made)]
    exact reject i (plainly_ofInvoke i _ e made) (w.naming i)
  case unpublishable =>
    intro invocation e made refused
    rw [trace_of_ofInvoke made, sound.trace (wellFormed_of_ofInvoke made)] at refused
    cases refused
  case published =>
    intro invocation _ _
    refine (execute returns i _ _).andFinally fun r w' guarded => ?_
    cases r <;> exact guarded

end Run.Guarded

/-! ## Runs -/

theorem not_letsThrough_exhausted [Interpreter] : ¬ Delivery.exhausted.LetsThrough e := by
  intro through
  cases through with
  | foreign answer foreign =>
    cases answer
    cases foreign
  | text answer unshown =>
    cases answer
    cases unshown
  | report through =>
    obtain ⟨x, fails, -⟩ := through
    rcases fails with fails | fails | fails <;> cases fails

/-- An error in place of an invoke. -/
theorem errors_of_next [Interpreter] (failed : c.next delivery v = .error e v') :
    e.IsApiError ∨ LetThrough c [delivery] e := by
  have ends : Ends (c.next delivery) v fun r _ =>
      ∀ e, r = .error e → e.IsApiError ∨ LetThrough c [delivery] e := by
    refine Ends.ofExcept_bind (fun url _ => Ends.note_bind ?_) ?_
    · split
      · next x answer =>
        refine forall_error ?_
        refine (transportFailure_cases "failed to get the next invoke" x).imp_right ?_
        rintro (⟨foreign, same⟩ | unshown)
        · rw [same]
          exact .inr ⟨delivery, List.mem_singleton_self _, .foreign answer foreign⟩
        · exact .inr ⟨delivery, List.mem_singleton_self _, .text answer unshown⟩
      · refine Ends.modify_bind ?_
        split
        · exact forall_error (.inl ⟨_, _, rfl⟩)
        · exact nofun
    · exact fun e failed => forall_error (.inr (.inl failed))
  rw [Ends, failed] at ends
  exact ends e rfl

/-- From `w` to `w'` no line of the highest level is logged. -/
abbrev Worker.Calmly (w w' : Worker) : Prop :=
  w.Grows (·.isCritical = false) w'

theorem calmly_of_signed (h : i.Signed w w') : w.Calmly w' :=
  h.events.mono fun _ h => h.calm

theorem calmly_receiving (w : Worker) (url : Url) (replies : Replies) (i : Invoke) :
    w.Calmly (w.receiving url replies i) := by
  have asked : w.Calmly { w.note (.request (Client.asking url)) with replies } := .note rfl
  exact asked.trans (.note rfl)

/-- The loop logs nothing critical, wherever it gets to. -/
theorem Run.Reaches.calmly [Interpreter] {api : Text}
    (reached : Reaches c api options deliveries w rest v) : w.Calmly v := by
  induction reached with
  | start => exact .note rfl
  | @next delivery rest i v v₁ v₂ v₃ _ delivered handled waited ih =>
    obtain ⟨-, url, -, rfl⟩ := delivers_of_next delivered
    have signed := Signed.ends_handleInvoke i options (v.receiving url delivery.replies i)
    rw [Ends, handled] at signed
    have signed' := Signed.ends_waitAfterInvoke signed.owns options.base
    rw [Ends, waited] at signed'
    exact ih.trans ((calmly_receiving ..).trans
      ((calmly_of_signed signed).trans (calmly_of_signed signed')))

theorem Run.Stops.calmly [Interpreter] (stops : Stops c options rest v e v') : v.Calmly v' := by
  cases stops with
  | undelivered failed =>
    have ends := ends_next_exact c (rest.headD .exhausted) v
    rw [Ends, failed] at ends
    refine ends.mono fun e asks => ?_
    cases e with
    | request r => rfl
    | _ => cases asks
  | @unhandled i e v₁ v' delivered failed =>
    obtain ⟨-, url, -, rfl⟩ := delivers_of_next delivered
    have signed := Signed.ends_handleInvoke i options
      (v.receiving url (rest.headD .exhausted).replies i)
    rw [Ends, failed] at signed
    exact (calmly_receiving ..).trans (calmly_of_signed signed)

/-- What is delivered at last was to be delivered, or there is nothing more. -/
theorem Run.Reaches.mem_headD [Interpreter] {api : Text}
    (reached : Reaches c api options deliveries w rest v) :
    rest.headD .exhausted ∈ deliveries ∨ rest.headD .exhausted = .exhausted := by
  cases rest with
  | nil => exact .inr rfl
  | cons delivery rest => exact .inl (reached.suffix.subset List.mem_cons_self)

theorem ends_loop_guarded [Interpreter] (api : Text) (options : HandlerOptions)
    (returns : options.handler.ReturnsBytes)
    (sound : ∀ d ∈ deliveries, ∀ i, Delivers c d i → i.Sound) :
    Ends (Run.loop c api options deliveries) w fun r w' => w.Calmly w' ∧
      ∃ e, r = .error e ∧ (e.IsApiError ∨ LetThrough c deliveries e) := by
  refine (Run.ends_loop c api options deliveries w).mono ?_
  rintro _ w' ⟨e, rfl, rest, v, reached, stops⟩
  refine ⟨reached.calmly.trans stops.calmly, e, rfl, ?_⟩
  cases stops with
  | undelivered failed =>
    -- What is raised where nothing more is to be had is an error of the Runtime API.
    refine (errors_of_next failed).imp_right (.imp_right ?_)
    rintro ⟨d, mem, through⟩
    cases List.mem_singleton.1 mem
    rcases reached.mem_headD with mem | none
    · exact ⟨_, mem, through⟩
    · rw [none] at through
      exact absurd through not_letsThrough_exhausted
  | @unhandled i e v₁ w' delivered failed =>
    obtain ⟨delivers, url, -, rfl⟩ := delivers_of_next delivered
    rcases reached.mem_headD with mem | none
    · have guarded := Run.Guarded.handleInvoke options returns (sound _ mem _ delivers)
        (v.receiving url (rest.headD .exhausted).replies i)
      rw [Ends, failed] at guarded
      exact (guarded.2 e rfl).imp_right fun through => .inr ⟨_, mem, .report through⟩
    · obtain ⟨headers, payload, answer, -⟩ := delivers
      rw [none] at answer
      cases answer

/-! ## The process -/

/-- The process exits with the status 1. From `w` to `w'` it has logged one line of the highest
    level, the last thing that it has done. -/
structure Worker.Exits (w : Worker) (r : Except Thrown Unit) (w' : Worker) : Prop where
  status : r = .error ⟨.builtin "SystemExit", [.int 1], .plain⟩
  logged : ∃ v entry, w.Calmly v ∧ w'.journal = (v.log entry).journal ∧ entry.level = "CRITICAL"

theorem ends_prepare (handler : Handler) (base : Option Context)
    (settings : Option FunctionSettings) :
    Ends (HandlerOptions.prepare handler base settings) w fun r w' => w.Calmly w' ∧
      ∃ context, r = .ok ⟨handler, context, settings⟩ := by
  cases base with
  | some context => exact ⟨.of_same rfl, context, rfl⟩
  | none => exact ⟨.of_same rfl, _, rfl⟩

theorem ends_openApiClient [Interpreter] (address : Text) (settings : AppSettings) :
    Ends (Run.openApiClient address settings) w fun r w' => w.Calmly w' ∧ r = .ok ⟨address⟩ := by
  have opened : Ends (Run.openClient settings.verifySsl [("timeout", .null)]) w fun r w' =>
      w.Calmly w' ∧ r = .ok () := by
    refine Ends.ofExcept_bind (fun shown _ => Ends.log_bind (Ends.note_bind ?_)) fun e unshown => ?_
    · refine ⟨⟨[_, _], List.append_assoc _ [_] [_], fun e mem => ?_⟩, rfl⟩
      rcases List.mem_cons.1 mem with rfl | mem
      · rfl
      · rw [List.mem_singleton.1 mem]
        rfl
    · cases verify : settings.verifySsl <;> rw [verify] at unshown <;> cases unshown
  refine opened.bind ?_ fun _ _ h => nomatch h.2
  rintro _ v ⟨calm, ⟨⟩⟩
  exact ⟨calm, rfl⟩

/-- The client that was opened last is closed in the end, without a trace in the journal. -/
theorem ends_start [Interpreter] (settings : Settings) (handler : Handler) (base : Option Context)
    (deliveries : List Delivery) {L : Thrown → Prop}
    (looping : ∀ v context, Ends (Run.loop ⟨settings.runtimeApi⟩ settings.runtimeApi
      ⟨handler, context, some settings.function⟩ deliveries) v fun r v' => v.Calmly v' ∧
        ∃ e, r = .error e ∧ (e.IsApiError ∨ L e)) :
    Ends (Run.start settings handler base deliveries) w fun r w' =>
      w.Exits r w' ∨ ∃ x e, L x ∧ (e = x ∨ x.display = .error e) ∧ r = .error e := by
  refine (ends_prepare handler base _).bind ?_ fun _ _ ⟨_, _, failed⟩ => nomatch failed
  rintro _ v₁ ⟨calm₁, context, ⟨⟩⟩
  refine (ends_openApiClient settings.runtimeApi settings.app).bind ?_ fun _ _ h => nomatch h.2
  rintro _ v₂ ⟨calm₂, ⟨⟩⟩
  refine Ends.andFinally (P := fun r w' => w.Exits r w' ∨ ∃ x e, L x ∧
    (e = x ∨ x.display = .error e) ∧ r = .error e) ?_ ?_
  · refine (looping v₂ context).outcome_bind ?_
    rintro _ v₃ ⟨calm₃, e, rfl, ended⟩
    dsimp only
    split
    · -- The error is one of the worker's own classes, so the worker logs it and exits.
      refine Ends.ofExcept_bind (fun shown _ => Ends.log_bind ?_) fun raised unshown => ?_
      · exact .inl ⟨rfl, v₃, _, calm₁.trans (calm₂.trans calm₃), rfl, rfl⟩
      · rcases ended with api | through
        · obtain ⟨t, shown⟩ := api.isPlain.display
          simp [shown] at unshown
        · exact .inr ⟨e, raised, through, .inr unshown, rfl⟩
    · next foreign =>
      rcases ended with ⟨message, status, rfl⟩ | through
      · exact absurd rfl foreign
      · exact .inr ⟨e, e, through, .inl rfl, rfl⟩
  · rintro r w' (exits | ⟨x, e, through, brings, rfl⟩)
    · obtain ⟨v, entry, calm, journal, critical⟩ := exits.logged
      cases exits.status
      exact .inl ⟨rfl, v, entry, calm, journal, critical⟩
    · exact .inr ⟨x, e, through, brings, rfl⟩

namespace Run

/-- With a handler that returns bytes, an invoke ends without an error or with one of the Runtime
    API, and the loop ends with one of the Runtime API; unless an error is let through. Unless an
    error is let through, the process exits with the status 1, after one line of the highest
    level. -/
theorem loop_errors [Interpreter] {handler : Handler} (returns : handler.ReturnsBytes)
    (address : Text) (deliveries : List Delivery)
    (sound : ∀ d ∈ deliveries, ∀ i, Delivers ⟨address⟩ d i → i.Sound) (w : Worker) :
    (∀ i base settings, i.Sound → Ends (handleInvoke i ⟨handler, base, settings⟩) w fun r _ =>
      ∀ e, r = .error e → e.IsApiError ∨ w.replies.LetThrough e) ∧
    (∀ api base settings, Ends (loop ⟨address⟩ api ⟨handler, base, settings⟩ deliveries) w
      fun r _ => ∃ e, r = .error e ∧ (e.IsApiError ∨ LetThrough ⟨address⟩ deliveries e)) ∧
    ∀ settings base, settings.runtimeApi = address →
      Ends (start settings handler base deliveries) w fun r w' =>
        w.Exits r w' ∨ ∃ x e, LetThrough ⟨address⟩ deliveries x ∧
          (e = x ∨ x.display = .error e) ∧ r = .error e := by
  refine ⟨fun i base settings sound => ?_, fun api base settings => ?_, ?_⟩
  · exact (Guarded.handleInvoke ⟨handler, base, settings⟩ returns sound w).mono
      fun _ _ h => h.2
  · exact (ends_loop_guarded api ⟨handler, base, settings⟩ returns sound).mono
      fun _ _ h => h.2
  · rintro settings base rfl
    exact ends_start settings handler base deliveries fun v context =>
      ends_loop_guarded settings.runtimeApi ⟨handler, context, _⟩ returns sound

theorem returnsBytes_idle : HandlerOptions.idle.handler.ReturnsBytes :=
  ⟨rfl, fun _ _ _ => ⟨[], rfl⟩⟩

theorem sound_traced (i : Invoke) (headers : i.headers = .traced "a" "Root=1-a") : i.Sound := by
  have read : (Deadline.read (i.header Header.deadline)).isOk := by
    rw [Invoke.header, headers]
    decide +kernel
  have accepted : (Correlation.unpublishable? (i.header Header.trace)).isNone := by
    rw [Invoke.header, headers]
    decide +kernel
  refine ⟨fun n eq => ?_, fun _ => Option.isNone_iff_eq_none.1 accepted⟩
  rw [eq] at read
  cases read

/-- An invoke with a short deadline and a trace header without a NUL character. -/
theorem loop_errors_of_traced :
    HandlerOptions.idle.handler.ReturnsBytes ∧
    (∀ d ∈ [Delivery.bare (.traced "a" "Root=1-a")], ∀ i, Delivers ⟨"h"⟩ d i → i.Sound) ∧
    ∀ api base settings, Ends (loop ⟨"h"⟩ api ⟨HandlerOptions.idle.handler, base, settings⟩
      [.bare (.traced "a" "Root=1-a")]) ((Scene.start 0 none).act .root).worker
        fun r _ => ∃ e, r = .error e ∧
          (e.IsApiError ∨ LetThrough ⟨"h"⟩ [.bare (.traced "a" "Root=1-a")] e) := by
  have sound : ∀ d ∈ [Delivery.bare (.traced "a" "Root=1-a")], ∀ i,
      Delivers ⟨"h"⟩ d i → i.Sound := by
    rintro d mem i ⟨headers, payload, answer, rfl⟩
    rw [List.mem_singleton.1 mem] at answer
    cases answer
    exact sound_traced _ rfl
  exact ⟨returnsBytes_idle, sound, (loop_errors returnsBytes_idle "h" _ sound _).2.1⟩

/-- An interrupt of the wait for an invoke is no error of the Runtime API, and no crash. -/
theorem not_forall_isApiError :
    ¬ ∀ (c : Client) (api : Text) (options : HandlerOptions) (deliveries : List Delivery)
      (w : Worker), options.handler.ReturnsBytes →
        Ends (loop c api options deliveries) w fun r _ =>
          ∃ e, r = .error e ∧ (e.IsApiError ∨ ∃ report, e = .handlerCrash report) := by
  intro all
  obtain ⟨url, parsed⟩ : ∃ url, Client.normalize (Client.nextUrl ⟨"h"⟩) = .ok url := ⟨_, rfl⟩
  have interrupted : ∀ v : Worker,
      serve ⟨"h"⟩ .idle [⟨.failure (.builtin "KeyboardInterrupt" []), .accepted⟩] v =
        .error (.builtin "KeyboardInterrupt" []) (v.note (.request (Client.asking url))) := by
    intro v
    refine bind_of_error ?_
    delta Client.next
    rw [parsed]
    rfl
  have ends := all ⟨"h"⟩ "h" .idle [⟨.failure (.builtin "KeyboardInterrupt" []), .accepted⟩]
    (.start 0 none) returnsBytes_idle
  have started : loop ⟨"h"⟩ "h" .idle [⟨.failure (.builtin "KeyboardInterrupt" []), .accepted⟩]
      (.start 0 none) = serve ⟨"h"⟩ .idle _ _ :=
    Reaches.start.loop_eq
  rw [Ends, started, interrupted] at ends
  -- The errors that are allowed are at home in a module, and the interrupt is built in.
  have foreign : ∀ {e : Thrown}, e.errorClass.home = some ErrorClass.workerHome →
      Thrown.builtin "KeyboardInterrupt" [] ≠ e := by
    rintro _ home rfl
    cases (Thrown.home_builtin "KeyboardInterrupt").symm.trans home
  obtain ⟨e, ⟨⟩, ⟨message, status, api⟩ | ⟨report, crash⟩⟩ := ends
  · exact foreign rfl api
  · exact foreign rfl crash

end Run

end InvokeWorker
