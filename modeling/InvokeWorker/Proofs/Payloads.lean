import InvokeWorker.Proofs.Fatality
import InvokeWorker.Proofs.JsonDepth

/-!
# What a payload can do to the worker

A payload comes from outside and may be any sequence of octets. A handler of events is called with
what it stands for, or else the invoke is reported as failed (`Refused`) and the handler is not
called at all.

* `Run.payloads`: to be no text or no JSON is an error of the invoke, after which the loop goes on.
  But JSON can be nested too deeply for the reader, and that is an error of the stack. The invoke is
  then reported as a crash, and the loop ends. No payload does so that opens fewer arrays and
  objects than may be nested.
* `Payload.not_forall_decode`: there are such payloads; twenty thousand opening brackets will do.
-/

namespace InvokeWorker

open Run (Ends ended Detached Reaches)

/-! ## Decoding -/

namespace Payload

variable [Interpreter]

/-- What decoding a payload comes to: an event, an error of the invoke, or, where more arrays and
    objects are opened than may be nested, one of the stack. -/
inductive Outcome (payload : Bytes) : Except Thrown Document → Prop
  | event {event : Document} : Outcome payload (.ok event)
  | unreadable {message : Text} : Outcome payload (.error (unmarshalError message))
  | tooDeep {t message : Text} : (Encoding.detect payload).decode? payload = .ok t →
    nestingLimit < Json.openings t → Outcome payload (.error (.recursionError message))

theorem outcome_decode (payload : Bytes) : Outcome payload (decode payload) := by
  rw [decode]
  split
  · exact .event
  · split
    · exact .unreadable
    · next t decoded =>
      split
      · exact .event
      · next refused => exact .tooDeep decoded (Json.lt_openings_of_read refused)
      · exact .unreadable

/-- The report of a payload that cannot be read. -/
def unreadable (message : Text) : Report :=
  .of "Runtime.UnmarshalError" ("Unable to unmarshal input: " ++ message) [] false

/-- The report of a payload that is nested too deeply. The error comes up in the code around the
    handler, and has places there. -/
def tooDeep (h : Handler) (message : Text) : Report :=
  .of "RecursionError" message
    ((h.passed .decoding (.recursionError message)).map Site.frame) true

theorem ofFailure_unmarshalError (message : Text) (sites : List Site) :
    Report.ofFailure (unmarshalError message) (.ok sites) = .ok (unreadable message) :=
  rfl

theorem ofFailure_recursionError (h : Handler) (message : Text) :
    Report.ofFailure (.recursionError message)
      (.ok (h.passed .decoding (.recursionError message))) = .ok (tooDeep h message) :=
  rfl

end Payload

/-! ## Invokes with well-formed headers -/

variable {c : Client} {api : Text} {options : HandlerOptions} {delivery : Delivery}
  {deliveries rest : List Delivery} {i : Invoke} {w w' v v₁ : Worker}

theorem invocation?_carrying (context : Context) (invocation : Invocation) :
    (context.carrying invocation).invocation? = some invocation := by
  have other : Context.binds Context.invocationKey Context.traceKey = false := by cbv
  have same : Context.binds Context.invocationKey Context.invocationKey = true := by cbv
  simp [Context.invocation?, Context.lookup?, Context.carrying, Context.withValue,
    Context.withSlot, other, same]

/-- The context of such an invoke is built, and nothing is to be seen of that. -/
theorem exists_build (wellFormed : i.WellFormed)
    (publishable : Correlation.unpublishable? (i.header Header.trace) = none) (base : Context)
    (settings : Option FunctionSettings) (w : Worker) :
    ∃ invocation context w', Context.build i base settings w = .ok context w' ∧
      Invocation.ofInvoke i settings = .ok invocation ∧
      context.invocation? = some invocation ∧ w'.journal = w.journal := by
  obtain ⟨invocation, made⟩ := wellFormed.exists_ofInvoke settings
  rw [← trace_of_ofInvoke made] at publishable
  exact ⟨invocation, _, _, build_of_publishable made publishable base w, made,
    invocation?_carrying _ _, rfl⟩

/-! ## Calls -/

/-- From `w` to `w'` the handler was called once, with this, before anything else has happened. -/
def Worker.Calls (w : Worker) (arrival : Arrival) (w' : Worker) : Prop :=
  ∃ sight correlation events,
    w'.journal = w.journal ++ .called arrival sight correlation :: events ∧
      ∀ e ∈ events, e.isCall = false

/-- The handler is called with an event that was decoded. -/
theorem calls_handleInvoke [Interpreter] {event : Document} (adapted : options.handler.style ≠ .raw)
    (wellFormed : i.WellFormed)
    (publishable : Correlation.unpublishable? (i.header Header.trace) = none)
    (decoded : Payload.decode i.payload = .ok event) :
    Ends (Run.handleInvoke i options) w fun _ w' => ∃ invocation,
      Invocation.ofInvoke i options.settings = .ok invocation ∧
        w.Calls (.adapted event (some invocation)) w' := by
  obtain ⟨invocation, context, v, built, made, carried, journal⟩ :=
    exists_build wellFormed publishable options.base options.settings (w.naming i)
  have called : Ends (options.handler.call options.base context
      (.adapted event context.invocation?)) v fun _ w' =>
        w.Calls (.adapted event (some invocation)) w' := by
    rw [carried]
    refine (journal_call _ _ _ _ v).mono ?_
    rintro _ w' ⟨sight, events, journal', seen⟩
    refine ⟨sight, v.correlation, events, by rw [journal', journal]; rfl, fun e mem => ?_⟩
    obtain ⟨sight, rfl⟩ := seen e mem
    rfl
  have own : ∀ u events, w.Calls (.adapted event (some invocation)) u →
      (∀ e ∈ events, e.isOwn = true) →
      w.Calls (.adapted event (some invocation)) (u.noting events) := by
    rintro u more ⟨sight, correlation, events, journal, quiet⟩ own
    refine ⟨sight, correlation, events ++ more, ?_, fun e mem => ?_⟩
    · show u.journal ++ more = _
      rw [journal, List.append_assoc, List.cons_append]
    · exact (List.mem_append.1 mem).elim (quiet e) fun mem => Event.not_isCall_of_isOwn (own e mem)
  have executed : Ends (Run.execute i context options) v fun _ w' =>
      w.Calls (.adapted event (some invocation)) w' := by
    rw [Run.execute_eq, Handler.invoke_eq, Handler.run_of_adapted adapted, Handler.runAdapted_eq,
      decoded]
    exact ((called.bind_detached (Detached.conclude _) own).bind_detached Detached.answer
      own).bind_detached (Detached.settle i) own
  refine ends_handleInvoke_of_build (r := .ok context) built ?_
  refine executed.andFinally fun s w' calls => ?_
  cases s <;> exact ⟨invocation, made, calls⟩

/-! ## Refusals -/

/-- How an invoke ends once its failure was reported, or could not be. -/
def Report.ending (r : Report) : Except Thrown Unit → Except Thrown Unit
  | .ok () => if r.isFatal then .error (.handlerCrash r) else .ok ()
  | .error e => .error e

/-- From `w` to `w'` an invoke was reported as failed and nothing else has happened; there was no
    call. -/
def Refused [Interpreter] (i : Invoke) (r : Report) (w : Worker) (s : Except Thrown Unit)
    (w' : Worker) : Prop :=
  ∃ w₁ w₂ s', w.Grows (·.isLoud = false) w₁ ∧
    Reported (fun _ => False) i "error" (.bytes r.payload) w₁ s' w₂ ∧
    w'.journal = w₂.journal ∧ s = r.ending s'

/-- The frames of places raise nothing. -/
theorem Report.not_emits_of_sites {r : Report} {sites : List Site}
    (frames : r.frames = sites.map Site.frame) (e : Thrown) : ¬ r.Emits e := by
  rintro ⟨f, mem, fault⟩
  rw [frames] at mem
  obtain ⟨s, -, rfl⟩ := List.mem_map.1 mem
  cases fault

/-- A failure without a call after `w` is reported. -/
theorem refused_reportAndStopIfFatal [Interpreter] (i : Invoke) {r : Report} {sites : List Site}
    (frames : r.frames = sites.map Site.frame) (w : Worker) :
    Ends (Run.reportAndStopIfFatal i r) w (Refused i r w) := by
  have silent := Report.not_emits_of_sites frames
  have unnoticed : ∀ {w₁ : Worker}, w.Quietly w₁ → w.Grows (·.isLoud = false) w₁ := by
    rintro w₁ ⟨⟨events, ⟨journal, -⟩, quiet⟩, -⟩
    exact ⟨events, journal, quiet⟩
  refine (ends_reportFailure i r).bind ?_ ?_
  · rintro _ w₂ ⟨w₁, quietly, reported⟩
    refine Ends.mono (P := fun s w' => w' = w₂ ∧ s = r.ending (.ok ())) ?_ ?_
    · rw [Report.ending]
      split <;> exact ⟨rfl, rfl⟩
    · rintro _ _ ⟨rfl, rfl⟩
      exact ⟨w₁, _, .ok (), unnoticed quietly, reported.mono silent, rfl, rfl⟩
  · rintro e w₂ ⟨w₁, quietly, reported⟩
    exact ⟨w₁, w₂, .error e, unnoticed quietly, reported.mono silent, rfl, rfl⟩

section Refused

variable [Interpreter] {e : Thrown} {r : Report} (adapted : options.handler.style ≠ .raw)
  (wellFormed : i.WellFormed)
  (publishable : Correlation.unpublishable? (i.header Header.trace) = none)
  (failed : Payload.decode i.payload = .error e)

include adapted wellFormed publishable failed

/-- The error of a payload takes the place of a call. -/
theorem exists_raised (w : Worker) :
    ∃ context v, Context.build i options.base options.settings (w.naming i) = .ok context v ∧
      options.handler.run options.base context i.payload v =
        .ok (.raises e (.ok (options.handler.passed .decoding e))) v ∧
      v.journal = w.journal := by
  obtain ⟨invocation, context, v, built, -, -, journal⟩ :=
    exists_build wellFormed publishable options.base options.settings (w.naming i)
  refine ⟨context, v, built, ?_, journal⟩
  rw [Handler.run_of_adapted adapted, Handler.runAdapted_eq, failed]
  rfl

/-- A payload that is refused is reported, and the handler is not called. -/
theorem refused_handleInvoke {sites : List Site}
    (made : Report.ofFailure e (.ok (options.handler.passed .decoding e)) = .ok r)
    (frames : r.frames = sites.map Site.frame) :
    Ends (Run.handleInvoke i options) w (Refused i r w) := by
  obtain ⟨context, v, built, raised, journal⟩ :=
    exists_raised adapted wellFormed publishable failed w
  have settled : Ends (Run.reportAndStopIfFatal i r) v (Refused i r w) := by
    refine (refused_reportAndStopIfFatal i frames v).mono ?_
    rintro s w' ⟨w₁, w₂, s', before, rest⟩
    -- To build the context leaves no trace in the journal.
    exact ⟨w₁, w₂, s', (Worker.Grows.of_same journal).trans before, rest⟩
  exact ends_handleInvoke_of_raises built raised made settled fun _ _ => id

theorem failing_of_decode (delivered : c.next delivery v = .ok i v₁)
    (made : Report.ofFailure e (.ok (options.handler.passed .decoding e)) = .ok r) :
    Failing c options delivery v i e r := by
  obtain ⟨context, v₂, built, raised, -⟩ :=
    exists_raised adapted wellFormed publishable failed v₁
  exact .intro delivered built raised made

end Refused

namespace Run

/-- Each payload of an invoke with well-formed headers is of one of three kinds. If it stands for an
    event, as an empty one does for `null`, the handler is called with that. If it cannot be read,
    this is reported without a call, and once the report was taken the loop goes on. But one in
    which more arrays and objects are opened than may be nested can exhaust the stack: this is
    reported as a crash, again without a call, and once the report was taken the loop ends. -/
theorem payloads [Interpreter] (c : Client) (api : Text) (options : HandlerOptions)
    (deliveries : List Delivery) (w : Worker) (adapted : options.handler.style ≠ .raw)
    (delivery : Delivery) (rest : List Delivery) (v : Worker)
    (reached : Reaches c api options deliveries w (delivery :: rest) v) (i : Invoke) (v₁ : Worker)
    (delivered : c.next delivery v = .ok i v₁) (wellFormed : i.WellFormed)
    (publishable : Correlation.unpublishable? (i.header Header.trace) = none) :
    (∃ event, Payload.decode i.payload = .ok event ∧ (i.payload = [] → event = .null) ∧
      Ends (handleInvoke i options) v₁ fun _ v₂ => ∃ invocation,
        Invocation.ofInvoke i options.settings = .ok invocation ∧
          v₁.Calls (.adapted event (some invocation)) v₂) ∨
    (∃ message, Payload.decode i.payload = .error (Payload.unmarshalError message) ∧
      Ends (handleInvoke i options) v₁ (Refused i (Payload.unreadable message) v₁) ∧
      (c.Takes delivery.replies i → ∃ v₃, Reaches c api options deliveries w rest v₃)) ∨
    ∃ t message, (Encoding.detect i.payload).decode? i.payload = .ok t ∧
      Payload.nestingLimit < Json.openings t ∧
      Payload.decode i.payload = .error (.recursionError message) ∧
      Ends (handleInvoke i options) v₁ (Refused i (Payload.tooDeep options.handler message) v₁) ∧
      (c.Takes delivery.replies i → ∃ v₂, loop c api options deliveries w =
        .error (.handlerCrash (Payload.tooDeep options.handler message)) v₂) := by
  have outcome := Payload.outcome_decode i.payload
  generalize decoded : Payload.decode i.payload = d at outcome
  cases outcome with
  | @event event =>
    refine .inl ⟨event, rfl, fun empty => ?_,
      calls_handleInvoke adapted wellFormed publishable decoded⟩
    rw [empty] at decoded
    exact (Except.ok.inj decoded).symm
  | @unreadable message =>
    have made := Payload.ofFailure_unmarshalError message
      (options.handler.passed .decoding (Payload.unmarshalError message))
    have frames : (Payload.unreadable message).frames = ([] : List Site).map Site.frame := rfl
    refine .inr (.inl ⟨message, rfl,
      refused_handleInvoke adapted wellFormed publishable decoded made frames, fun takes => ?_⟩)
    obtain ⟨v₂, delivered', ends⟩ := (failing_of_decode adapted wellFormed publishable decoded
      delivered made).ends_handleInvoke rfl takes
    cases delivered.symm.trans delivered'
    obtain ⟨v₃, handled, -⟩ := ends.exists_ok
    exact reached.goes_on delivered handled
  | @tooDeep t message read deep =>
    have made := Payload.ofFailure_recursionError options.handler message
    have frames : (Payload.tooDeep options.handler message).frames =
      (options.handler.passed .decoding (.recursionError message)).map Site.frame := rfl
    refine .inr (.inr ⟨t, message, read, deep, rfl,
      refused_handleInvoke adapted wellFormed publishable decoded made frames, fun takes => ?_⟩)
    obtain ⟨v₂, delivered', ends⟩ := (failing_of_decode adapted wellFormed publishable decoded
      delivered made).ends_handleInvoke (Report.listsPaths_of_sites frames) takes
    cases delivered.symm.trans delivered'
    obtain ⟨s, v₃, handled, rfl, -⟩ := ends.exists_ended
    exact ⟨v₃, reached.stops delivered handled⟩

end Run

/-! ## Payloads that are too deep -/

/-- ASCII is UTF-8. -/
theorem Utf8.decodeOnto_of_ascii {b : Bytes} (ascii : ∀ o ∈ b, o < 0x80) (surrogates : Bool)
    (total : Nat) (read : Text) :
    Utf8.decodeOnto surrogates total read b = .ok (read.reverse ++ b.toLatin1) := by
  induction b generalizing read with
  | nil =>
    rw [Utf8.decodeOnto]
    split
    · simp [Bytes.toLatin1]
    · next h => cases h
    · next h => cases h
  | cons o b ih =>
    have first : Utf8.front surrogates (o :: b) = .point (.ofNat o.toNat) b := by
      rw [Utf8.front.eq_def]
      exact if_pos (ascii o List.mem_cons_self)
    rw [Utf8.decodeOnto]
    split
    · next h => cases first.symm.trans h
    · next h =>
      cases first.symm.trans h
      rw [ih fun o mem => ascii o (List.mem_cons_of_mem _ mem)]
      simp [Bytes.toLatin1]
    · next h => cases first.symm.trans h

namespace Payload

/-- A payload that starts with more arrays than may be nested. -/
theorem decode_of_openings [Interpreter] {n : Nat} (deep : nestingLimit < n) :
    decode (List.replicate n 91) =
      .error (.recursionError (JsonFault.message (List.replicate n 91) (.tooDeep false))) := by
  have four : 4 ≤ nestingLimit := le_nestingLimit (by decide)
  obtain ⟨n, rfl⟩ := Nat.exists_eq_add_of_le' (Nat.le_trans four (Nat.le_of_lt deep))
  have decoded : (Encoding.utf8 false).decode? (List.replicate (n + 4) 91) =
      .ok (List.replicate (n + 4) 91) := by
    have ascii : ∀ o ∈ List.replicate (n + 4) (91 : UInt8), o < 0x80 := by
      intro o mem
      rw [List.eq_of_mem_replicate mem]
      decide
    rw [Encoding.decode?, if_neg Bool.false_ne_true, Utf8.decode?, Utf8.decodeOnto_of_ascii ascii]
    simp [Bytes.toLatin1]
    rfl
  have refused := Json.read_of_openings rules deep []
  rw [List.append_nil] at refused
  have detected : Encoding.detect (List.replicate (n + 4) 91) = .utf8 false := rfl
  rw [decode, if_neg (by simp), detected, decoded]
  dsimp only
  rw [refused]

theorem recursionError_ne_unmarshalError (message message' : Text) :
    Thrown.recursionError message ≠ unmarshalError message' := by
  intro same
  -- Only one of the two is a crash.
  cases congrArg Thrown.isCrash same

/-- Not every payload is either an event or an error of the invoke. -/
theorem not_forall_decode : ¬ ∀ payload, (∃ event, decode payload = .ok event) ∨
    ∃ message, decode payload = .error (unmarshalError message) := by
  intro all
  have deep := decode_of_openings (n := 20000) (by decide)
  obtain ⟨event, decoded⟩ | ⟨message, failed⟩ := all (List.replicate 20000 91)
  · cases deep.symm.trans decoded
  · exact recursionError_ne_unmarshalError _ _ (Except.error.inj (deep.symm.trans failed))

end Payload

/-- A handler of events that does nothing, below the first root there is. -/
def HandlerOptions.attentive : HandlerOptions :=
  ⟨.of .plain fun _ _ => ⟨[], .returns .null⟩, .ofScope 0, none⟩

/-- An invoke the payload of which opens so many arrays. -/
def Delivery.nested (n : Nat) : Delivery :=
  ⟨.delivered Client.deliveredStatus (.traced "a" "") (List.replicate n 91), .accepted⟩

namespace Run

/-- One of two invokes opens twenty thousand arrays, and the other one is never asked for. -/
theorem payloads_of_nested :
    ∃ v i v₁ message v₂,
      Reaches ⟨"h"⟩ "h" .attentive [.nested 20000, .nested 0] (.start 0 none)
        [.nested 20000, .nested 0] v ∧
      Client.next ⟨"h"⟩ (.nested 20000) v = .ok i v₁ ∧ i.WellFormed ∧
      Correlation.unpublishable? (i.header Header.trace) = none ∧
      loop ⟨"h"⟩ "h" .attentive [.nested 20000, .nested 0] (.start 0 none) =
        .error (.handlerCrash (Payload.tooDeep HandlerOptions.attentive.handler message)) v₂ := by
  obtain ⟨url, parsed⟩ : ∃ url, Client.normalize (Client.nextUrl ⟨"h"⟩) = .ok url := ⟨_, rfl⟩
  have adapted : HandlerOptions.attentive.handler.style ≠ .raw := nofun
  obtain ⟨i, eq⟩ : ∃ i : Invoke, i = ⟨"a", List.replicate 20000 91, .traced "a" "", some ⟨"h"⟩⟩ :=
    ⟨_, rfl⟩
  have id : Headers.get (.traced "a" "") Header.requestId = "a" := by decide +kernel
  have delivers : Delivers ⟨"h"⟩ (.nested 20000) i := ⟨_, _, rfl, by rw [eq, id]⟩
  have wellFormed : i.WellFormed := by
    rw [eq]
    exact ⟨⟨_, rfl⟩, ⟨_, rfl⟩, ⟨_, rfl⟩⟩
  have publishable : Correlation.unpublishable? (i.header Header.trace) = none := by
    rw [eq]
    rfl
  have takes : Client.Takes ⟨"h"⟩ (Delivery.nested 20000).replies i := by
    rw [eq]
    exact ⟨_, rfl, rfl⟩
  have deep : ∃ message, Payload.decode i.payload = .error (.recursionError message) := by
    rw [eq]
    exact ⟨_, Payload.decode_of_openings (by decide)⟩
  obtain ⟨message, deep⟩ := deep
  have delivered := next_of_delivers delivers parsed (Worker.log (.start 0 none)
    (.of "INFO" loopLogger ("Starting invoke loop against Runtime API " ++ "h")))
  obtain ⟨event, decoded, -⟩ | ⟨message', failed, -⟩ | ⟨t, message', -, -, -, -, crashes⟩ :=
    payloads ⟨"h"⟩ "h" .attentive [.nested 20000, .nested 0] (.start 0 none) adapted (.nested 20000)
      [.nested 0] _ .start i _ delivered wellFormed publishable
  · cases deep.symm.trans decoded
  · exact absurd (Except.error.inj (deep.symm.trans failed))
      (Payload.recursionError_ne_unmarshalError message message')
  · obtain ⟨v₂, stopped⟩ := crashes takes
    exact ⟨_, i, _, message', v₂, .start, delivered, wellFormed, publishable, stopped⟩

end Run

end InvokeWorker
