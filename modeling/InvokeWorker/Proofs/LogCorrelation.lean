import InvokeWorker.Proofs.Detached
import InvokeWorker.Proofs.LoopStates

/-!
# Whose ids log lines show

From the delivery of an invoke until the next one is asked for, log lines are to show the request id
of that invoke and no trace id but its own. `Correlated` says whose ids the lines of a run show.

* `Run.loop_correlated`: in every run all lines show the ids of their own invoke, except for one
  that says that an invoke was delivered. That line is written before the invoke is named, and shows
  what the invoke before it has left behind.
* `Run.not_forall_received_signed`: so the lines of an invoke do not all show its own ids.
-/

namespace InvokeWorker

open Run (Ends ended Detached)

/-- The trace id of an invoke, that of its trace header, if there is one. -/
def Invoke.ownTrace (i : Invoke) : Option Text :=
  if (i.header Header.trace).isEmpty then none
  else some (Correlation.shownTrace (i.header Header.trace))

/-- A trace id and a request id are those of an invoke: its own request id, none if that is empty,
    and its own trace id or none. -/
structure Invoke.Owns (i : Invoke) (ids : Option Text × Option Text) : Prop where
  request : ids.2 = if i.id.isEmpty then none else some i.id
  trace : ids.1 = none ∨ ids.1 = i.ownTrace

/-- The event shows ids of an invoke, if it is a log line. -/
def Invoke.Signs (i : Invoke) (e : Event) : Prop :=
  ∃ ids, i.Owns ids ∧ e.Shows ids

/-- An event between the delivery of an invoke and the request for the next one: a log line shows
    ids of the invoke, and none is critical. -/
structure Invoke.Keeps (i : Invoke) (e : Event) : Prop where
  signs : i.Signs e
  calm : e.isCritical = false
  local_ : e.isAsking = false

/-- From `w` to `w'` all log lines show ids of an invoke, and those to come will. -/
structure Invoke.Signed (i : Invoke) (w w' : Worker) : Prop where
  owns : i.Owns w'.correlation.ids
  events : w.Grows i.Keeps w'

variable {i : Invoke} {w w' v : Worker} {α β : Type} {run : Run α} {f : α → Run β}
  {options : HandlerOptions}

namespace Invoke.Signed

theorem of_same (owns : i.Owns w'.correlation.ids) (same : w'.journal = w.journal) :
    i.Signed w w' :=
  ⟨owns, .of_same same⟩

theorem trans (h : i.Signed w v) (h' : i.Signed v w') : i.Signed w w' :=
  ⟨h'.owns, h.events.trans h'.events⟩

theorem log {entry : LogEntry} (owns : i.Owns w.correlation.ids)
    (calm : entry.level ≠ "CRITICAL") : i.Signed w (w.log entry) :=
  ⟨owns, .note ⟨⟨w.correlation.ids, owns, rfl⟩, decide_eq_false calm, rfl⟩⟩

/-- Events other than log lines. -/
theorem of_silent (owns : i.Owns w.correlation.ids) (correlation : w'.correlation = w.correlation)
    (silent : w.Grows (fun e => (∀ ids, e.Shows ids) ∧ e.isAsking = false) w') : i.Signed w w' := by
  refine ⟨correlation ▸ owns, silent.mono fun e ⟨shows_all, unasked⟩ =>
    ⟨⟨_, owns, shows_all _⟩, ?_, unasked⟩⟩
  -- A log line does not show just any ids.
  cases e with
  | log entry trace id => cases (shows_all (none, none)).symm.trans (shows_all (some [], none))
  | _ => rfl

theorem note {e : Event} (owns : i.Owns w.correlation.ids) (silent : ∀ ids, e.Shows ids)
    (unasked : e.isAsking = false) : i.Signed w (w.note e) :=
  .of_silent owns rfl (.note ⟨silent, unasked⟩)

/-- Two computations in sequence. -/
theorem ends_bind (h : Ends run w fun _ v => i.Signed w v)
    (next : ∀ a v, i.Owns v.correlation.ids → Ends (f a) v fun _ w' => i.Signed v w') :
    Ends (run >>= f) w fun _ w' => i.Signed w w' :=
  h.bind (fun a v signed => (next a v signed.owns).mono fun _ _ more => signed.trans more)
    fun _ _ signed => signed

/-- What is detached shows the ids that it finds. -/
theorem ends_detached (detached : Detached run) (owns : i.Owns w.correlation.ids) :
    Ends run w fun _ w' => i.Signed w w' := by
  refine (detached.ends w).mono ?_
  rintro _ _ ⟨events, rfl, proper⟩
  refine ⟨owns, events, rfl, fun e mem => ?_⟩
  obtain ⟨shows_ids, calm, own⟩ := proper e mem
  exact ⟨⟨_, owns, shows_ids⟩, calm, Event.not_isAsking_of_isOwn own⟩

end Invoke.Signed

open Invoke (Signed)

/-! ## While the handler runs -/

theorem Signed.performAll (owns : i.Owns w.correlation.ids) (base : Context) (arrival : Arrival)
    (contexts : List Context) (deeds : List Deed) :
    i.Signed w (w.performAll base arrival contexts deeds) := by
  induction deeds generalizing w contexts with
  | nil => exact .of_same owns rfl
  | cons deed deeds ih =>
    obtain ⟨now, scopes, signal, events, eq, seen⟩ := w.perform_frame base arrival contexts deed
    have first : i.Signed w (w.perform base arrival contexts deed).1 := by
      rw [eq]
      refine .of_silent owns rfl ⟨events, rfl, fun e mem => ?_⟩
      obtain ⟨sight, rfl⟩ := seen e mem
      exact ⟨fun _ => trivial, rfl⟩
    rw [Worker.performAll_cons]
    exact first.trans (ih first.owns _)

theorem Signed.ends_call (owns : i.Owns w.correlation.ids) (h : Handler) (base context : Context)
    (arrival : Arrival) :
    Ends (h.call base context arrival) w fun _ w' => i.Signed w w' := by
  have seen : i.Signed w (w.sight arrival).1 := by
    cases arrival <;> exact .of_same owns rfl
  have called := seen.trans (.note seen.owns (e := .called arrival (w.sight arrival).2
    (w.sight arrival).1.correlation) (fun _ => trivial) rfl)
  rw [Ends, Handler.call_eq]
  exact called.trans (Signed.performAll called.owns _ _ _ _)

theorem Signed.ends_invoke [Interpreter] (owns : i.Owns w.correlation.ids) (h : Handler)
    (base context : Context) (payload : Bytes) :
    Ends (h.invoke base context payload) w fun _ w' => i.Signed w w' := by
  have run : Ends (h.run base context payload) w fun _ w' => i.Signed w w' := by
    rw [Handler.run]
    split
    · exact Signed.ends_call owns h base context _
    · rw [Handler.runAdapted_eq]
      split
      · exact .of_same owns rfl
      · exact Signed.ends_bind (Signed.ends_call owns h base context _) fun ending v owns =>
          Signed.ends_detached (Detached.conclude h ending) owns
  rw [Handler.invoke_eq]
  exact Signed.ends_bind run fun ending v owns => Signed.ends_detached (Detached.answer ending) owns

theorem Signed.ends_execute [Interpreter] (owns : i.Owns w.correlation.ids) (context : Context)
    (options : HandlerOptions) :
    Ends (Run.execute i context options) w fun _ w' => i.Signed w w' := by
  rw [Run.execute_eq]
  exact Signed.ends_bind (Signed.ends_invoke owns options.handler options.base context i.payload)
    fun outcome v owns => Signed.ends_detached (Detached.settle i outcome) owns

/-! ## A whole invoke -/

/-- A named invoke owns the ids, as no trace header is published yet. -/
theorem owns_naming (i : Invoke) (w : Worker) : i.Owns (w.naming i).correlation.ids := by
  refine ⟨?_, .inl rfl⟩
  show (some i.id).filter (fun id => !id.isEmpty) = _
  cases i.id <;> rfl

/-- After the publication of its trace header they are still its own. -/
theorem owns_publishing {settings : Option FunctionSettings} {invocation : Invocation}
    (made : Invocation.ofInvoke i settings = .ok invocation) (w : Worker) :
    i.Owns ((w.naming i).correlation.publishing invocation.trace).ids := by
  refine ⟨(owns_naming i w).request, .inr ?_⟩
  rw [Invoke.ownTrace, Correlation.ids, Correlation.publishing, trace_of_ofInvoke made]
  dsimp only
  split <;> rfl

/-- Whatever comes of an invoke, all log lines show its own ids. -/
theorem Signed.ends_handleInvoke [Interpreter] (i : Invoke) (options : HandlerOptions)
    (w : Worker) : Ends (Run.handleInvoke i options) w fun _ w' => i.Signed w w' := by
  -- To name the invoke, and to build its context, is to leave the journal as it is.
  have still : ∀ {v : Worker}, v.journal = w.journal → i.Owns v.correlation.ids → i.Signed w v :=
    fun journal owns => .of_same owns journal
  have refused : ∀ {e : Thrown} {v : Worker}, i.Signed w v →
      Ends (Run.proceed i options (.error e)) v fun _ w' => i.Signed w w' := by
    intro e v signed
    exact Ends.mono (Signed.ends_detached (Detached.proceed_error i options e) signed.owns)
      fun _ _ more => signed.trans more
  refine ends_handleInvoke_of_cases ?malformed ?unpublishable ?published
  case malformed => exact fun _ _ => refused (still rfl (owns_naming i w))
  case unpublishable => exact fun _ _ _ _ => refused (still rfl (owns_naming i w))
  case published =>
    intro invocation made _
    have signed := still (v := ((w.naming i).derive options.base
      invocation.deadline).1.withCorrelation (·.publishing invocation.trace)) rfl
      (owns_publishing made w)
    refine (Signed.ends_execute signed.owns _ options).andFinally fun r w' more => ?_
    have cancelled : ∀ c, i.Signed w (w'.cancel c) := fun c =>
      ⟨more.owns, (signed.trans more).events⟩
    cases r <;> exact cancelled _

/-- What is logged of the wait after an invoke shows the ids of that invoke. -/
theorem Signed.ends_waitAfterInvoke (owns : i.Owns w.correlation.ids) (base : Context) :
    Ends (Run.waitAfterInvoke base) w fun _ w' => i.Signed w w' := by
  refine Ends.get_bind ?_
  split
  · refine Signed.ends_bind (Ends.get_bind ?_) fun set v owns => ?_
    · dsimp only
      split
      · have waited : ∀ ms, i.Signed w (w.note (.waited ms)) :=
          fun ms => .note owns (fun _ => trivial) rfl
        exact ⟨owns, (waited _).events⟩
      · exact .of_same owns rfl
    · cases set with
      | true => exact .of_same owns rfl
      | false => exact .log owns (show ("INFO" : Text) ≠ "CRITICAL" by decide)
  · exact .of_same owns rfl

/-! ## Whole runs -/

/-- Whose ids the log lines of a run show, if these ids were left behind at first. -/
inductive Correlated (c : Client) :
    List Delivery → Option Text × Option Text → List Event → Prop
  /-- There is no invoke, and no log line. -/
  | silent {deliveries : List Delivery} {left : Option Text × Option Text} {events : List Event} :
    (∀ e ∈ events, e.isAsking = true) → Correlated c deliveries left events
  /-- An invoke is delivered: that is logged with the ids that were left behind, and all else until
      the next invoke is asked for with its own. -/
  | invoke {delivery : Delivery} {rest : List Delivery} {left left' : Option Text × Option Text}
    {i : Invoke} {get : Request} {events more : List Event} :
    Asks c get → Delivers c delivery i → (∀ e ∈ events, i.Signs e ∧ e.isAsking = false) →
    i.Owns left' → Correlated c rest left' more →
    Correlated c (delivery :: rest) left
      (.request get :: .log (Client.received i) left.1 left.2 :: events ++ more)

variable {c : Client}

theorem Correlated.ends_serve [Interpreter] (deliveries : List Delivery) :
    Ends (Run.serve c options deliveries) w fun _ w' => ∃ events,
      w'.journal = w.journal ++ events ∧
      Correlated c (deliveries ++ [.exhausted]) w.correlation.ids events := by
  induction deliveries generalizing w with
  | nil =>
    refine (ends_next_exact c .exhausted w).discard ?_ ?_
    · rintro i w₁ ⟨⟨headers, payload, ⟨⟩, -⟩, -⟩
    · rintro e w₁ ⟨events, journal, silent⟩
      exact ⟨events, journal, .silent silent⟩
  | cons delivery rest ih =>
    refine (ends_next_exact c delivery w).bind ?_ ?_
    · rintro i _ ⟨delivers, url, parsed, rfl⟩
      -- What is done with the invoke comes after the request and the line about its delivery.
      have goes_on : ∀ {v w' : Worker} {more : List Event},
          i.Signed (w.receiving url delivery.replies i) v → w'.journal = v.journal ++ more →
          Correlated c (rest ++ [.exhausted]) v.correlation.ids more → ∃ events,
            w'.journal = w.journal ++ events ∧
            Correlated c (delivery :: rest ++ [.exhausted]) w.correlation.ids events := by
        intro v w' more signed journal correlated
        obtain ⟨events, journal', signs⟩ := signed.events
        refine ⟨.request (Client.asking url) :: .log (Client.received i) w.correlation.ids.1
          w.correlation.ids.2 :: events ++ more, ?_, .invoke ⟨rfl, url, parsed, rfl⟩ delivers
            (fun e mem => ⟨(signs e mem).signs, (signs e mem).local_⟩) signed.owns correlated⟩
        rw [journal, journal']
        simp [Worker.receiving, Worker.log, Worker.note, Correlation.ids]
      have ended : ∀ {v : Worker}, i.Signed (w.receiving url delivery.replies i) v → ∃ events,
          v.journal = w.journal ++ events ∧
          Correlated c (delivery :: rest ++ [.exhausted]) w.correlation.ids events :=
        fun signed => goes_on signed (List.append_nil _).symm (.silent (by simp))
      refine (Signed.ends_handleInvoke i options _).bind (fun _ v handled => ?_) fun _ _ => ended
      refine (Signed.ends_waitAfterInvoke handled.owns options.base).bind (fun _ v waited => ?_)
        fun _ _ waited => ended (handled.trans waited)
      refine ih.mono fun _ w' ⟨more, journal, correlated⟩ => ?_
      exact goes_on (handled.trans waited) journal correlated
    · rintro e w₁ ⟨events, journal, silent⟩
      exact ⟨events, journal, .silent silent⟩

/-- In every run of the loop the log lines of each invoke show its own ids, except for the one that
    says that it was delivered; that shows the ids which the invoke before it has left behind, or
    those there were when the loop was started. -/
theorem Run.loop_correlated [Interpreter] (c : Client) (api : Text) (options : HandlerOptions)
    (deliveries : List Delivery) (w : Worker) :
    Ends (Run.loop c api options deliveries) w fun _ w' => ∃ start events,
      w'.journal = w.journal ++ start :: events ∧ start.Shows w.correlation.ids ∧
      Correlated c (deliveries ++ [.exhausted]) w.correlation.ids events := by
  refine Ends.log_bind (Ends.mono (Correlated.ends_serve deliveries) ?_)
  rintro _ w' ⟨events, journal, correlated⟩
  exact ⟨_, events, journal.trans (List.append_assoc _ [_] _), rfl, correlated⟩

/-- So it is not true that after the delivery of an invoke all log lines show its own ids. -/
theorem Run.not_forall_received_signed :
    ¬∀ (c : Client) (api : Text) (options : HandlerOptions) (deliveries : List Delivery)
      (w : Worker) (delivery : Delivery) (rest : List Delivery) (v v₁ : Worker) (i : Invoke)
      (get : Request) (events : List Event),
      Reaches c api options deliveries w (delivery :: rest) v →
      c.next delivery v = .ok i v₁ → v₁.journal = v.journal ++ .request get :: events →
      ∀ e ∈ events, i.Signs e := by
  intro all
  obtain ⟨v, v₁, reached, left, delivered⟩ := exists_reaches_second
  obtain ⟨-, url, -, rfl⟩ := delivers_of_next delivered
  have signs := all _ _ _ _ _ _ _ _ _ _ (Client.asking url) _ reached delivered
    (List.append_assoc _ [_] [_]) _ (List.mem_singleton_self _)
  obtain ⟨ids, owns, shows_ids⟩ := signs
  -- The line shows the id `a`, that of the first invoke, and not the id `b`.
  have request : ids.2 = some "a" := by
    rw [← shows_ids]
    show v.correlation.request.filter _ = _
    rw [left]
    rfl
  rw [owns.request] at request
  exact absurd request (by decide)

end InvokeWorker
