import InvokeWorker.Proofs.Independence
import InvokeWorker.Proofs.LogCorrelation

/-!
# The wait after an invoke

A handler arms the post-invoke signal as often as it likes, and each time gets an event of its own;
the loop waits for the last of them, once the invoke is reported, and then clears the slot. A
`Round` is what happens between two requests for an invoke.

* `Run.waits`: in every run the signal is unarmed whenever an invoke is asked for. The loop waits
  after exactly those invokes in which the signal was armed, once, and for the event that was handed
  out last; it never waits at any other time.
-/

namespace InvokeWorker

open Run (Ends ended Detached Reaches)

/-! ## Arming the signal -/

/-- Whether an event is a wait. -/
def Event.isWait : Event → Bool
  | waited _ => true
  | _ => false

/-- Whether a deed arms the signal and, if so, whether it sets the event. -/
def Deed.arming : Deed → Option Bool
  | arm set => some set
  | _ => none

namespace PostInvokeSignal

/-- The signal armed once more, and whether the event was set then. -/
def armedWith (s : PostInvokeSignal) (set : Bool) : PostInvokeSignal :=
  ⟨s.events ++ [set], some s.events.length⟩

/-- The signal armed a number of times. -/
def armedAll (s : PostInvokeSignal) (sets : List Bool) : PostInvokeSignal :=
  sets.foldl armedWith s

variable (s : PostInvokeSignal) (sets : List Bool)

theorem events_armedAll : (s.armedAll sets).events = s.events ++ sets := by
  induction sets generalizing s with
  | nil => exact (List.append_nil _).symm
  | cons set sets ih =>
    have first : (s.armedAll (set :: sets)).events = ((s.armedWith set).armedAll sets).events := rfl
    rw [first, ih, armedWith, List.append_assoc, List.singleton_append]

theorem armedAll_concat (set : Bool) :
    s.armedAll (sets ++ [set]) = ⟨s.events ++ sets ++ [set], some (s.events ++ sets).length⟩ := by
  have last : s.armedAll (sets ++ [set]) = (s.armedAll sets).armedWith set := by
    rw [armedAll, List.foldl_append]
    rfl
  rw [last, armedWith, events_armedAll]

/-- The event in the slot is the one that was handed out last. -/
theorem armedAll_cases :
    match sets.getLast? with
    | none => s.armedAll sets = s
    | some set => (s.armedAll sets).armed = true ∧
      (s.armedAll sets).slot = some ((s.armedAll sets).events.length - 1) ∧
      (s.armedAll sets).fires = set := by
  rcases List.eq_nil_or_concat sets with rfl | ⟨before, set, rfl⟩
  · rfl
  · rw [List.concat_eq_append, List.getLast?_concat, armedAll_concat]
    refine ⟨rfl, by simp, ?_⟩
    simp [fires, isSet]

end PostInvokeSignal

/-! ## While an invoke is processed -/

/-- From `w` to `w'` there was this call of the handler, or none, and no wait; and the signal was
    armed a number of times. -/
structure Worker.Proceeds (w : Worker) (call : Option Event) (sets : List Bool) (w' : Worker) :
    Prop where
  journal : ∃ events, w'.journal = w.journal ++ events ∧
    events.filter Event.isCall = call.toList ∧ ∀ e ∈ events, e.isWait = false
  signal : w'.signal = w.signal.armedAll sets

/-- In that call the handler has armed the signal as these say; without a call it has not. -/
def Handler.Arms (h : Handler) (call : Option Event) (sets : List Bool) : Prop :=
  match call with
  | none => sets = []
  | some e => ∃ w arrival sight correlation, e = .called arrival sight correlation ∧
    sets = (h.conduct w arrival).deeds.filterMap Deed.arming

variable {w w' v : Worker} {call : Option Event} {sets : List Bool} {base : Context} {i : Invoke}
  {options : HandlerOptions}

namespace Worker.Proceeds

theorem trans {more : List Bool} {call' : Option Event} (h : w.Proceeds call sets v)
    (h' : v.Proceeds call' more w') (single : call = none ∨ call' = none) :
    w.Proceeds (call.or call') (sets ++ more) w' where
  journal := by
    obtain ⟨first, journal, calls, busy⟩ := h.journal
    obtain ⟨second, journal', calls', busy'⟩ := h'.journal
    refine ⟨first ++ second, ?_, ?_, fun e mem => ?_⟩
    · rw [journal', journal, List.append_assoc]
    · rw [List.filter_append, calls, calls']
      rcases single with rfl | rfl
      · rw [Option.none_or]
        rfl
      · rw [Option.or_none]
        exact List.append_nil _
    · exact (List.mem_append.1 mem).elim (busy e) (busy' e)
  signal := by
    rw [h'.signal, h.signal, PostInvokeSignal.armedAll, PostInvokeSignal.armedAll,
      PostInvokeSignal.armedAll, List.foldl_append]

theorem of_same (journal : w'.journal = w.journal) (signal : w'.signal = w.signal) :
    w.Proceeds none [] w' :=
  ⟨⟨[], journal.trans (List.append_nil _).symm, rfl, by simp⟩, signal⟩

theorem before (h : w.Proceeds none [] v) (h' : v.Proceeds call sets w') :
    w.Proceeds call sets w' :=
  h.trans h' (.inl rfl)

theorem after (h : w.Proceeds call sets v) (h' : v.Proceeds none [] w') :
    w.Proceeds call sets w' := by
  have both := h.trans h' (.inr rfl)
  rwa [Option.or_none, List.append_nil] at both

/-- What the worker does on its own is neither a call nor a wait. -/
theorem noting {events : List Event} (h : w.Proceeds call sets v)
    (own : ∀ e ∈ events, e.isOwn = true) : w.Proceeds call sets (v.noting events) := by
  refine h.after ⟨⟨events, rfl, List.filter_eq_nil_iff.2 fun e mem => ?_, fun e mem => ?_⟩, rfl⟩
  · rw [Event.not_isCall_of_isOwn (own e mem)]
    exact Bool.false_ne_true
  · have own := own e mem
    cases e <;> first | rfl | cases own

end Worker.Proceeds

open Worker (Proceeds)

/-- Each deed that arms the signal does so once. -/
theorem signal_perform_of_bound (bound : base.hasSignal = true) (w : Worker) (arrival : Arrival)
    (contexts : List Context) (deed : Deed) :
    (w.perform base arrival contexts deed).1.signal = w.signal.armedAll deed.arming.toList := by
  cases deed with
  | advance ms fire => cases fire <;> cases arrival <;> rfl
  | cancelBase => rfl
  | arm set =>
    rw [Worker.perform, bound]
    cases set with
    | false => rfl
    | true =>
      simp [PostInvokeSignal.arm, PostInvokeSignal.set?, Deed.arming, PostInvokeSignal.armedAll,
        PostInvokeSignal.armedWith]
  | _ =>
    rw [Worker.perform.eq_def]
    dsimp only
    split <;> rfl

theorem signal_performAll_of_bound (bound : base.hasSignal = true) (w : Worker)
    (arrival : Arrival) (contexts : List Context) (deeds : List Deed) :
    (w.performAll base arrival contexts deeds).signal =
      w.signal.armedAll (deeds.filterMap Deed.arming) := by
  induction deeds generalizing w contexts with
  | nil => rfl
  | cons deed deeds ih =>
    rw [Worker.performAll_cons, ih, signal_perform_of_bound bound, List.filterMap_cons]
    cases deed.arming <;> rfl

/-- The handler is called, and arms the signal. -/
theorem proceeds_call (bound : base.hasSignal = true) (h : Handler) (context : Context)
    (arrival : Arrival) (w : Worker) :
    Ends (h.call base context arrival) w fun _ w' =>
      ∃ call sets, h.Arms call sets ∧ w.Proceeds call sets w' := by
  have journal := journal_call h base context arrival w
  rw [Ends, Handler.call_eq] at journal ⊢
  obtain ⟨sight, events, journal, seen⟩ := journal
  refine ⟨some (.called arrival sight w.correlation), _,
    ⟨(w.sight arrival).1, arrival, sight, w.correlation, rfl, rfl⟩, ⟨_, journal, ?_, ?_⟩, ?_⟩
  · have quiet : ∀ e ∈ events, ¬ e.isCall = true := by
      intro e mem
      obtain ⟨sight, rfl⟩ := seen e mem
      exact Bool.false_ne_true
    rw [List.filter_cons_of_pos rfl, List.filter_eq_nil_iff.2 quiet]
    rfl
  · rintro e (_ | ⟨_, mem⟩)
    · rfl
    · obtain ⟨sight, rfl⟩ := seen e mem
      rfl
  · have looked : (w.sight arrival).1.signal = w.signal := by
      cases arrival <;> rfl
    exact (signal_performAll_of_bound bound _ arrival [context] _).trans (by rw [← looked]; rfl)

theorem proceeds_execute [Interpreter] (bound : options.base.hasSignal = true) (i : Invoke)
    (context : Context) (w : Worker) : Ends (Run.execute i context options) w fun _ w' =>
      ∃ call sets, options.handler.Arms call sets ∧ w.Proceeds call sets w' := by
  have own : ∀ v events,
      (∃ call sets, options.handler.Arms call sets ∧ w.Proceeds call sets v) →
      (∀ e ∈ events, e.isOwn = true) →
      ∃ call sets, options.handler.Arms call sets ∧ w.Proceeds call sets (v.noting events) :=
    fun v events ⟨call, sets, arms, proceeds⟩ own => ⟨call, sets, arms, proceeds.noting own⟩
  have run : Ends (options.handler.run options.base context i.payload) w fun _ w' =>
      ∃ call sets, options.handler.Arms call sets ∧ w.Proceeds call sets w' := by
    rw [Handler.run]
    split
    · exact proceeds_call bound _ context _ w
    · rw [Handler.runAdapted_eq]
      split
      · exact ⟨none, [], rfl, .of_same rfl rfl⟩
      · exact (proceeds_call bound _ context _ w).bind_detached (Detached.conclude _) own
  rw [Run.execute_eq, Handler.invoke_eq]
  exact (run.bind_detached Detached.answer own).bind_detached (Detached.settle i) own

theorem proceeds_handleInvoke [Interpreter] (bound : options.base.hasSignal = true) (i : Invoke)
    (w : Worker) :
    Ends (Run.handleInvoke i options) w fun _ w' =>
      ∃ call sets, options.handler.Arms call sets ∧ w.Proceeds call sets w' := by
  have refused : ∀ {e : Thrown} {v : Worker}, w.Proceeds none [] v →
      Ends (Run.proceed i options (.error e)) v fun _ w' =>
        ∃ call sets, options.handler.Arms call sets ∧ w.Proceeds call sets w' :=
    fun proceeds => ((Detached.proceed_error i options _).ends _).mono <| by
      rintro _ _ ⟨events, rfl, proper⟩
      exact ⟨none, [], rfl, proceeds.noting fun e mem => (proper e mem).2.2⟩
  refine ends_handleInvoke_of_cases (fun _ _ => refused (.of_same rfl rfl))
    (fun _ _ _ _ => refused (.of_same rfl rfl)) fun invocation _ _ => ?_
  refine (proceeds_execute bound i _ _).andFinally fun r v ⟨call, sets, arms, proceeds⟩ => ?_
  -- To name the invoke and to build its context neither touches the signal nor leaves a trace in
  -- the journal.
  have named : w.Proceeds none [] (((w.naming i).derive options.base invocation.deadline).1
      |>.withCorrelation (·.publishing invocation.trace)) := .of_same rfl rfl
  cases r <;> exact ⟨call, sets, arms, (named.before proceeds).after (.of_same rfl rfl)⟩

/-! ## Between two invokes -/

namespace Run

/-- The message that an event was not set in time. -/
def notSet : LogEntry :=
  .of "INFO" loopLogger ("Post-invoke signal not set within " ++ Value.floatLiteral postInvokeWait
    ++ "s, continuing")

theorem postInvokeWait_millis :
    (postInvokeWait.mul (.ofIntRatio 1000 1)).truncate.getD 0 = 10000 := by
  decide +kernel

end Run

/-- The worker after it has waited ten seconds at most for an event. The slot is empty. -/
def Worker.pausing (w : Worker) (set : Bool) : Worker :=
  let w := { w.note (.waited 10000) with signal := w.signal.cleared }
  if set then w else w.log Run.notSet

theorem waitAfterInvoke_eq (bound : base.hasSignal = true) (w : Worker) :
    Run.waitAfterInvoke base w =
      .ok () (if w.signal.armed then w.pausing w.signal.fires else w) := by
  have unfolded : Run.waitAfterInvoke base w = (if base.hasSignal && w.signal.armed then do
      unless ← Run.waitForSignal Run.postInvokeWait do Run.log Run.notSet
    else pure () : Run Unit) w := rfl
  rw [unfolded, bound, Bool.true_and]
  split
  · next armed =>
    have waited : Run.waitForSignal Run.postInvokeWait w =
        .ok w.signal.fires { w.note (.waited 10000) with signal := w.signal.cleared } := by
      have unfolded : Run.waitForSignal Run.postInvokeWait w = (do
          if w.signal.armed then
            Run.note (.waited ((Run.postInvokeWait.mul (.ofIntRatio 1000 1)).truncate.getD 0))
            modify fun v => { v with signal := w.signal.cleared }
          return w.signal.fires : Run Bool) w := rfl
      rw [unfolded, if_pos armed, Run.postInvokeWait_millis]
      rfl
    rw [Run.bind_of_ok waited]
    cases set : w.signal.fires <;> rfl
  · rfl

/-- What happens to an invoke `i` from its delivery until the next one is asked for. When it is
    processed, `v₁` has become `v₂`, and after the wait that has become `v₃`. -/
structure Round (c : Client) (options : HandlerOptions) (replies : Replies) (i : Invoke)
    (v₁ v₂ v₃ : Worker) (call : Option Event) (sets : List Bool) : Prop where
  /-- The handler arms the signal. The loop does not wait before the invoke is processed. -/
  proceeds : v₁.Proceeds call sets v₂
  arms : options.handler.Arms call sets
  /-- By then a report of the invoke was taken. -/
  reported : ∃ events request, v₂.journal = v₁.journal ++ events ∧ .request request ∈ events ∧
    ∃ action ∈ actions, ∃ body,
      Posted replies (c.invocationUrl i.id action) body request .accepted
  armed : v₂.signal.armed = true ↔ sets ≠ []
  /-- The loop waits if the signal was armed, and for the event that was handed out last. -/
  waits : match sets.getLast? with
    | none => v₃ = v₂
    | some set => v₂.signal.slot = some (v₂.signal.events.length - 1) ∧ v₃ = v₂.pausing set

section Round

variable [Interpreter]

variable {c : Client} {api : Text} {delivery : Delivery} {deliveries rest : List Delivery}
  {v₁ v₂ v₃ : Worker} {r : Except Thrown Unit}

/-- An invoke that has ended without an error is reported, and its report was taken. -/
theorem exists_posted (bound : i.client = some c)
    (handled : Run.handleInvoke i options v₁ = .ok () v₂) :
    ∃ events request, v₂.journal = v₁.journal ++ events ∧ .request request ∈ events ∧
      ∃ action ∈ actions, ∃ body,
        Posted v₁.replies (c.invocationUrl i.id action) body request .accepted := by
  have ends : Ends (Run.handleInvoke i options) v₁ _ := ends_handleInvoke bound
  rw [Ends, handled] at ends
  obtain ⟨call, post, events, adds, handled⟩ := ends
  obtain ⟨request, rfl⟩ := Option.ne_none_iff_exists'.1 (handled.returned rfl)
  obtain ⟨action, known, body, reply, posted, taken⟩ := handled.report request rfl
  obtain rfl := taken rfl
  have mem : .request request ∈ events.filter Event.isLoud := by
    rw [handled.order]
    exact List.mem_append_right _ (List.mem_singleton_self _)
  exact ⟨events, request, adds.journal, (List.mem_filter.1 mem).1, action, known, body, posted⟩

/-- What a round comes to, once its invoke has been processed. -/
theorem round_of_handled (bound : options.base.hasSignal = true) (unarmed : v₁.signal.armed = false)
    (client : i.client = some c) (handled : Run.handleInvoke i options v₁ = .ok () v₂) :
    ∃ v₃ call sets, Run.waitAfterInvoke options.base v₂ = .ok () v₃ ∧
      Round c options v₁.replies i v₁ v₂ v₃ call sets := by
  have ends := proceeds_handleInvoke bound i v₁
  rw [Ends, handled] at ends
  obtain ⟨call, sets, arms, proceeds⟩ := ends
  -- The slot was empty at first, so it is armed if, and only if, the handler has armed it.
  have slot := v₁.signal.armedAll_cases sets
  rw [← proceeds.signal] at slot
  refine ⟨_, call, sets, waitAfterInvoke_eq bound v₂, proceeds, arms,
    exists_posted client handled, ?_, ?_⟩
  · cases last : sets.getLast? with
    | none =>
      rw [last] at slot
      simp [slot, unarmed, List.getLast?_eq_none_iff.1 last]
    | some set =>
      rw [last] at slot
      have some_set : sets ≠ [] := by
        rintro rfl
        cases last
      simp [slot.1, some_set]
  · cases last : sets.getLast? with
    | none =>
      rw [last] at slot
      dsimp only
      rw [slot, unarmed]
      rfl
    | some set =>
      rw [last] at slot
      obtain ⟨armed, at_last, fires⟩ := slot
      dsimp only
      rw [if_pos armed, fires]
      exact ⟨at_last, rfl⟩

end Round

/-- In every run whose base context carries a signal that is not armed at first, it is not armed
    whenever the loop asks for an invoke. Each invoke that is processed makes a round, and where
    the loop stops there is no wait. -/
theorem Run.waits [Interpreter] (c : Client) (api : Text) (options : HandlerOptions)
    (deliveries : List Delivery) (w : Worker) (bound : options.base.hasSignal = true)
    (unarmed : w.signal.armed = false) (rest : List Delivery) (v : Worker)
    (reached : Reaches c api options deliveries w rest v) : v.signal.armed = false ∧
    (∀ delivery more i v₁ v₂, rest = delivery :: more → c.next delivery v = .ok i v₁ →
      handleInvoke i options v₁ = .ok () v₂ →
      ∃ v₃ call sets, waitAfterInvoke options.base v₂ = .ok () v₃ ∧
        Reaches c api options deliveries w more v₃ ∧
        Round c options delivery.replies i v₁ v₂ v₃ call sets) ∧
    ∀ e v', Stops c options rest v e v' → v.Grows (·.isWait = false) v' := by
  have unarmed := reached.unarmed unarmed
  refine ⟨unarmed, ?_, ?_⟩
  · rintro delivery more i v₁ v₂ rfl delivered handled
    obtain ⟨delivers, url, -, rfl⟩ := delivers_of_next delivered
    have still : (v.receiving url delivery.replies i).signal.armed = false := unarmed
    obtain ⟨v₃, call, sets, waited, round⟩ :=
      round_of_handled bound still delivers.client handled
    exact ⟨v₃, call, sets, waited, reached.next delivered handled waited, round⟩
  · intro e v' stops
    cases stops with
    | undelivered failed =>
      have asked := ends_next_exact c (rest.headD .exhausted) v
      rw [Ends, failed] at asked
      refine asked.mono fun event request => ?_
      cases event <;> first | rfl | cases request
    | @unhandled i _ v₁ _ delivered failed =>
      obtain ⟨-, url, -, rfl⟩ := delivers_of_next delivered
      have received : v.Grows (·.isWait = false)
          (v.receiving url (rest.headD .exhausted).replies i) :=
        ⟨[.request _, .log _ _ _], List.append_assoc _ [_] [_], by simp [Event.isWait]⟩
      have ends := proceeds_handleInvoke bound i (v.receiving url (rest.headD .exhausted).replies i)
      rw [Ends, failed] at ends
      obtain ⟨call, sets, -, ⟨⟨events, journal, -, busy⟩, -⟩⟩ := ends
      exact received.trans ⟨events, journal, busy⟩

/-! ## A handler that arms the signal twice -/

/-- A handler that arms the signal twice, of which it sets the first event only, below a root that
    carries the signal. -/
def HandlerOptions.rearming : HandlerOptions :=
  ⟨.of .raw fun _ _ => ⟨[.arm true, .arm false], .returns (.bytes [])⟩,
    (Context.ofScope 0).withSlot Context.signalKey .signal, none⟩

/-- The loop waits for the second event, in vain, and asks for the next invoke. -/
theorem Run.waits_of_rearming :
    ∃ v₂ v₃ : Worker, v₂.signal = ⟨[true, false], some 1⟩ ∧ v₃ = v₂.pausing false ∧
      v₃.signal.armed = false ∧
      Reaches ⟨"h"⟩ "h" .rearming [.bare (.traced "a" "")] ((Scene.start 0 none).act .root).worker
        [] v₃ := by
  have bound : HandlerOptions.rearming.base.hasSignal = true := by decide +kernel
  obtain ⟨url, parsed⟩ : ∃ url, Client.normalize (Client.nextUrl ⟨"h"⟩) = .ok url := ⟨_, rfl⟩
  have delivers : Delivers ⟨"h"⟩ (.bare (.traced "a" ""))
    ⟨"a", [], .traced "a" "", some ⟨"h"⟩⟩ := ⟨_, _, rfl, by decide +kernel⟩
  have ends : Ends (handleInvoke ⟨"a", [], .traced "a" "", some ⟨"h"⟩⟩ .rearming)
      ((((Scene.start 0 none).act .root).worker.log (.of "INFO" loopLogger
        ("Starting invoke loop against Runtime API " ++ "h"))).receiving url .accepted
          ⟨"a", [], .traced "a" "", some ⟨"h"⟩⟩) fun r w' =>
      r = .ok () ∧ w'.signal = ⟨[true, false], some 1⟩ := ⟨rfl, rfl⟩
  obtain ⟨v₂, handled, signal⟩ := ends.exists_ok
  obtain ⟨-, rounds, -⟩ := waits ⟨"h"⟩ "h" .rearming [.bare (.traced "a" "")]
    ((Scene.start 0 none).act .root).worker bound rfl _ _ .start
  obtain ⟨v₃, call, sets, -, reached, round⟩ := rounds _ _ _ _ _ rfl
    (next_of_delivers delivers parsed _) handled
  have sets_eq : sets = [true, false] := by
    have events := PostInvokeSignal.events_armedAll .initial sets
    exact events.symm.trans (congrArg (·.events) (round.proceeds.signal.symm.trans signal))
  have pause := round.waits
  rw [sets_eq] at pause
  have unarmed := (waits ⟨"h"⟩ "h" .rearming [.bare (.traced "a" "")]
    ((Scene.start 0 none).act .root).worker bound rfl _ _ reached).1
  exact ⟨v₂, v₃, signal, pause.2, unarmed, reached⟩

end InvokeWorker
