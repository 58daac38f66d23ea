import InvokeWorker.Proofs.Detached
import InvokeWorker.Proofs.LoopStates
import InvokeWorker.Proofs.ScopeTwins

/-!
# Every invoke as if it were the first

A worker that has processed many invokes differs from one that has just been started: scopes were
created and cancelled, a trace header was published, ids were left behind. None of this can be seen
in what it does with the next invoke. `Run.handleInvoke_independent`: wherever the loop has got to,
the next invoke leads to the same events, in the same order, and ends in the same way as in any
other process with a base context that shows the same, at the same time and in the same directory.

This holds if the handler goes by its arguments (`Handler.HeedsArguments`). The two processes are
followed step by step (`Run.InStep`). Before and after the call of the handler what they do is
detached, and they agree on the little that it depends on; while the handler runs, the contexts it
works on are twins. Between two invokes the post-invoke signal is not armed, just as in a process
that has just been started (`Run.Reaches.unarmed`).

Of two contexts in the journals it is asked that they carry the same. The number of a scope is
nothing that anybody could see.
-/

namespace InvokeWorker

/-! ## What can be seen -/

/-- A context without the number of its scope. -/
def Context.unnumbered (c : Context) : Context :=
  { c with scope := 0 }

/-- What has arrived, without the numbers of scopes. -/
def Arrival.unnumbered : Arrival → Arrival
  | .raw context payload => .raw context.unnumbered payload
  | .adapted event invocation => .adapted event invocation

/-- An event without the numbers of scopes. -/
def Event.unnumbered : Event → Event
  | .called arrival sight correlation => .called arrival.unnumbered sight correlation
  | e => e

/-- The handler goes by its arguments: by what has arrived and what it sees of its context, by the
    time and the working directory, and by the post-invoke signal. -/
def Handler.HeedsArguments (h : Handler) : Prop :=
  ∀ (w w' : Worker) (arrival arrival' : Arrival), arrival'.unnumbered = arrival.unnumbered →
    (w'.sight arrival').2 = (w.sight arrival).2 → w'.now = w.now → w'.directory = w.directory →
    w'.signal.armed = w.signal.armed → h.conduct w' arrival' = h.conduct w arrival

/-- Another process, with a base context that shows the same, and a post-invoke signal that is not
    armed. The two need not have anything else in common, be it other scopes, ids left behind or
    what has happened before. -/
structure Worker.Resembles (w : Worker) (base : Context) (w' : Worker) (base' : Context) :
    Prop where
  valid : Scene.Valid ⟨w', [base']⟩
  now : w'.now = w.now
  directory : w'.directory = w.directory
  unarmed : w'.signal.armed = false
  bindings : base'.bindings = base.bindings
  deadline : w'.scopes.deadlineOf (some base'.scope) = w.scopes.deadlineOf (some base.scope)
  reason : w'.scopes.reasonOf base'.scope = w.scopes.reasonOf base.scope

/-! ## In step -/

/-- Two workers see the same, and since certain times the same has happened to both. -/
structure Worker.Abreast (since since' : List Event) (w w' : Worker) : Prop where
  agrees : w.Agrees w'
  same : ∃ events events', w.journal = since ++ events ∧ w'.journal = since' ++ events' ∧
    events'.map Event.unnumbered = events.map Event.unnumbered

namespace Worker.Abreast

variable {since since' : List Event} {w w' : Worker}

theorem note (h : w.Abreast since since' w') {e e' : Event} (same : e'.unnumbered = e.unnumbered) :
    (w.note e).Abreast since since' (w'.note e') := by
  obtain ⟨agrees, events, events', journal, journal', alike⟩ := h
  refine ⟨⟨agrees.ids, agrees.directory, agrees.replies⟩, events ++ [e], events' ++ [e'],
    ?_, ?_, ?_⟩
  · rw [Worker.note, journal, List.append_assoc]
  · rw [Worker.note, journal', List.append_assoc]
  · rw [List.map_append, List.map_append, alike, List.map_singleton, List.map_singleton, same]

theorem noting (h : w.Abreast since since' w') (more : List Event) :
    (w.noting more).Abreast since since' (w'.noting more) := by
  obtain ⟨agrees, events, events', journal, journal', alike⟩ := h
  refine ⟨agrees.noting more, events ++ more, events' ++ more, ?_, ?_, ?_⟩
  · rw [Worker.noting, journal, List.append_assoc]
  · rw [Worker.noting, journal', List.append_assoc]
  · rw [List.map_append, List.map_append, alike]

/-- Time, scopes and the post-invoke signal may change. -/
theorem alter (h : w.Abreast since since' w') (now now' : Int) (scopes scopes' : ScopeTree)
    (signal signal' : PostInvokeSignal) :
    Abreast since since' { w with now, scopes, signal }
      { w' with now := now', scopes := scopes', signal := signal' } :=
  ⟨⟨h.agrees.ids, h.agrees.directory, h.agrees.replies⟩, h.same⟩

end Worker.Abreast

namespace Run

open Worker (Abreast)

variable {α β : Type} {since since' : List Event} {run run' : Run α} {f f' : α → Run β}
  {w w' : Worker}

/-- Two computations end in the same way, and with the same events since certain times. -/
def InStep (since since' : List Event) (run run' : Run α) (w w' : Worker) : Prop :=
  ∃ r v v', run w = ended r v ∧ run' w' = ended r v' ∧ v.Abreast since since' v'

namespace InStep

theorem of_detached (detached : Detached run) (h : w.Abreast since since' w') :
    InStep since since' run run w w' := by
  obtain ⟨r, events, -, ends⟩ := detached w
  exact ⟨r, _, _, ends w ⟨rfl, rfl, rfl⟩, ends w' h.agrees, h.noting events⟩

theorem bind (h : InStep since since' run run' w w')
    (next : ∀ a v v', v.Abreast since since' v' → InStep since since' (f a) (f' a) v v') :
    InStep since since' (run >>= f) (run' >>= f') w w' := by
  obtain ⟨r, v, v', ends, ends', abreast⟩ := h
  cases r with
  | error e => exact ⟨.error e, v, v', bind_of_error ends, bind_of_error ends', abreast⟩
  | ok a =>
    obtain ⟨s, u, u', ends₁, ends₁', abreast'⟩ := next a v v' abreast
    exact ⟨s, u, u', (bind_of_ok ends).trans ends₁, (bind_of_ok ends').trans ends₁', abreast'⟩

/-- Each of the two cancels a context of its own in the end. -/
theorem finally_cancel (h : InStep since since' run run' w w') (c c' : Context) :
    InStep since since' (run.andFinally (modify (·.cancel c)))
      (run'.andFinally (modify (·.cancel c'))) w w' := by
  obtain ⟨r, v, v', ends, ends', abreast⟩ := h
  refine ⟨r, v.cancel c, v'.cancel c', ?_, ?_, abreast.alter _ _ _ _ _ _⟩
  · rw [andFinally, bind_of_ok (outcome_of_ended ends)]
    cases r <;> rfl
  · rw [andFinally, bind_of_ok (outcome_of_ended ends')]
    cases r <;> rfl

end InStep

end Run

/-! ## While the handler runs -/

section Handler

open Worker (Abreast)
open Run (InStep Detached)

variable {since since' : List Event} {w w' : Worker} {base base' : Context}
  {pairs : List (Context × Context)} {arrival arrival' : Arrival}

/-- The same has arrived, in one case with the one and in the other with the other of a pair of
    contexts. -/
inductive Arrival.Corresponds (pairs : List (Context × Context)) : Arrival → Arrival → Prop
  | raw {p : Context × Context} {payload : Bytes} : p ∈ pairs →
    Corresponds pairs (.raw p.1 payload) (.raw p.2 payload)
  | adapted {event : Document} {invocation : Option Invocation} :
    Corresponds pairs (.adapted event invocation) (.adapted event invocation)

theorem Arrival.Corresponds.mono {more : List (Context × Context)} (sub : pairs ⊆ more)
    (h : arrival.Corresponds pairs arrival') : arrival.Corresponds more arrival' := by
  cases h with
  | raw mem => exact .raw (sub mem)
  | adapted => exact .adapted

namespace Twins

/-- What has arrived looks the same, but for the numbers of scopes. -/
theorem unnumbered (h : Twins pairs w w') (arrived : arrival.Corresponds pairs arrival') :
    arrival'.unnumbered = arrival.unnumbered := by
  cases arrived with
  | raw mem => rw [Arrival.unnumbered, Arrival.unnumbered, Context.unnumbered, Context.unnumbered,
      h.bindings _ mem]
  | adapted => rfl

theorem sight_eq (h : Twins pairs w w') (arrived : arrival.Corresponds pairs arrival') :
    (w'.sight arrival').2 = (w.sight arrival).2 := by
  cases arrived with
  | raw mem => exact congrArg Sight.standing (h.standing mem)
  | adapted =>
    simp only [Worker.sight, h.now]

theorem note (h : Twins pairs w w') (e e' : Event) : Twins pairs (w.note e) (w'.note e') :=
  h.of_scopes rfl rfl h.now

theorem sight (h : Twins pairs w w') (arrived : arrival.Corresponds pairs arrival') :
    Twins pairs (w.sight arrival).1 (w'.sight arrival').1 := by
  cases arrived with
  | raw mem => exact h.refresh mem
  | adapted => exact h

end Twins

theorem Worker.Abreast.sight (h : w.Abreast since since' w')
    (arrived : arrival.Corresponds pairs arrival') :
    (w.sight arrival).1.Abreast since since' (w'.sight arrival').1 := by
  cases arrived with
  | raw mem => exact h.alter _ _ _ _ _ _
  | adapted => exact h

theorem Context.hasSignal_congr {c d : Context} (same : c.bindings = d.bindings) :
    c.hasSignal = d.hasSignal := by
  rw [hasSignal, hasSignal, lookup?, lookup?, same]

theorem Context.invocation?_congr {c d : Context} (same : c.bindings = d.bindings) :
    c.invocation? = d.invocation? := by
  rw [invocation?, invocation?, lookup?, lookup?, same]

/-- A deed done to both keeps the contexts twins; those derived are twins as well. -/
theorem Twins.perform (twins : Twins ((base, base') :: pairs) w w')
    (abreast : w.Abreast since since' w')
    (arrived : arrival.Corresponds ((base, base') :: pairs) arrival') (deed : Deed) :
    ∃ more,
      (w.perform base arrival (pairs.map (·.1)) deed).2 = (pairs ++ more).map (·.1) ∧
      (w'.perform base' arrival' (pairs.map (·.2)) deed).2 = (pairs ++ more).map (·.2) ∧
      Twins ((base, base') :: (pairs ++ more)) (w.perform base arrival (pairs.map (·.1)) deed).1
        (w'.perform base' arrival' (pairs.map (·.2)) deed).1 ∧
      (w.perform base arrival (pairs.map (·.1)) deed).1.Abreast since since'
        (w'.perform base' arrival' (pairs.map (·.2)) deed).1 := by
  -- Most deeds derive no context.
  have same : ∀ {v v' : Worker}, Twins ((base, base') :: pairs) v v' → v.Abreast since since' v' →
      ∃ more, pairs.map (·.1) = (pairs ++ more).map (·.1) ∧
        pairs.map (·.2) = (pairs ++ more).map (·.2) ∧
        Twins ((base, base') :: (pairs ++ more)) v v' ∧ v.Abreast since since' v' := by
    intro v v' twins abreast
    refine ⟨[], ?_⟩
    rw [List.append_nil]
    exact ⟨rfl, rfl, twins, abreast⟩
  have member : ∀ {p : Context × Context} {k : Nat}, pairs[k]? = some p →
      p ∈ (base, base') :: pairs :=
    fun found => List.mem_cons_of_mem _ (List.mem_of_getElem? found)
  cases deed with
  | advance ms fire =>
    have later := twins.advance ms fire
    have abreast' : (w.advance ms fire).Abreast since since' (w'.advance ms fire) := by
      cases fire <;> exact abreast.alter _ _ _ _ _ _
    refine same ((later.sight arrived).of_scopes rfl rfl (later.sight arrived).now) ?_
    exact (abreast'.sight arrived).note
      (congrArg (fun s => (Event.advanced s).unnumbered) (later.sight_eq arrived))
  | cancelBase => exact same (twins.cancel List.mem_cons_self) (abreast.alter _ _ _ _ _ _)
  | cancel k =>
    simp only [Worker.perform, List.getElem?_map]
    cases found : pairs[k]? with
    | none => exact same twins abreast
    | some p => exact same (twins.cancel (member found)) (abreast.alter _ _ _ _ _ _)
  | look k =>
    simp only [Worker.perform, List.getElem?_map]
    cases found : pairs[k]? with
    | none => exact same twins abreast
    | some p => exact same (twins.refresh (member found)) (abreast.alter _ _ _ _ _ _)
  | derive k deadline =>
    simp only [Worker.perform, List.getElem?_map]
    cases found : pairs[k]? with
    | none => exact same twins abreast
    | some p =>
      refine ⟨[((w.derive p.1 deadline).2, (w'.derive p.2 deadline).2)], ?_, ?_, ?_,
        abreast.alter _ _ _ _ _ _⟩
      · rw [List.map_append]
        rfl
      · rw [List.map_append]
        rfl
      · exact twins.derive (member found) deadline
  | arm set =>
    have signal : base'.hasSignal = base.hasSignal :=
      Context.hasSignal_congr (twins.bindings _ List.mem_cons_self)
    simp only [Worker.perform, signal]
    split
    · exact same (twins.of_scopes rfl rfl twins.now) (abreast.alter _ _ _ _ _ _)
    · exact same twins abreast

theorem Twins.performAll (twins : Twins ((base, base') :: pairs) w w')
    (abreast : w.Abreast since since' w')
    (arrived : arrival.Corresponds ((base, base') :: pairs) arrival') (deeds : List Deed) :
    (w.performAll base arrival (pairs.map (·.1)) deeds).Abreast since since'
      (w'.performAll base' arrival' (pairs.map (·.2)) deeds) := by
  induction deeds generalizing w w' pairs with
  | nil => exact abreast
  | cons deed deeds ih =>
    -- The rest of the deeds may be done to the contexts that this one has derived.
    obtain ⟨more, contexts, contexts', twins, abreast⟩ := twins.perform abreast arrived deed
    rw [Worker.performAll_cons, Worker.performAll_cons, contexts, contexts']
    refine ih twins abreast (arrived.mono fun p mem => ?_)
    exact (List.mem_cons.1 mem).elim (· ▸ List.mem_cons_self) fun old =>
      List.mem_cons_of_mem _ (List.mem_append_left _ old)

/-- What the call of a handler starts from: its context and the base context are twins, and nothing
    else that it goes by is different. -/
structure Ready (since since' : List Event) (base base' context context' : Context)
    (w w' : Worker) : Prop where
  twins : Twins [(base, base'), (context, context')] w w'
  abreast : w.Abreast since since' w'
  correlation : w'.correlation = w.correlation
  armed : w'.signal.armed = w.signal.armed

namespace Ready

variable {context context' : Context} {h : Handler}

theorem inStep_call (ready : Ready since since' base base' context context' w w')
    (heeds : h.HeedsArguments)
    (arrived : arrival.Corresponds [(base, base'), (context, context')] arrival') :
    InStep since since' (h.call base context arrival) (h.call base' context' arrival') w w' := by
  have twins := ready.twins.sight arrived
  have abreast := ready.abreast.sight arrived
  have correlation : (w'.sight arrival').1.correlation = (w.sight arrival).1.correlation := by
    cases arrived <;> exact ready.correlation
  have armed : (w'.sight arrival').1.signal.armed = (w.sight arrival).1.signal.armed := by
    cases arrived <;> exact ready.armed
  have looks := twins.unnumbered arrived
  -- So the handler does the same, and is seen to be called with the same.
  have conduct := heeds _ _ arrival arrival' looks (twins.sight_eq arrived) twins.now
    abreast.agrees.directory armed
  have called : (Event.called arrival' (w'.sight arrival').2
      (w'.sight arrival').1.correlation).unnumbered =
      (Event.called arrival (w.sight arrival).2 (w.sight arrival).1.correlation).unnumbered := by
    rw [Event.unnumbered, Event.unnumbered, looks, ready.twins.sight_eq arrived, correlation]
  have performed := (twins.note _ _).performAll (abreast.note called) arrived
    (h.conduct (w.sight arrival).1 arrival).deeds
  refine ⟨_, _, _, Handler.call_eq h base context arrival w, ?_, performed⟩
  rw [Handler.call_eq, conduct]
  rfl

/-- The handler is called in the same way, if at all, and what it returns is encoded alike. -/
theorem inStep_run [Interpreter] (ready : Ready since since' base base' context context' w w')
    (heeds : h.HeedsArguments) (payload : Bytes) :
    InStep since since' (h.run base context payload) (h.run base' context' payload) w w' := by
  have bindings : context'.bindings = context.bindings :=
    ready.twins.bindings (context, context') (by simp)
  rw [Handler.run, Handler.run]
  split
  · exact ready.inStep_call heeds (.raw (p := (context, context')) (by simp))
  · rw [Handler.runAdapted_eq, Handler.runAdapted_eq, Context.invocation?_congr bindings]
    split
    · exact .of_detached (Detached.pure _) ready.abreast
    · exact (ready.inStep_call heeds .adapted).bind fun ending v v' abreast =>
        .of_detached (Detached.conclude h ending) abreast

theorem inStep_execute [Interpreter] {options : HandlerOptions}
    (ready : Ready since since' options.base base' context context' w w')
    (heeds : options.handler.HeedsArguments) (i : Invoke) :
    InStep since since' (Run.execute i context options)
      (Run.execute i context' { options with base := base' }) w w' := by
  have invoked : InStep since since' (options.handler.invoke options.base context i.payload)
      (options.handler.invoke base' context' i.payload) w w' := by
    rw [Handler.invoke_eq, Handler.invoke_eq]
    exact (ready.inStep_run heeds i.payload).bind fun ending v v' abreast =>
      .of_detached (Detached.answer ending) abreast
  rw [Run.execute_eq, Run.execute_eq]
  exact invoked.bind fun outcome v v' abreast => .of_detached (Detached.settle i outcome) abreast

end Ready

end Handler

/-! ## Between two invokes

After an invoke the worker waits for the post-invoke signal if it is armed, and disarms it. A base
context without a signal gives the handler nothing to arm. -/

namespace Run

variable {α β : Type} {run : Run α} {f : α → Run β}

/-- The computation leaves the post-invoke signal as it is. -/
def Mute (run : Run α) : Prop :=
  ∀ w, Ends run w fun _ w' => w'.signal = w.signal

namespace Mute

theorem of_detached (detached : Detached run) : Mute run := by
  intro w
  refine (detached.ends w).mono ?_
  rintro _ _ ⟨events, rfl, -⟩
  rfl

theorem act {g : Worker → Worker × α} (same : ∀ w, (g w).1.signal = w.signal) : Mute (act g) :=
  same

theorem bind (h : Mute run) (h' : ∀ a, Mute (f a)) : Mute (run >>= f) := fun w =>
  (h w).bind (fun a v same => (h' a v).mono fun _ _ same' => same'.trans same) fun _ _ same => same

theorem outcome (h : Mute run) : Mute run.outcome := by
  intro w
  obtain ⟨r, v, ends, same⟩ := (h w).exists_ended
  rw [Ends, outcome_of_ended ends]
  exact same

theorem andFinally {after : Run Unit} (h : Mute run) (h' : Mute after) :
    Mute (run.andFinally after) := by
  refine h.outcome.bind fun r => ?_
  cases r with
  | ok a => exact h'.bind fun _ => of_detached (.pure a)
  | error e => exact h'.bind fun _ => of_detached (.throw e)

end Mute

end Run

section Signal

open Run (Ends Mute Detached Reaches)

variable {base : Context}

theorem signal_perform (silent : base.hasSignal = false) (w : Worker) (arrival : Arrival)
    (contexts : List Context) (deed : Deed) :
    (w.perform base arrival contexts deed).1.signal = w.signal := by
  cases deed with
  | advance ms fire => cases fire <;> cases arrival <;> rfl
  | cancelBase => rfl
  | arm set =>
    rw [Worker.perform, silent]
    rfl
  | _ =>
    rw [Worker.perform.eq_def]
    dsimp only
    split <;> rfl

theorem signal_performAll (silent : base.hasSignal = false) (w : Worker) (arrival : Arrival)
    (contexts : List Context) (deeds : List Deed) :
    (w.performAll base arrival contexts deeds).signal = w.signal := by
  induction deeds generalizing w contexts with
  | nil => rfl
  | cons deed deeds ih => rw [Worker.performAll_cons, ih, signal_perform silent]

theorem mute_invoke [Interpreter] (silent : base.hasSignal = false) (h : Handler)
    (context : Context) (payload : Bytes) : Mute (h.invoke base context payload) := by
  have called : ∀ arrival, Mute (h.call base context arrival) := fun arrival => .act fun w => by
    dsimp only
    rw [signal_performAll silent]
    cases arrival <;> rfl
  rw [Handler.invoke_eq]
  refine Mute.bind ?_ fun ending => .of_detached (Detached.answer ending)
  rw [Handler.run]
  split
  · exact called _
  · rw [Handler.runAdapted_eq]
    split
    · exact .of_detached (.pure _)
    · exact (called _).bind fun ending => .of_detached (Detached.conclude h ending)

theorem mute_handleInvoke [Interpreter] {options : HandlerOptions}
    (silent : options.base.hasSignal = false) (i : Invoke) : Mute (Run.handleInvoke i options) := by
  have built : Mute (Context.build i options.base options.settings) := by
    refine (Mute.of_detached (.ofExcept _)).bind fun invocation => (Mute.act fun _ => rfl).bind
      fun context => Mute.bind ?_ fun _ => .of_detached (.pure _)
    exact fun w => Ends.get_bind (Ends.ofExcept_bind (fun _ _ => rfl) fun _ _ => rfl)
  have named : Mute (modify (·.naming i)) := fun _ => rfl
  refine named.bind fun _ => built.outcome.bind fun r => ?_
  cases r with
  | error e => exact .of_detached (Detached.proceed_error i options e)
  | ok context =>
    have executed : Mute (Run.execute i context options) := by
      rw [Run.execute_eq]
      exact (mute_invoke silent _ _ _).bind fun outcome => .of_detached (.settle i outcome)
    have cancelled : Mute (modify (·.cancel context)) := fun _ => rfl
    exact executed.andFinally cancelled

theorem unarmed_waitAfterInvoke {w : Worker}
    (silent : base.hasSignal = false → w.signal.armed = false) :
    Ends (Run.waitAfterInvoke base) w fun _ w' => w'.signal.armed = false := by
  refine Ends.get_bind ?_
  split
  · next armed =>
    have waited : Ends (Run.waitForSignal Run.postInvokeWait) w fun _ w' =>
        w'.signal.armed = false := by
      refine Ends.get_bind ?_
      dsimp only
      rw [if_pos (Bool.and_eq_true_iff.1 armed).2]
      rfl
    refine waited.bind (fun set v unarmed => ?_) fun _ _ unarmed => unarmed
    cases set <;> exact unarmed
  · next unarmed =>
    show w.signal.armed = false
    cases signal : base.hasSignal with
    | false => exact silent signal
    | true =>
      rw [signal, Bool.true_and] at unarmed
      exact Bool.eq_false_iff.2 unarmed

/-- In the states of the loop the signal is not armed, if it was not at first. -/
theorem Run.Reaches.unarmed [Interpreter] {c : Client} {api : Text} {options : HandlerOptions}
    {deliveries rest : List Delivery} {w v : Worker}
    (reached : Reaches c api options deliveries w rest v) (unarmed : w.signal.armed = false) :
    v.signal.armed = false := by
  induction reached with
  | start => exact unarmed
  | @next delivery rest i v v₁ v₂ v₃ _ delivered handled waited ih =>
    obtain ⟨-, url, -, rfl⟩ := delivers_of_next delivered
    have disarmed : Ends (Run.waitAfterInvoke options.base) v₂ fun _ w' =>
        w'.signal.armed = false := by
      -- Without a signal there is no wait, but the handler could not arm any.
      refine unarmed_waitAfterInvoke fun silent => ?_
      have same := mute_handleInvoke silent i (v.receiving url delivery.replies i)
      rw [Ends, handled] at same
      rw [same]
      exact ih
    rw [Ends, waited] at disarmed
    exact disarmed

end Signal

/-! ## A whole invoke -/

section Invoke

open Worker (Abreast)
open Run (InStep Detached ended)

variable {options : HandlerOptions} {base base' : Context} {w w' : Worker} {i : Invoke}
  {delivery : Delivery} {c : Client}

/-- A process that has just been started, with a base context that shows the same. -/
def Worker.renewed (w : Worker) (base : Context) : Worker :=
  let deadline := w.scopes.deadlineOf (some base.scope)
  let reason := w.scopes.reasonOf base.scope
  { Worker.start w.now w.directory with
    scopes := ⟨[⟨none, deadline, reason, reason.isSome, [], reason.isNone && deadline.isSome⟩]⟩ }

theorem ScopeTree.inOrder_singleton {s : Scope} (root : s.parent = none)
    (signalled : s.signalled = s.reason.isSome) (childless : s.children = [])
    (timer : s.timer = (s.reason.isNone && s.deadline.isSome)) : InOrder ⟨[s]⟩ := by
  have only : ∀ {k : Nat} {t : Scope}, [s][k]? = some t → t = s := by
    intro k t found
    exact List.mem_singleton.1 (List.mem_of_getElem? found)
  constructor
  · constructor
    · intro k p t found parent
      rw [only found, root] at parent
      cases parent
    · intro k p t u d found parent
      rw [only found, root] at parent
      cases parent
  · constructor
    case signalled =>
      intro k t found
      rw [only found, signalled, Option.isSome_iff_ne_none]
    case of_timer =>
      intro k t found running
      rw [only found] at running ⊢
      rw [timer, Bool.and_eq_true, Option.isNone_iff_eq_none, Option.isSome_iff_ne_none] at running
      exact running
    case timer =>
      intro k t found live deadline
      rw [only found] at live deadline ⊢
      rw [timer, Bool.and_eq_true, Option.isNone_iff_eq_none, Option.isSome_iff_ne_none]
      exact .inl ⟨live, deadline⟩
    case emptied =>
      intro k t found dead
      rw [only found, childless]
    case nodup =>
      intro k t found
      rw [only found, childless]
      exact List.nodup_nil
    case attached =>
      intro k t found live c
      rw [only found, childless]
      refine iff_of_false List.not_mem_nil ?_
      rintro ⟨u, found, parent, -⟩
      rw [only found, root] at parent
      cases parent
    case pursued =>
      intro k p t u found parent
      rw [only found, root] at parent
      cases parent

theorem Worker.resembles_renewed (w : Worker) (base : Context) :
    w.Resembles base (w.renewed base) ⟨0, base.bindings⟩ where
  valid := ⟨ScopeTree.inOrder_singleton rfl rfl rfl rfl, by simp [Worker.renewed]⟩
  now := rfl
  directory := rfl
  unarmed := rfl
  bindings := rfl
  deadline := rfl
  reason := rfl

theorem Worker.Resembles.twins (like : w.Resembles base w' base')
    (valid : Scene.Valid ⟨w, [base]⟩) : Twins [(base, base')] w w' where
  valid := valid
  valid' := like.valid
  now := like.now
  bindings p mem := List.mem_singleton.1 mem ▸ like.bindings
  deadline p mem := List.mem_singleton.1 mem ▸ like.deadline
  reason p mem := List.mem_singleton.1 mem ▸ like.reason
  within p mem q mem_q := by
    rw [List.mem_singleton.1 mem, List.mem_singleton.1 mem_q]
    exact iff_of_true .self .self

/-- What the processing of an invoke starts from in two processes. -/
structure Alike (base base' : Context) (w w' : Worker) : Prop where
  twins : Twins [(base, base')] w w'
  directory : w'.directory = w.directory
  replies : w'.replies = w.replies
  armed : w'.signal.armed = w.signal.armed

namespace Alike

/-- Once the invoke is named, what was left behind by others is of no account. -/
theorem naming (alike : Alike base base' w w') (i : Invoke) :
    (w.naming i).Abreast w.journal w'.journal (w'.naming i) where
  agrees := ⟨rfl, alike.directory, alike.replies⟩
  same := ⟨[], [], (List.append_nil _).symm, (List.append_nil _).symm, rfl⟩

/-- Either a context is built in both processes, and all is ready for the handler, or in neither,
    for the same reason. -/
theorem build (alike : Alike base base' w w') (i : Invoke) (settings : Option FunctionSettings) :
    (∃ e v v', Context.build i base settings (w.naming i) = ended (.error e) v ∧
      Context.build i base' settings (w'.naming i) = ended (.error e) v' ∧
      v.Abreast w.journal w'.journal v') ∨
    ∃ context context' v v', Context.build i base settings (w.naming i) = ended (.ok context) v ∧
      Context.build i base' settings (w'.naming i) = ended (.ok context') v' ∧
      Ready w.journal w'.journal base base' context context' v v' := by
  have abreast := alike.naming i
  have twins : Twins [(base, base')] (w.naming i) (w'.naming i) :=
    alike.twins.of_scopes rfl rfl alike.twins.now
  cases made : Invocation.ofInvoke i settings with
  | error e =>
    exact .inl ⟨e, _, _, build_of_malformed made _ _, build_of_malformed made _ _, abreast⟩
  | ok invocation =>
    have derived := twins.derive List.mem_cons_self invocation.deadline
    cases publishable : Correlation.unpublishable? invocation.trace with
    | some e =>
      exact .inl ⟨e, _, _, build_of_unpublishable made publishable _ _,
        build_of_unpublishable made publishable _ _, abreast.alter _ _ _ _ _ _⟩
    | none =>
      refine .inr ⟨_, _, _, _, build_of_publishable made publishable _ _,
        build_of_publishable made publishable _ _, ?_⟩
      refine ⟨(derived.select ?_ ?_).of_scopes rfl rfl derived.now, ⟨⟨rfl, ?_, ?_⟩, abreast.same⟩,
        rfl, alike.armed⟩
      · have same : base'.bindings = base.bindings := alike.twins.bindings _ List.mem_cons_self
        simp [Context.carrying, Context.withValue, Context.withSlot, Worker.derive, same]
      · simp [Context.carrying, Context.withValue, Context.withSlot]
      · exact alike.directory
      · exact alike.replies

/-- What two processes do with an invoke. -/
theorem inStep_handleInvoke [Interpreter] (alike : Alike options.base base' w w')
    (heeds : options.handler.HeedsArguments) (i : Invoke) :
    InStep w.journal w'.journal (Run.handleInvoke i options)
      (Run.handleInvoke i { options with base := base' }) w w' := by
  rcases alike.build i options.settings with
    ⟨e, v, v', built, built', abreast⟩ | ⟨context, context', v, v', built, built', ready⟩
  · obtain ⟨r, u, u', ends, ends', abreast⟩ :=
      InStep.of_detached (Detached.proceed_error i options e) abreast
    exact ⟨r, u, u', (handleInvoke_of_build _ built).trans ends,
      (handleInvoke_of_build { options with base := base' } built').trans ends',
      abreast⟩
  · obtain ⟨r, u, u', ends, ends', abreast⟩ :=
      (ready.inStep_execute heeds i).finally_cancel context context'
    exact ⟨r, u, u', (handleInvoke_of_build _ built).trans ends,
      (handleInvoke_of_build { options with base := base' } built').trans ends',
      abreast⟩

end Alike

/-- Wherever the loop has got to, the next invoke leads to the same log lines, requests, calls and
    waits as in any other process with a base context that shows the same, and it ends in the same
    way. The other process may have processed nothing before (`Worker.resembles_renewed`). -/
theorem Run.handleInvoke_independent [Interpreter] (c : Client) (api : Text)
    (options : HandlerOptions) (deliveries : List Delivery) (w : Worker)
    (valid : Scene.Valid ⟨w, [options.base]⟩) (unarmed : w.signal.armed = false)
    (heeds : options.handler.HeedsArguments) {delivery : Delivery} {rest : List Delivery}
    {v v₁ : Worker} (reached : Reaches c api options deliveries w (delivery :: rest) v) {i : Invoke}
    (delivered : c.next delivery v = .ok i v₁) (f : Worker) (base' : Context)
    (like : v.Resembles options.base f base') :
    ∃ f₁, c.next delivery f = .ok i f₁ ∧ InStep v₁.journal f₁.journal (handleInvoke i options)
      (handleInvoke i { options with base := base' }) v₁ f₁ := by
  obtain ⟨delivers, url, parsed, rfl⟩ := delivers_of_next delivered
  refine ⟨_, next_of_delivers delivers parsed f, ?_⟩
  have twins := like.twins (reached.valid valid)
  have alike : Alike options.base base' (v.receiving url delivery.replies i)
      (f.receiving url delivery.replies i) :=
    ⟨twins.of_scopes rfl rfl twins.now, like.directory, rfl,
      like.unarmed.trans (reached.unarmed unarmed).symm⟩
  exact alike.inStep_handleInvoke heeds i

end Invoke

/-- The second of two invokes, before which the first has left its ids behind, and the same invoke
    in a process of its own. -/
theorem Run.handleInvoke_independent_of_traced :
    ∃ v v₁ f₁, Reaches ⟨"h"⟩ "h" .idle [.bare (.traced "a" "Root=1-a"), .bare (.traced "b" "")]
        ((Scene.start 0 none).act .root).worker [.bare (.traced "b" "")] v ∧
      v.correlation = ⟨some "Root=1-a", some "a", some "Root=1-a"⟩ ∧
      Client.next ⟨"h"⟩ (.bare (.traced "b" "")) (v.renewed (.ofScope 0)) =
        .ok ⟨"b", [], .traced "b" "", some ⟨"h"⟩⟩ f₁ ∧
      InStep v₁.journal f₁.journal
        (handleInvoke ⟨"b", [], .traced "b" "", some ⟨"h"⟩⟩ .idle)
        (handleInvoke ⟨"b", [], .traced "b" "", some ⟨"h"⟩⟩ .idle) v₁ f₁ := by
  have valid : Scene.Valid ((Scene.start 0 none).act .root) := (Scene.valid_start 0 none).act .root
  have heeds : HandlerOptions.idle.handler.HeedsArguments := fun _ _ _ _ _ _ _ _ _ => rfl
  obtain ⟨v, v₁, reached, left, delivered⟩ := exists_reaches_second
  obtain ⟨f₁, delivered', same⟩ := handleInvoke_independent _ _ _ _ _ valid rfl heeds reached
    delivered _ _ (Worker.resembles_renewed _ _)
  exact ⟨v, v₁, f₁, reached, left, delivered', same⟩

end InvokeWorker
