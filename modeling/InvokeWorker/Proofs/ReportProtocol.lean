import InvokeWorker.Proofs.Reporting

/-!
# One report for each invoke

The worker and the Runtime API follow a protocol: the worker asks for an invoke, calls the handler
once at most, reports the invoke once at most, and asks for the next one only after its report was
taken. `Handled` says so of a single invoke, `Conversation` of a whole run.

* `Run.loop_conversation`: every run of the loop is such a conversation, whatever the API answers
  and whatever the handler does, and ends with an error.

The error tells why: something could not be sent or was refused, an error came from outside, out of
the transport or out of the code of the handler, or the handler has crashed. The last one is raised
directly after the report of a fatal failure was taken, and only then.
-/

namespace InvokeWorker

open Worker (Adds Quietly)
open Run (Ends)

/-! ## What the handler leaves in the journal -/

/-- Who asks `x` for its text, its type or its report, for the places it has passed or for the paths
    of the report it supplies gets the error `e` instead. -/
def Thrown.Reveals [Interpreter] (x : Thrown) (trace : Traceback) (e : Thrown) : Prop :=
  x.display = .error e ∨ x.statedType = .error e ∨ x.ownReport? = .error e ∨ trace = .error e ∨
    ∃ r, x.ownReport? = .ok (some r) ∧ r.Emits e

section Reveals

variable {x e : Thrown} {trace : Traceback}

theorem reveals_of_describe [Interpreter] (failed : x.describe = .error e) : x.Reveals trace e := by
  rw [Thrown.describe] at failed
  split at failed
  · cases failed
  · next raised unshown =>
    split at failed
    · cases failed
    · cases failed
      exact .inl unshown

theorem reveals_of_reportedType [Interpreter] (failed : x.reportedType = .error e) :
    x.Reveals trace e := by
  rw [Thrown.reportedType] at failed
  split at failed
  · next raised unstated =>
    cases failed
    exact .inr (.inl unstated)
  · split at failed <;> cases failed

theorem reveals_of_checked [Interpreter] {type message : Value} {fatal : Bool}
    (failed : Report.checked type message trace fatal = .error e) :
    e.IsPlain ∨ x.Reveals trace e := by
  cases trace with
  | ok sites => exact .inl (plainly_checked _ _ _ _ e failed)
  | error raised =>
    cases failed
    exact .inr (.inr (.inr (.inr (.inl rfl))))

/-- A failure that cannot be reported: its error raises another one, or its type or its text is none
    that a report takes. -/
theorem reveals_of_ofFailure [Interpreter] (failed : Report.ofFailure x trace = .error e) :
    e.IsPlain ∨ x.Reveals trace e := by
  rw [Report.ofFailure] at failed
  split at failed
  · rw [Report.ofCrash] at failed
    split at failed
    · next raised undescribed =>
      cases failed
      exact .inr (reveals_of_describe undescribed)
    · exact reveals_of_checked failed
  · rw [Report.ofError] at failed
    split at failed
    · next raised unreported =>
      cases failed
      exact .inr (.inr (.inr (.inl unreported)))
    · cases failed
    · split at failed
      · next raised untyped =>
        cases failed
        exact .inr (reveals_of_reportedType untyped)
      · split at failed
        · next raised undescribed =>
          cases failed
          exact .inr (reveals_of_describe undescribed)
        · exact reveals_of_checked failed

/-- The frames of places raise nothing. -/
theorem Report.not_emits_of_checked {type message : Value} {fatal : Bool} {r : Report}
    (made : checked type message trace fatal = .ok r) (e : Thrown) : ¬ r.Emits e := by
  rintro ⟨f, mem, fault⟩
  rw [checked.eq_def] at made
  split at made
  · cases made
  · dsimp only at made
    split at made
    · cases made
      obtain ⟨site, -, rfl⟩ := List.mem_map.1 mem
      cases fault
    · cases made

/-- So only a report that the error itself supplies can raise something. -/
theorem reveals_of_emits [Interpreter] {r : Report} (made : Report.ofFailure x trace = .ok r)
    (emits : r.Emits e) : x.Reveals trace e := by
  rw [Report.ofFailure] at made
  split at made
  · rw [Report.ofCrash] at made
    split at made
    · cases made
    · exact absurd emits (Report.not_emits_of_checked made e)
  · rw [Report.ofError] at made
    split at made
    · cases made
    · next own supplied =>
      cases made
      exact .inr (.inr (.inr (.inr ⟨_, supplied, emits⟩)))
    · split at made
      · cases made
      · split at made
        · cases made
        · exact absurd emits (Report.not_emits_of_checked made e)

/-- A plain error reveals nothing, as it has a report of its own at most without frames. -/
theorem Thrown.IsPlain.not_emits [Interpreter] {sites : List Site} {r : Report} (plain : x.IsPlain)
    (made : Report.ofFailure x (.ok sites) = .ok r) : ¬ r.Emits e := by
  intro emits
  obtain unshown | unstated | unreported | unlisted | ⟨own, supplied, f, mem, -⟩ :=
    reveals_of_emits made emits
  · obtain ⟨t, shown⟩ := plain.display
    exact absurd (shown.symm.trans unshown) nofun
  · rcases plain.statedType with stated | ⟨t, stated⟩ <;>
      exact absurd (stated.symm.trans unstated) nofun
  · obtain ⟨own, supplied⟩ := plain.ownReport?
    exact absurd (supplied.symm.trans unreported) nofun
  · cases unlisted
  · rw [Thrown.ownReport?.eq_def] at supplied
    split at supplied
    · next detail =>
      obtain ⟨-, rfl⟩ := plain.chosen _ _ _ detail
      rw [Report.frames_chosenReport (Except.ok.inj supplied)] at mem
      exact List.not_mem_nil mem
    · next hooks detail => exact plain.detail hooks detail
    · cases supplied

end Reveals

namespace Worker

variable {w : Worker}

theorem adds_nil (w : Worker) : w.Adds [] w :=
  ⟨(List.append_nil _).symm, rfl⟩

theorem adds_advance (w : Worker) (ms : Int) (fire : Bool) : w.Adds [] (w.advance ms fire) := by
  cases fire <;> exact ⟨(List.append_nil _).symm, rfl⟩

theorem adds_sight (w : Worker) (arrival : Arrival) : w.Adds [] (w.sight arrival).1 := by
  cases arrival <;> exact ⟨(List.append_nil _).symm, rfl⟩

theorem adds_perform (w : Worker) (base : Context) (arrival : Arrival) (contexts : List Context)
    (deed : Deed) :
    ∃ events, w.Adds events (w.perform base arrival contexts deed).1 ∧
      ∀ e ∈ events, e.isLoud = false := by
  have nothing : ∀ {w' : Worker}, w.Adds [] w' →
      ∃ events, w.Adds events w' ∧ ∀ e ∈ events, e.isLoud = false :=
    fun adds => ⟨[], adds, by simp⟩
  cases deed with
  | advance ms fire =>
    have adds := (adds_advance w ms fire).trans (adds_sight (w.advance ms fire) arrival)
    refine ⟨_, adds.trans (adds_note _ (.advanced ((w.advance ms fire).sight arrival).2)), ?_⟩
    intro e mem
    rw [List.mem_singleton.1 mem]
    rfl
  | cancelBase => exact nothing ⟨(List.append_nil _).symm, rfl⟩
  | cancel position =>
    rw [Worker.perform.eq_def]
    dsimp only
    split <;> exact nothing ⟨(List.append_nil _).symm, rfl⟩
  | look position =>
    rw [Worker.perform.eq_def]
    dsimp only
    split <;> exact nothing ⟨(List.append_nil _).symm, rfl⟩
  | derive position deadline =>
    rw [Worker.perform.eq_def]
    dsimp only
    split <;> exact nothing ⟨(List.append_nil _).symm, rfl⟩
  | arm set =>
    rw [Worker.perform.eq_def]
    dsimp only
    split <;> exact nothing ⟨(List.append_nil _).symm, rfl⟩

theorem adds_performAll (w : Worker) (base : Context) (arrival : Arrival) (contexts : List Context)
    (deeds : List Deed) :
    ∃ events, w.Adds events (w.performAll base arrival contexts deeds) ∧
      ∀ e ∈ events, e.isLoud = false := by
  induction deeds generalizing w contexts with
  | nil => exact ⟨[], adds_nil w, by simp⟩
  | cons deed deeds ih =>
    obtain ⟨first, adds, quiet⟩ := adds_perform w base arrival contexts deed
    obtain ⟨second, adds', quiet'⟩ :=
      ih (w.perform base arrival contexts deed).1 (w.perform base arrival contexts deed).2
    refine ⟨first ++ second, adds.trans adds', fun e mem => ?_⟩
    exact (List.mem_append.1 mem).elim (quiet e) (quiet' e)

end Worker

variable {w : Worker}

/-- What is to be seen of the handler: at most one call. -/
structure Called (events : List Event) (call : Option Event) : Prop where
  loud : events.filter Event.isLoud = call.toList
  isCall : ∀ e ∈ call, e.isCall = true

namespace Handler

/-- That call has ended in a certain way. -/
def EndedWith (h : Handler) (call : Option Event) (ending : Ending) : Prop :=
  ∃ w arrival sight correlation, call = some (.called arrival sight correlation) ∧
    (h.conduct w arrival).ending = ending

/-- In that call the handler has raised an error, or one has come up when its result was encoded. -/
def Raised [Interpreter] (h : Handler) (call : Option Event) (x : Thrown) (trace : Traceback) :
    Prop :=
  (∃ inner, h.EndedWith call (.raises x inner) ∧ (trace = inner ∨ trace = h.below x inner)) ∨
    ∃ v, h.EndedWith call (.returns v) ∧ (x.IsPlain ∨ v.LetsThrough x) ∧ trace = h.encoded x

/-- An error comes out of the code of the handler: out of an error it has raised, or out of its
    result. -/
def Emits [Interpreter] (h : Handler) (call : Option Event) (e : Thrown) : Prop :=
  (∃ x trace, h.Raised call x trace ∧ x.Reveals trace e) ∨
    ∃ v, h.EndedWith call (.returns v) ∧ v.LetsThrough e

end Handler

theorem filter_isLoud_of_quiet {events : List Event} (quiet : ∀ e ∈ events, e.isLoud = false) :
    events.filter Event.isLoud = [] := by
  rw [List.filter_eq_nil_iff]
  intro e mem
  simp [quiet e mem]

theorem called_none {events : List Event} (quiet : ∀ e ∈ events, e.isLoud = false) :
    Called events none :=
  ⟨filter_isLoud_of_quiet quiet, by simp⟩

theorem Called.append_quiet {events more : List Event} {call : Option Event}
    (h : Called events call) (quiet : ∀ e ∈ more, e.isLoud = false) :
    Called (events ++ more) call := by
  refine ⟨?_, h.isCall⟩
  rw [List.filter_append, h.loud, filter_isLoud_of_quiet quiet, List.append_nil]

theorem ends_call (h : Handler) (base context : Context) (arrival : Arrival) :
    Ends (h.call base context arrival) w fun r w' =>
      ∃ events call ending, w.Adds events w' ∧ Called events call ∧ r = .ok ending ∧
        h.EndedWith call ending := by
  let w₁ := (w.sight arrival).1
  let event := Event.called arrival (w.sight arrival).2 w₁.correlation
  obtain ⟨events, adds, quiet⟩ := Worker.adds_performAll (w₁.note event) base arrival [context]
    (h.conduct w₁ arrival).deeds
  have noted : w.Adds [event] (w₁.note event) :=
    (Worker.adds_sight w arrival).trans (Worker.adds_note w₁ event)
  refine ⟨_, some event, _, noted.trans adds, Called.append_quiet ⟨rfl, ?_⟩ quiet, rfl,
    w₁, arrival, _, _, rfl, rfl⟩
  rintro _ ⟨⟩
  rfl

/-- What the handler has raised, or what is raised in place of it. -/
theorem raised_awaited {h : Handler} {ending : Ending} {x : Thrown} {trace : Traceback}
    (raises : h.awaited ending = .raises x trace) :
    (x.IsPlain ∧ ∃ sites, trace = .ok sites) ∨
      ∃ inner, ending = .raises x inner ∧ trace = h.below x inner := by
  cases ending with
  | returns v => cases raises
  | raises e inner =>
    rw [Handler.awaited.eq_def] at raises
    dsimp only at raises
    split at raises
    · split at raises
      · cases raises
        exact .inl ⟨Thrown.isPlain_builtin _ _, _, rfl⟩
      · cases raises
        exact .inl ⟨Thrown.isPlain_builtin _ _, _, rfl⟩
      · cases raises
        exact .inr ⟨_, rfl, rfl⟩
    · cases raises
      exact .inr ⟨_, rfl, rfl⟩

/-- A result is what the call has returned. -/
theorem returns_awaited {h : Handler} {ending : Ending} {v : Value}
    (returns : h.awaited ending = .returns v) : ending = .returns v := by
  cases ending with
  | returns v' => exact returns
  | raises e inner =>
    rw [Handler.awaited.eq_def] at returns
    dsimp only at returns
    split at returns
    · split at returns <;> cases returns
    · cases returns

theorem ends_run [Interpreter] (h : Handler) (base context : Context) (payload : Bytes) :
    Ends (h.run base context payload) w fun r w' =>
      ∃ events call ending, w.Adds events w' ∧ Called events call ∧ r = .ok ending ∧
        match ending with
        | .raises x trace => (x.IsPlain ∧ ∃ sites, trace = .ok sites) ∨ h.Raised call x trace
        | .returns v => ∀ e, v.LetsThrough e → h.Emits call e := by
  rw [Handler.run]
  split
  · refine (ends_call h base context _).mono ?_
    rintro r w' ⟨events, call, ending, adds, called, rfl, ended⟩
    refine ⟨events, call, ending, adds, called, rfl, ?_⟩
    cases ending with
    | raises x trace => exact .inr (.inl ⟨trace, ended, .inl rfl⟩)
    | returns v => exact fun e lets => .inr ⟨v, ended, lets⟩
  · rw [Handler.runAdapted]
    split
    · -- The payload is no document, and the handler is not called.
      next e failed =>
      exact ⟨[], none, _, Worker.adds_nil w, called_none (by simp), rfl,
        .inl ⟨plainly_decode payload e failed, _, rfl⟩⟩
    · refine (ends_call h base context _).bind ?_ ?_
      · rintro ending w' ⟨events, call, _, adds, called, ⟨⟩, ended⟩
        split
        · next x trace raises =>
          refine ⟨events, call, _, adds, called, rfl, (raised_awaited raises).imp_right ?_⟩
          rintro ⟨inner, rfl, rfl⟩
          exact .inl ⟨inner, ended, .inr rfl⟩
        · next v returns =>
          cases returns_awaited returns
          refine (ends_encode v).outcome_bind ?_
          rintro r w'' ⟨quietly, came⟩
          obtain ⟨more, adds', quiet⟩ := quietly.adds
          cases r with
          | ok v' =>
            exact ⟨_, call, _, adds.trans adds', called.append_quiet quiet, rfl,
              fun e lets => .inr ⟨v, ended, came e lets⟩⟩
          | error e =>
            exact ⟨_, call, _, adds.trans adds', called.append_quiet quiet, rfl,
              .inr (.inr ⟨v, ended, came, rfl⟩)⟩
      · rintro e w' ⟨events, call, ending, adds, called, ⟨⟩, ended⟩

/-- The handler ends with a result or with a report. An error in place of both is plain or comes out
    of its code, and so does what the result or the report raises later. -/
theorem ends_invoke [Interpreter] (h : Handler) (base context : Context) (payload : Bytes) :
    Ends (h.invoke base context payload) w fun r w' =>
      ∃ events call, w.Adds events w' ∧ Called events call ∧ match r with
        | .ok (.ok v) => ∀ e, v.LetsThrough e → h.Emits call e
        | .ok (.error report) => ∀ e, report.Emits e → h.Emits call e
        | .error e => e.IsPlain ∨ h.Emits call e := by
  refine (ends_run h base context payload).bind ?_ ?_
  · rintro ending w' ⟨events, call, _, adds, called, ⟨⟩, came⟩
    split
    · exact ⟨events, call, adds, called, came⟩
    · next x trace =>
      refine Ends.ofExcept_bind (fun report made => ?_) fun e failed => ?_
      · refine ⟨events, call, adds, called, fun e emits => ?_⟩
        rcases came with ⟨plain, sites, rfl⟩ | raised
        · exact absurd emits (plain.not_emits made)
        · exact .inl ⟨x, trace, raised, reveals_of_emits made emits⟩
      · refine ⟨events, call, adds, called, ?_⟩
        -- A plain error can be reported, so this one comes from the handler.
        rcases came with ⟨plain, sites, rfl⟩ | raised
        · obtain ⟨r, report⟩ := plain.ofFailure sites
          simp [report] at failed
        · exact (reveals_of_ofFailure failed).imp_right fun reveals =>
            .inl ⟨x, trace, raised, reveals⟩
  · rintro e w' ⟨events, call, ending, adds, called, ⟨⟩, came⟩

/-! ## A single invoke -/

/-- Deadline, client context and identity of an invoke are well formed. -/
structure Invoke.WellFormed (i : Invoke) : Prop where
  deadline : ∃ d, Deadline.parse (i.header Header.deadline) = .ok d
  clientContext : ∃ c, ClientContext.parse (i.header Header.clientContext) = .ok c
  identity : ∃ id, Identity.parse (i.header Header.identity) = .ok id

/-- The handler has crashed: the report of that was taken just now, and it was fatal. -/
def Crashed [Interpreter] (c : Client) (replies : Replies) (i : Invoke) (events : List Event)
    (e : Thrown) : Prop :=
  ∃ before request report, events = before ++ [.request request] ∧
    Posted replies (c.invocationUrl i.id "error") (.bytes report.payload) request .accepted ∧
    report.isFatal = true ∧ e = .handlerCrash report

/-- The error was raised outside: by the transport when the report was sent, or by the code of the
    handler. -/
def FromOutside [Interpreter] (c : Client) (h : Handler) (replies : Replies) (i : Invoke)
    (call : Option Event) (post : Option Request) (e : Thrown) : Prop :=
  h.Emits call e ∨
    ∃ request action body x, post = some request ∧
      Posted replies (c.invocationUrl i.id action) body request (.failure x) ∧ x.Brings e

/-- The two kinds of report. -/
def actions : List Text := ["response", "error"]

/-- What has happened while an invoke was processed, and how that has ended. -/
structure Handled [Interpreter] (c : Client) (h : Handler) (replies : Replies) (i : Invoke)
    (call : Option Event) (post : Option Request) (events : List Event)
    (ending : Except Thrown Unit) : Prop where
  /-- First the handler was called, then the invoke was reported, each once at most. -/
  order : events.filter Event.isLoud = call.toList ++ post.toList.map .request
  isCall : ∀ e ∈ call, e.isCall = true
  /-- There was no call for an invoke with malformed headers. -/
  wellFormed : call ≠ none → i.WellFormed
  /-- The report was one of this invoke, as a response or as an error; without an error it was
      taken. -/
  report : ∀ request ∈ post, ∃ action ∈ actions, ∃ body reply,
    Posted replies (c.invocationUrl i.id action) body request reply ∧
      (ending = .ok () → reply = .accepted)
  returned : ending = .ok () → post ≠ none
  /-- Errors are the worker's own, with one meaning a crash, or come from outside. -/
  failed : ∀ e, ending = .error e →
    e.IsPlain ∨ Crashed c replies i events e ∨ FromOutside c h replies i call post e

section Handled

variable {c : Client} {h : Handler} {i : Invoke} {action : Text} {body : Value}
  {w w₁ w₂ w₃ w' : Worker} {r : Except Thrown Unit} {events : List Event} {call : Option Event}

/-- Whoever was called before, with the request the invoke is reported. -/
theorem handled_sent [Interpreter] {replies : Replies} {request : Request} {reply : Reply}
    {more : List Event} (posted : Posted replies (c.invocationUrl i.id action) body request reply)
    (known : action ∈ actions) (called : Called events call)
    (wellFormed : call ≠ none → i.WellFormed) (quiet : ∀ e ∈ more, e.isLoud = false)
    (taken : r = .ok () → reply = .accepted)
    (failed : ∀ e, r = .error e → e.IsPlain ∨
      Crashed c replies i (events ++ .request request :: more) e ∨
      FromOutside c h replies i call (some request) e) :
    Handled c h replies i call (some request) (events ++ .request request :: more) r where
  order := by
    rw [List.filter_append, called.loud, List.filter_cons_of_pos rfl, filter_isLoud_of_quiet quiet]
    rfl
  isCall := called.isCall
  wellFormed
  report := by
    rintro _ ⟨⟩
    exact ⟨action, known, body, reply, posted, taken⟩
  returned _ := Option.some_ne_none request
  failed

theorem handled_unsent [Interpreter] {replies : Replies} {e : Thrown} (called : Called events call)
    (wellFormed : call ≠ none → i.WellFormed)
    (failed : e.IsPlain ∨ FromOutside c h replies i call none e) :
    Handled c h replies i call none events (.error e) where
  order := by simp [called.loud]
  isCall := called.isCall
  wellFormed
  report := by simp
  returned := nofun
  failed := by
    rintro _ ⟨⟩
    exact failed.imp_right .inr

/-- A report settles how the invoke ends, whatever is done quietly before and afterwards. -/
theorem Reported.handled [Interpreter] {Lets : Thrown → Prop}
    (reported : Reported Lets i action body w₂ r w₃) (lets : ∀ e, Lets e → h.Emits call e)
    (bound : i.client = some c) (known : action ∈ actions) (adds : w.Adds events w₁)
    (called : Called events call) (wellFormed : call ≠ none → i.WellFormed) (before : w₁.Quietly w₂)
    (after : w₃.Quietly w') :
    ∃ post events, w.Adds events w' ∧ Handled c h w.replies i call post events r := by
  obtain ⟨less, adds', quiet⟩ := before.adds
  obtain ⟨more, adds'', quiet'⟩ := after.adds
  replace adds := adds.trans adds'
  replace called := called.append_quiet quiet
  cases reported with
  | unsent came =>
    exact ⟨none, _, adds.trans adds'', handled_unsent (called.append_quiet quiet') wellFormed
      (came.imp_right fun came => .inl (lets _ came))⟩
  | @sent c' request reply _ bound' posted answered =>
    rw [bound] at bound'
    cases bound'
    rw [adds.replies] at posted
    refine ⟨some request, _, adds.trans ((Worker.adds_note w₂ _).trans adds''),
      handled_sent posted known called wellFormed quiet' ?_ ?_⟩
    · rintro rfl
      cases answered
      rfl
    · rintro e rfl
      cases answered with
      | refused other plain => exact .inl plain
      | failed came =>
        rcases came with plain | brings
        · exact .inl plain
        · exact .inr (.inr (.inr ⟨request, action, body, _, rfl, posted, brings⟩))

/-- An error that comes out of the code of the handler may take the place of the end. -/
theorem Handled.failing [Interpreter] {replies : Replies} {post : Option Request} {e : Thrown}
    (handled : Handled c h replies i call post events r) (emits : h.Emits call e) :
    Handled c h replies i call post events (.error e) where
  order := handled.order
  isCall := handled.isCall
  wellFormed := handled.wellFormed
  report request mem := by
    obtain ⟨action, known, body, reply, posted, -⟩ := handled.report request mem
    exact ⟨action, known, body, reply, posted, nofun⟩
  returned := nofun
  failed := by
    rintro _ ⟨⟩
    exact .inr (.inr (.inl emits))

/-- After the report of a fatal failure was taken, the worker stops. -/
theorem Reported.crashed [Interpreter] {Lets : Thrown → Prop} {report : Report}
    (reported : Reported Lets i "error" (.bytes report.payload) w₂ (.ok ()) w')
    (bound : i.client = some c) (adds : w.Adds events w₁) (called : Called events call)
    (wellFormed : call ≠ none → i.WellFormed) (before : w₁.Quietly w₂)
    (fatal : report.isFatal = true) :
    ∃ post events, w.Adds events w' ∧
      Handled c h w.replies i call post events (.error (.handlerCrash report)) := by
  obtain ⟨less, adds', quiet⟩ := before.adds
  replace adds := adds.trans adds'
  cases reported with
  | @sent c' request reply _ bound' posted answered =>
    rw [bound] at bound'
    cases bound'
    rw [adds.replies] at posted
    cases answered
    refine ⟨some request, _, adds.trans (Worker.adds_note w₂ _),
      handled_sent posted (by simp [actions]) (called.append_quiet quiet) wellFormed (by simp)
        nofun ?_⟩
    rintro _ ⟨⟩
    exact .inr (.inl ⟨_, request, report, rfl, posted, fatal, rfl⟩)

theorem ends_reportAndStop [Interpreter] (report : Report)
    (lets : ∀ e, report.Emits e → h.Emits call e) (bound : i.client = some c)
    (adds : w.Adds events w₁) (called : Called events call)
    (wellFormed : call ≠ none → i.WellFormed) :
    Ends (Run.reportAndStopIfFatal i report) w₁ fun r w' => ∃ post events,
      w.Adds events w' ∧ Handled c h w.replies i call post events r := by
  have known : ("error" : Text) ∈ actions := by simp [actions]
  refine (ends_reportFailure i report).bind ?_ ?_
  · rintro ⟨⟩ w' ⟨w₂, before, reported⟩
    split
    · next fatal => exact reported.crashed bound adds called wellFormed before fatal
    · exact reported.handled lets bound known adds called wellFormed before (.refl w')
  · rintro e w' ⟨w₂, before, reported⟩
    exact reported.handled lets bound known adds called wellFormed before (.refl w')

/-- A response is reported as one, unless it is no body. -/
theorem ends_execute [Interpreter] {context : Context} {options : HandlerOptions}
    (bound : i.client = some c) (adds : w.Adds [] w₁) (wellFormed : i.WellFormed) :
    Ends (Run.execute i context options) w₁ fun r w' => ∃ call post events,
      w.Adds events w' ∧ Handled c options.handler w.replies i call post events r := by
  refine (ends_invoke options.handler options.base context i.payload).bind ?_ ?_
  · rintro outcome w₂ ⟨events, call, adds', called, came⟩
    have adds := adds.trans adds'
    split
    · exact (ends_reportAndStop _ came bound adds called fun _ => wellFormed).mono
        fun _ _ h => ⟨call, h⟩
    · next response =>
      split
      · refine (ends_sendResponse i response).mono ?_
        rintro r w' ⟨body, w₃, w₄, s, before, reported, after, ended⟩
        obtain ⟨post, events, adds, handled⟩ := reported.handled came bound (by simp [actions]) adds
          called (fun _ => wellFormed) before after
        refine ⟨call, post, events, adds, ?_⟩
        rcases ended with rfl | ⟨e, rfl, lets⟩
        · exact handled
        · exact handled.failing (came e lets)
      · -- The error of a result that is no body is plain, and has a report.
        have plain : (Run.unsendable response).IsPlain := Thrown.isPlain_chosen _ _
        refine Ends.ofExcept_bind (fun report made => ?_) fun e failed => ?_
        · refine (ends_reportAndStop report ?_ bound adds called fun _ => wellFormed).mono
            fun _ _ h => ⟨call, h⟩
          rintro e ⟨f, mem, -⟩
          rw [plain.frames_ofError made] at mem
          exact absurd mem List.not_mem_nil
        · obtain ⟨report, made⟩ := plain.ofError []
          simp [made] at failed
  · rintro e w₂ ⟨events, call, adds', called, came⟩
    exact ⟨call, none, _, adds.trans adds',
      handled_unsent called (fun _ => wellFormed) (came.imp_right .inl)⟩

theorem wellFormed_of_ofInvoke {settings : Option FunctionSettings} {invocation : Invocation}
    (ok : Invocation.ofInvoke i settings = .ok invocation) : i.WellFormed := by
  rw [Invocation.ofInvoke] at ok
  split at ok
  · cases ok
  · next deadline parsed =>
    split at ok
    · cases ok
    · next clientContext parsed' =>
      split at ok
      · cases ok
      · next identity parsed'' =>
        exact ⟨⟨deadline, parsed⟩, ⟨clientContext, parsed'⟩, ⟨identity, parsed''⟩⟩

/-- Conversely, well-formed headers describe an invocation. -/
theorem Invoke.WellFormed.exists_ofInvoke (wellFormed : i.WellFormed)
    (settings : Option FunctionSettings) :
    ∃ invocation, Invocation.ofInvoke i settings = .ok invocation := by
  obtain ⟨⟨deadline, parsed⟩, ⟨client, parsed'⟩, ⟨identity, parsed''⟩⟩ := wellFormed
  rw [Invocation.ofInvoke, parsed, parsed', parsed'']
  exact ⟨_, rfl⟩

theorem trace_of_ofInvoke {settings : Option FunctionSettings} {invocation : Invocation}
    (made : Invocation.ofInvoke i settings = .ok invocation) :
    invocation.trace = i.header Header.trace := by
  rw [Invocation.ofInvoke] at made
  split at made
  · cases made
  · split at made
    · cases made
    · split at made
      · cases made
      · cases made
        rfl

/-- The handler is not called if no context can be built. -/
theorem ends_refuse [Interpreter] {e : Thrown} (plain : e.IsPlain) (bound : i.client = some c)
    (adds : w.Adds [] w₁) :
    Ends (if e.isIn .malformedInvoke then Run.reject i e else throw e) w₁ fun r w' =>
      ∃ call post events, w.Adds events w' ∧ Handled c h w.replies i call post events r := by
  have uncalled : Called [] none := called_none (by simp)
  split
  · refine (ends_reject i plain).mono ?_
    rintro r w' ⟨report, w₂, before, reported⟩
    exact ⟨none, reported.handled (fun _ => False.elim) bound (by simp [actions]) adds uncalled
      (absurd rfl) before (.refl w')⟩
  · exact ⟨none, none, [], adds, handled_unsent uncalled (absurd rfl) (.inl plain)⟩

/-- One invoke: at most one call, then at most one report, and an end in accordance with these. -/
theorem ends_handleInvoke [Interpreter] {options : HandlerOptions} (bound : i.client = some c) :
    Ends (Run.handleInvoke i options) w fun r w' => ∃ call post events,
      w.Adds events w' ∧ Handled c options.handler w.replies i call post events r := by
  have started : w.Adds [] (w.withCorrelation fun c => (c.setRequest i.id).resetTrace) :=
    ⟨(List.append_nil _).symm, rfl⟩
  refine Ends.modify_bind ((ends_build i options.base options.settings).outcome_bind ?_)
  rintro r w₁ ⟨built, outcome⟩
  have adds : w.Adds [] w₁ := started.trans built
  split at outcome
  · next e failed =>
    rw [outcome.1]
    exact ends_refuse (plainly_ofInvoke i _ e failed) bound adds
  · next invocation ok =>
    replace outcome := outcome.2
    split at outcome
    · next e refused =>
      rw [outcome]
      exact ends_refuse (isPlain_unpublishable refused) bound adds
    · obtain ⟨context, rfl, -⟩ := outcome
      refine (ends_execute bound adds (wellFormed_of_ofInvoke ok)).andFinally ?_
      rintro r w' ⟨call, post, events, adds, handled⟩
      exact ⟨call, post, events, ⟨adds.journal, adds.replies⟩, handled⟩

end Handled

/-! ## Whole runs -/

/-- A request for the next invoke. -/
structure Asks (c : Client) (get : Request) : Prop where
  method : get.method = "GET"
  url : ∃ u, Client.normalize c.nextUrl = .ok u ∧ get.url = u.toText

/-- The API has delivered an invoke. -/
def Delivers (c : Client) (delivery : Delivery) (i : Invoke) : Prop :=
  ∃ headers payload, delivery.answer = .delivered Client.deliveredStatus headers payload ∧
    i = ⟨headers.get Header.requestId, payload, headers, some c⟩

/-- An invoke is bound to the client it was delivered to. -/
theorem Delivers.client {c : Client} {delivery : Delivery} {i : Invoke}
    (delivers : Delivers c delivery i) : i.client = some c := by
  obtain ⟨headers, payload, -, rfl⟩ := delivers
  rfl

/-- The API has delivered no invoke: its status was another one, or the transport has failed. -/
def Withholds [Interpreter] (delivery : Delivery) (e : Thrown) : Prop :=
  (∃ status headers payload, delivery.answer = .delivered status headers payload ∧
    status ≠ Client.deliveredStatus ∧ e.IsPlain) ∨
  ∃ x, delivery.answer = .failure x ∧ (e.IsPlain ∨ x.Brings e)

/-- What happens in a run of the loop on what the API delivers, and the error it ends with. The next
    invoke is asked for only after the one before has been handled without an error. -/
inductive Conversation [Interpreter] (c : Client) (options : HandlerOptions) :
    List Delivery → List Event → Thrown → Prop
  /-- The address of the client makes no URL. -/
  | unasked {deliveries : List Delivery} {e : Thrown} :
    Client.normalize c.nextUrl = .error e → e.IsPlain → Conversation c options deliveries [] e
  /-- No invoke was delivered. -/
  | undelivered {delivery : Delivery} {rest : List Delivery} {get : Request} {e : Thrown} :
    Asks c get → Withholds delivery e →
    Conversation c options (delivery :: rest) [.request get] e
  /-- An invoke was delivered, and was the last one. -/
  | last {delivery : Delivery} {rest : List Delivery} {get : Request} {note : Event} {i : Invoke}
    {call : Option Event} {post : Option Request} {events : List Event} {e : Thrown} :
    Asks c get → Delivers c delivery i → note.isLoud = false →
    Handled c options.handler delivery.replies i call post events (.error e) →
    Conversation c options (delivery :: rest) (.request get :: note :: events) e
  /-- An invoke was delivered, and after a while the next one is asked for. -/
  | next {delivery : Delivery} {rest : List Delivery} {get : Request} {note : Event} {i : Invoke}
    {call : Option Event} {post : Option Request} {events pause more : List Event} {e : Thrown} :
    Asks c get → Delivers c delivery i → note.isLoud = false →
    Handled c options.handler delivery.replies i call post events (.ok ()) →
    (∀ e ∈ pause, e.isLoud = false) → Conversation c options rest more e →
    Conversation c options (delivery :: rest) (.request get :: note :: events ++ pause ++ more) e

section Loop

variable {c : Client} {options : HandlerOptions} {w : Worker}

/-- Either an invoke is delivered, or the conversation is over. -/
theorem ends_next [Interpreter] (options : HandlerOptions) (delivery : Delivery)
    (rest : List Delivery) : Ends (c.next delivery) w fun r w' => match r with
      | .ok i => ∃ get note, Asks c get ∧ Delivers c delivery i ∧ note.isLoud = false ∧
          w'.journal = w.journal ++ [.request get, note] ∧ w'.replies = delivery.replies
      | .error e => ∃ events, w'.journal = w.journal ++ events ∧
          Conversation c options (delivery :: rest) events e := by
  refine Ends.ofExcept_bind (fun u parsed => ?_) fun e failed =>
    ⟨[], (List.append_nil _).symm, .unasked failed (plainly_normalize _ e failed)⟩
  refine Ends.note_bind ?_
  have asks : Asks c ⟨"GET", u.toText, none, none, false, [], Client.userAgent, none⟩ :=
    ⟨rfl, u, parsed, rfl⟩
  split
  · next x failed =>
    exact ⟨_, rfl, .undelivered asks (.inr ⟨x, failed, brings_transportFailure _ x⟩)⟩
  · next status headers payload answered =>
    refine Ends.modify_bind ?_
    split
    · next other =>
      have plain := Thrown.isPlain_runtimeApi
      exact ⟨_, rfl,
        .undelivered asks (.inl ⟨status, headers, payload, answered, other, plain _ _⟩)⟩
    · next delivered =>
      rw [Decidable.not_not.1 delivered] at answered
      exact ⟨_, _, asks, ⟨headers, payload, answered, rfl⟩, rfl, List.append_assoc _ [_] [_], rfl⟩

theorem ends_waitForSignal (seconds : Double) :
    Ends (Run.waitForSignal seconds) w fun r w' => w.Quietly w' ∧ ∃ set, r = .ok set := by
  refine Ends.get_bind ?_
  dsimp only
  split
  · exact ⟨(Quietly.note w rfl).trans (.of_same rfl rfl rfl), _, rfl⟩
  · exact ⟨.refl w, _, rfl⟩

theorem ends_waitAfterInvoke (base : Context) :
    Ends (Run.waitAfterInvoke base) w fun r w' => w.Quietly w' ∧ r = .ok () := by
  refine Ends.get_bind ?_
  split
  · refine (ends_waitForSignal Run.postInvokeWait).bind ?_ ?_
    · rintro set w' ⟨quietly, -⟩
      cases set with
      | true => exact ⟨quietly, rfl⟩
      | false => exact ⟨quietly.trans (.log w' _), rfl⟩
    · rintro e w' ⟨-, _, ⟨⟩⟩
  · exact ⟨.refl w, rfl⟩

/-- Serving what was delivered is a conversation; it ends with the last delivery at the latest, when
    no more invokes are to be had. -/
theorem ends_serve [Interpreter] (deliveries : List Delivery) :
    Ends (Run.serve c options deliveries) w fun r w' => ∃ e events, r = .error e ∧
      w'.journal = w.journal ++ events ∧
      Conversation c options (deliveries ++ [.exhausted]) events e := by
  induction deliveries generalizing w with
  | nil =>
    refine (ends_next options .exhausted []).discard ?_ ?_
    · rintro i w₁ ⟨get, note, asks, ⟨headers, payload, ⟨⟩, -⟩, -⟩
    · rintro e w₁ ⟨events, journal, ended⟩
      exact ⟨e, events, rfl, journal, ended⟩
  | cons delivery rest ih =>
    refine (ends_next options delivery (rest ++ [.exhausted])).bind ?_ ?_
    · rintro i w₁ ⟨get, note, asks, delivers, quiet, journal, replies⟩
      refine (ends_handleInvoke delivers.client).bind ?_ ?_
      · rintro ⟨⟩ w₂ ⟨call, post, events, adds, handled⟩
        rw [replies] at handled
        refine (ends_waitAfterInvoke options.base).bind ?_ fun _ _ h => nomatch h.2
        rintro ⟨⟩ w₃ ⟨quietly, -⟩
        obtain ⟨pause, adds', quiet'⟩ := quietly.adds
        -- The rest is served as it is on its own, from a longer journal.
        refine ih.mono ?_
        rintro r w' ⟨e, more, rfl, journal', conversation⟩
        refine ⟨e, _, rfl, ?_, .next asks delivers quiet handled quiet' conversation⟩
        rw [journal', adds'.journal, adds.journal, journal]
        simp
      · rintro e w₂ ⟨call, post, events, adds, handled⟩
        rw [replies] at handled
        refine ⟨e, _, rfl, ?_, .last asks delivers quiet handled⟩
        rw [adds.journal, journal]
        simp
    · rintro e w₁ ⟨events, journal, ended⟩
      exact ⟨e, events, rfl, journal, ended⟩

/-- A run of the loop is a conversation with the API: for each invoke that is delivered the handler
    is called once at most, the invoke is reported once at most, and only after the report was taken
    is the next one asked for. The loop never returns. -/
theorem Run.loop_conversation [Interpreter] (c : Client) (api : Text) (options : HandlerOptions)
    (deliveries : List Delivery) (w : Worker) :
    Ends (Run.loop c api options deliveries) w fun r w' => ∃ e start events, r = .error e ∧
      start.isLoud = false ∧ w'.journal = w.journal ++ start :: events ∧
      Conversation c options (deliveries ++ [.exhausted]) events e := by
  refine Ends.log_bind (Ends.mono (ends_serve deliveries) ?_)
  rintro r w' ⟨e, events, rfl, journal, conversation⟩
  refine ⟨e, _, events, rfl, ?_, journal.trans (List.append_assoc _ [_] _), conversation⟩
  rfl

end Loop

end InvokeWorker
