import InvokeWorker.Worker.Basic

/-!
# What a computation ends with

A computation of the worker always ends, with a result or with an error, and in some state.
`Run.Ends run w Q` says that it does so in accordance with `Q` if it starts in the state `w`.

For each way to put computations together there is a rule: `Ends.bind` says what follows of two
computations in sequence from what is known of each, `Ends.andFinally` and `Ends.replacing` do so
for the two ways to deal with errors.
-/

namespace InvokeWorker.Run

variable {α β : Type}

/-- Started in `w`, the computation ends with an outcome and in a state as `Q` says. -/
def Ends (run : Run α) (w : Worker) (Q : Except Thrown α → Worker → Prop) : Prop :=
  match run w with
  | .ok a w' => Q (.ok a) w'
  | .error e w' => Q (.error e) w'

/-- A computation that has ended in a state. -/
def ended (r : Except Thrown α) (w : Worker) : EStateM.Result Thrown Worker α :=
  match r with
  | .ok a => .ok a w
  | .error e => .error e w

variable {run : Run α} {f : α → Run β} {w : Worker} {P Q : Except Thrown α → Worker → Prop}
  {R : Except Thrown β → Worker → Prop}

/-! ## Steps of a known end -/

theorem bind_of_ok {a : α} {w' : Worker} (h : run w = .ok a w') : (run >>= f) w = f a w' := by
  have unfolded : (run >>= f) w = EStateM.bind run f w := rfl
  rw [unfolded, EStateM.bind, h]

theorem bind_of_error {e : Thrown} {w' : Worker} (h : run w = .error e w') :
    (run >>= f) w = .error e w' := by
  have unfolded : (run >>= f) w = EStateM.bind run f w := rfl
  rw [unfolded, EStateM.bind, h]

theorem ended_inj {r r' : Except Thrown α} {w w' : Worker} (same : ended r w = ended r' w') :
    r = r' ∧ w = w' := by
  cases r <;> cases r' <;> cases same <;> exact ⟨rfl, rfl⟩

theorem outcome_of_ended {r : Except Thrown α} {w' : Worker} (h : run w = ended r w') :
    run.outcome w = .ok r w' := by
  have unfolded : run.outcome w = EStateM.tryCatch (EStateM.map Except.ok run)
      (fun e => EStateM.pure (.error e)) w := rfl
  rw [unfolded]
  delta EStateM.tryCatch EStateM.map
  dsimp only
  rw [h]
  cases r <;> rfl

/-! ## Rules -/

/-- All that can be said of an end: it is the one that the computation comes to. -/
theorem Ends.self (run : Run α) (w : Worker) : run.Ends w fun r w' => run w = ended r w' := by
  rw [Ends]
  split
  · next eq => exact eq
  · next eq => exact eq

/-- What is known of an end is known of the one that the computation comes to. -/
theorem Ends.exists_ended (h : run.Ends w P) : ∃ r w', run w = ended r w' ∧ P r w' := by
  rw [Ends] at h
  split at h
  · next a w' eq => exact ⟨.ok a, w', eq, h⟩
  · next e w' eq => exact ⟨.error e, w', eq, h⟩

/-- A result that is certain. -/
theorem Ends.exists_ok {a : α} {P : Worker → Prop}
    (h : run.Ends w fun r w' => r = .ok a ∧ P w') : ∃ w', run w = .ok a w' ∧ P w' := by
  obtain ⟨_, w', eq, rfl, h⟩ := h.exists_ended
  exact ⟨w', eq, h⟩

theorem Ends.mono (h : run.Ends w P) (weaker : ∀ r w', P r w' → Q r w') : run.Ends w Q := by
  rw [Ends] at h ⊢
  split
  · next a w' eq =>
    rw [eq] at h
    exact weaker _ _ h
  · next e w' eq =>
    rw [eq] at h
    exact weaker _ _ h

/-- Two things that are known of an end. -/
theorem Ends.and (h : run.Ends w P) (h' : run.Ends w Q) :
    run.Ends w fun r w' => P r w' ∧ Q r w' := by
  rw [Ends] at h h' ⊢
  cases eq : run w <;> rw [eq] at h h' <;> exact ⟨h, h'⟩

/-- Two computations in sequence: the second one starts where the first one has ended, unless that
    has failed. -/
theorem Ends.bind (h : run.Ends w P) (ok : ∀ a w', P (.ok a) w' → (f a).Ends w' R)
    (error : ∀ e w', P (.error e) w' → R (.error e) w') : (run >>= f).Ends w R := by
  rw [Ends] at h ⊢
  cases eq : run w with
  | ok a w' =>
    rw [eq] at h
    rw [bind_of_ok eq]
    exact ok a w' h
  | error e w' =>
    rw [eq] at h
    rw [bind_of_error eq]
    exact error e w' h

/-- A result that is of no interest. -/
theorem Ends.discard {Q : Except Thrown Unit → Worker → Prop} (h : run.Ends w P)
    (ok : ∀ a w', P (.ok a) w' → Q (.ok ()) w')
    (error : ∀ e w', P (.error e) w' → Q (.error e) w') : Ends (discard run) w Q := by
  rw [Ends] at h
  have unfolded : (Functor.discard run : Run Unit) w = EStateM.map (fun _ => ()) run w := rfl
  rw [Ends, unfolded, EStateM.map]
  cases eq : run w with
  | ok a w' =>
    rw [eq] at h
    exact ok a w' h
  | error e w' =>
    rw [eq] at h
    exact error e w' h

/-- After an outcome that was caught things go on, be it an error. -/
theorem Ends.outcome_bind {g : Except Thrown α → Run β} (h : run.Ends w P)
    (next : ∀ r w', P r w' → (g r).Ends w' R) : (run.outcome >>= g).Ends w R := by
  rw [Ends] at h
  cases eq : run w with
  | ok a w' =>
    rw [eq] at h
    rw [Ends, bind_of_ok (outcome_of_ended (r := .ok a) eq)]
    exact next _ _ h
  | error e w' =>
    rw [eq] at h
    rw [Ends, bind_of_ok (outcome_of_ended (r := .error e) eq)]
    exact next _ _ h

/-- What is done in the end is done after a failure, too; if it fails itself, its error counts. -/
theorem Ends.andFinally {after : Run Unit} (h : run.Ends w P)
    (done : ∀ r w', P r w' → after.Ends w' fun s w'' => match s with
      | .ok () => Q r w''
      | .error e => Q (.error e) w'') : (run.andFinally after).Ends w Q := by
  refine h.outcome_bind fun r w' reached => ?_
  cases r with
  | ok a => exact (done _ _ reached).bind (fun _ _ h => h) (fun _ _ h => h)
  | error e => exact (done _ _ reached).bind (fun _ _ h => h) (fun _ _ h => h)

/-- Only ordinary errors are replaced. -/
theorem Ends.replacing {g : Thrown → Run Thrown} (h : run.Ends w P)
    (ok : ∀ a w', P (.ok a) w' → Q (.ok a) w')
    (error : ∀ e w', P (.error e) w' → if e.isOrdinary
      then (g e).Ends w' fun s w'' => match s with
        | .ok e' => Q (.error e') w''
        | .error e' => Q (.error e') w''
      else Q (.error e) w') : (run.replacing g).Ends w Q := by
  refine h.outcome_bind fun r w' reached => ?_
  cases r with
  | ok a => exact ok a w' reached
  | error e =>
    have reached := error e w' reached
    dsimp only
    split at reached
    · next ordinary =>
      rw [if_pos ordinary]
      exact reached.bind (fun _ _ h => h) (fun _ _ h => h)
    · next extraordinary =>
      rw [if_neg extraordinary]
      exact reached

/-! ## First steps

What a computation begins with can be done at once. -/

theorem Ends.modify_bind {g : Worker → Worker} {f : Unit → Run β} (h : (f ()).Ends (g w) R) :
    (modify g >>= f).Ends w R :=
  h

theorem Ends.note_bind {e : Event} {f : Unit → Run β} (h : (f ()).Ends (w.note e) R) :
    (note e >>= f).Ends w R :=
  h

theorem Ends.log_bind {entry : LogEntry} {f : Unit → Run β} (h : (f ()).Ends (w.log entry) R) :
    (log entry >>= f).Ends w R :=
  h

theorem Ends.get_bind {f : Worker → Run β} (h : (f w).Ends w R) : (get >>= f).Ends w R :=
  h

theorem Ends.act_bind {g : Worker → Worker × α} (h : (f (g w).2).Ends (g w).1 R) :
    (act g >>= f).Ends w R :=
  h

theorem Ends.ofExcept_bind {r : Except Thrown α} (ok : ∀ a, r = .ok a → (f a).Ends w R)
    (error : ∀ e, r = .error e → R (.error e) w) : (ofExcept r >>= f).Ends w R := by
  cases r with
  | ok a => exact ok a rfl
  | error e => exact error e rfl

end InvokeWorker.Run
