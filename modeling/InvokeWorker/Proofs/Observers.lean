import InvokeWorker.Proofs.Reasons

/-!
# Looking and waiting

There are three ways to learn of the cancellation of a context: to ask whether it is cancelled, to
ask why, and to wait for it. Who asks looks at the clock before, so a deadline that has passed is
noticed in any case. Who waits does not: what ends the wait is the cancellation itself, which may be
due to a timer, and timers can be late.

* `Scene.observers_after`: the two who ask always learn the same, and never take a context to be
  live after its deadline. Who waits learns the same as they do, unless the timer of the context is
  late, and until somebody has looked.
* `Scene.not_forall_waits`: so a wait can go on after the deadline.
-/

namespace InvokeWorker

open ScopeTree (Within reasonAt)

namespace Scene

/-- Whether somebody is woken who waits for the cancellation of a context for as long as it takes
    that some actions happen. -/
def awaits (s : Scene) (c : Context) : List Action → Bool
  | [] => s.worker.waits c
  | a :: rest => s.worker.waits c || (s.act a).awaits c rest

variable {s : Scene} {c : Context}

/-! ## What is told to whom -/

/-- Who waits is woken once there is a reason. -/
theorem Valid.waits_eq (valid : s.Valid) (c : Context) :
    s.worker.waits c = (reasonAt s.worker.scopes.scopes c.scope).isSome :=
  valid.inOrder.isSignalled_eq c.scope

/-- A look leaves the scene valid. -/
theorem Valid.refresh (valid : s.Valid) (c : Context) : Valid ⟨s.worker.refresh c, s.contexts⟩ :=
  valid.congr (valid.inOrder.refresh _ _) (ScopeTree.skeleton_refresh _ _ _)

/-- The reason that somebody sees who looks: the one there is or else the deadline, if that has
    passed. -/
theorem Valid.reason_standing (valid : s.Valid) (c : Context) :
    (s.worker.standing c).2.reason = (reasonAt s.worker.scopes.scopes c.scope).or
      (if s.worker.scopes.isOverdue s.worker.now c.scope then some .deadlineExceeded
        else none) := by
  have looked := ScopeTree.reasonAt_look valid.inOrder s.worker.now c.scope c.scope
  simp only [Within.self, and_true] at looked
  exact looked

/-- After a look the context is cancelled exactly if there is a reason. -/
theorem Valid.cancelled_standing (valid : s.Valid) (c : Context) :
    (s.worker.standing c).2.cancelled = (s.worker.standing c).2.reason.isSome :=
  (valid.refresh c).inOrder.isSignalled_eq c.scope

theorem Valid.seen_eq (valid : s.Valid) (c : Context) :
    (s.worker.standing c).2.cancelled =
      (s.worker.waits c || s.worker.scopes.isOverdue s.worker.now c.scope) := by
  rw [valid.cancelled_standing, valid.reason_standing, valid.waits_eq]
  cases reasonAt s.worker.scopes.scopes c.scope <;>
    cases s.worker.scopes.isOverdue s.worker.now c.scope <;> rfl

/-- Somebody who looks at an overdue context wakes those who wait for what lies below. -/
theorem Valid.waits_standing (valid : s.Valid) (c d : Context) :
    (s.worker.standing c).1.waits d = true ↔ s.worker.waits d = true ∨
      (s.worker.scopes.isOverdue s.worker.now c.scope = true ∧
        Within s.worker.scopes.scopes c.scope d.scope) := by
  have looked := ScopeTree.reasonAt_look valid.inOrder s.worker.now c.scope d.scope
  have waits : (s.worker.standing c).1.waits d =
      (reasonAt (s.worker.scopes.refresh c.scope s.worker.now).scopes d.scope).isSome :=
    (valid.refresh c).waits_eq d
  rw [waits, looked, valid.waits_eq, Option.isSome_or, Bool.or_eq_true]
  split
  · next reached => simp [reached]
  · next missed => simp [missed]

/-- A timer that is due belongs to a live scope. -/
theorem Valid.waits_of_timerDue (valid : s.Valid)
    (due : s.worker.scopes.timerDue s.worker.now c.scope = true) : s.worker.waits c = false := by
  rw [ScopeTree.timerDue] at due
  split at due
  · cases due
  · next scope found =>
    have running := (Bool.and_eq_true_iff.1 due).1
    have live := ((valid.inOrder.tidy.timer found).1 running).1
    rw [valid.waits_eq, ScopeTree.reasonAt_of_getElem? found, live]
    rfl

/-- Who asks and who waits are told different things exactly if the timer is late. -/
theorem Valid.late_iff (valid : s.Valid) (c : Context) :
    ((s.worker.standing c).2.cancelled = true ∧ s.worker.waits c = false) ↔
      s.worker.scopes.timerDue s.worker.now c.scope = true := by
  rw [valid.seen_eq]
  constructor
  · rintro ⟨seen, asleep⟩
    -- A live scope whose deadline has passed still has its timer.
    rw [asleep, Bool.false_or] at seen
    rw [valid.waits_eq, Option.isSome_eq_false_iff, Option.isNone_iff_eq_none] at asleep
    exact valid.inOrder.timerDue_of_isOverdue seen asleep
  · intro due
    have asleep := valid.waits_of_timerDue due
    exact ⟨by rw [ScopeTree.isOverdue_of_timerDue due, Bool.or_true], asleep⟩

/-! ## A wait that lasts -/

/-- Nobody is put to sleep again. -/
theorem Valid.waits_act (valid : s.Valid) (a : Action) (awake : s.worker.waits c = true) :
    (s.act a).worker.waits c = true := by
  rw [valid.waits_eq] at awake
  obtain ⟨r, reason⟩ := Option.isSome_iff_exists.1 awake
  rw [(valid.act a).waits_eq, valid.reasonAt_act a reason]
  rfl

theorem Valid.waits_after (valid : s.Valid) (actions : List Action)
    (awake : s.worker.waits c = true) : (s.after actions).worker.waits c = true := by
  induction actions generalizing s with
  | nil => exact awake
  | cons a actions ih => exact ih (valid.act a) (valid.waits_act a awake)

/-- Whether a wait succeeds is seen at its end. -/
theorem Valid.awaits_eq (valid : s.Valid) (c : Context) (meanwhile : List Action) :
    s.awaits c meanwhile = (s.after meanwhile).worker.waits c := by
  induction meanwhile generalizing s with
  | nil => rfl
  | cons a rest ih =>
    rw [awaits, ih (valid.act a)]
    cases awake : s.worker.waits c with
    | false => rw [Bool.false_or]; rfl
    | true =>
      rw [Bool.true_or]
      exact (valid.waits_after (a :: rest) awake).symm

/-- The timer of an overdue context wakes those who wait. -/
theorem Valid.awaits_pass (valid : s.Valid) {millis : Int} {fired : List Nat}
    (fires : c.scope ∈ fired)
    (overdue : s.worker.scopes.isOverdue (s.worker.now + millis) c.scope = true) :
    s.awaits c [.pass millis fired] = true := by
  have cancelled := ScopeTree.reasonAt_fire_ne_none valid.inOrder overdue fires
  rw [valid.awaits_eq, (valid.after _).waits_eq]
  exact Option.isSome_iff_ne_none.2 cancelled

end Scene

/-! ## All scenes -/

/-- What those are told who look at the contexts of a scene, and those who wait. -/
structure Observers (s : Scene) : Prop where
  /-- Who asks whether a context is cancelled and who asks why are told the same. -/
  agree : ∀ c ∈ s.contexts,
    (s.worker.standing c).2.cancelled = true ↔ (s.worker.standing c).2.reason ≠ none
  /-- They are told of what wakes those who wait, and of a deadline that has passed. -/
  seen : ∀ c ∈ s.contexts, (s.worker.standing c).2.cancelled =
    (s.worker.waits c || s.worker.scopes.isOverdue s.worker.now c.scope)
  /-- Who waits is told less if, and only if, the timer of the context is late. -/
  late : ∀ c ∈ s.contexts, ((s.worker.standing c).2.cancelled = true ∧ s.worker.waits c = false) ↔
    s.worker.scopes.timerDue s.worker.now c.scope = true
  /-- A look at a context, if its deadline has passed, wakes those who wait for it or for a context
      below it, and nobody else. -/
  looked : ∀ c ∈ s.contexts, ∀ d ∈ s.contexts, (s.worker.standing c).1.waits d = true ↔
    s.worker.waits d = true ∨ (s.worker.scopes.isOverdue s.worker.now c.scope = true ∧
      Within s.worker.scopes.scopes c.scope d.scope)
  /-- Whatever happens during a wait, it ends as one that begins at its end. -/
  lasting : ∀ c ∈ s.contexts, ∀ meanwhile,
    s.awaits c meanwhile = (s.after meanwhile).worker.waits c
  /-- If the timer fires after the deadline, those who wait are woken. -/
  timed : ∀ c ∈ s.contexts, ∀ millis fired, c.scope ∈ fired →
    s.worker.scopes.isOverdue (s.worker.now + millis) c.scope = true →
    s.awaits c [.pass millis fired] = true

namespace Scene

theorem Valid.observers {s : Scene} (valid : s.Valid) : Observers s where
  agree c _ := by rw [valid.cancelled_standing, Option.isSome_iff_ne_none]
  seen c _ := valid.seen_eq c
  late c _ := valid.late_iff c
  looked c _ d _ := valid.waits_standing c d
  lasting c _ := valid.awaits_eq c
  timed _ _ _ _ fires overdue := valid.awaits_pass fires overdue

/-- Whatever has been done with contexts, and however the clock was moved: to ask whether a context
    is cancelled and to ask why is the same, and both tell of every deadline that has passed. A wait
    tells of a cancellation as well, except while the timer of the context is late and nobody has
    looked. -/
theorem observers_after (now : Int) (directory : Option Text) (actions : List Action) :
    Observers ((start now directory).after actions) :=
  ((valid_start now directory).after actions).observers

/-- Nobody is woken by a deadline whose timer is late, though who looks sees the context
    cancelled. -/
theorem not_forall_waits :
    ¬ ∀ (now : Int) (directory : Option Text) (actions : List Action),
      ∀ c ∈ ((start now directory).after actions).contexts,
        (((start now directory).after actions).worker.standing c).2.cancelled = true →
          ((start now directory).after actions).worker.waits c = true := by
  intro all
  let actions : List Action := [.root, .withDeadline 0 ⟨5⟩, .pass 6 []]
  let late := (start 0 none).after actions
  have derived : late.contexts[1]? = some ⟨1, []⟩ := rfl
  have seen : (late.worker.standing ⟨1, []⟩).2.cancelled = true :=
    (((valid_start 0 none).after actions).seen_eq ⟨1, []⟩).trans rfl
  have asleep : late.worker.waits ⟨1, []⟩ = false := rfl
  have awake := all 0 none actions _ (List.mem_of_getElem? derived) seen
  cases asleep.symm.trans awake

end Scene

end InvokeWorker
