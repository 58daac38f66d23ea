import InvokeWorker.Proofs.ContextHistory
import InvokeWorker.Handler.Basic

/-!
# Workers whose contexts cannot be told apart

Two workers may hold quite different scopes, with other numbers and of other ancestry, and yet show
the same to somebody who has a few contexts of each in hand: deadlines, cancellations, and which of
these contexts lies below which (`Twins`). Whoever does the same to both of them, with contexts that
correspond, still cannot tell them apart afterwards, and sees the same meanwhile.

What the scopes out of sight are like makes no difference, since a cancellation reaches only what
lies below, and of the timers that fire together it does not matter which one comes first
(`ScopeTree.reasonAt_fire_due`).
-/

namespace InvokeWorker

namespace ScopeTree

variable {tree : ScopeTree} {now : Int} {id k : Nat}

/-! ## Deadlines that have passed -/

/-- Whether the deadline of a scope has passed, noticed or not. -/
def isOverdue (tree : ScopeTree) (now : Int) (id : Nat) : Bool :=
  (tree.deadlineOf (some id)).any (·.millis ≤ now)

theorem isDue_of_get? {s : Scope} (found : tree.get? id = some s) (now : Int) :
    s.isDue now = tree.isOverdue now id := by
  rw [isOverdue, deadlineOf_of_getElem? found, Scope.isDue]
  cases s.deadline <;> rfl

theorem isOverdue_congr {other : ScopeTree} (same : skeleton tree.scopes = skeleton other.scopes)
    (now : Int) (id : Nat) : tree.isOverdue now id = other.isOverdue now id := by
  rw [isOverdue, isOverdue, deadlineOf_congr same]

theorem exists_of_isOverdue (overdue : tree.isOverdue now id = true) :
    ∃ s, tree.get? id = some s := by
  cases found : tree.get? id with
  | none => simp [isOverdue, deadlineOf, found] at overdue
  | some s => exact ⟨s, rfl⟩

/-- What lies below an overdue scope is overdue. -/
theorem InOrder.isOverdue_of_within (order : tree.InOrder) (overdue : tree.isOverdue now id = true)
    (within : Within tree.scopes id k) (inside : k < tree.scopes.length) :
    tree.isOverdue now k = true := by
  obtain ⟨s, found⟩ := exists_of_isOverdue overdue
  rw [isOverdue, deadlineOf_of_getElem? found, Option.any_eq_true] at overdue
  obtain ⟨d, deadline, passed⟩ := overdue
  have at_k := List.getElem?_eq_getElem inside
  obtain ⟨e, deadline', le⟩ := order.nested.deadline_le_of_within found deadline within at_k
  rw [isOverdue, deadlineOf_of_getElem? at_k, deadline', Option.any_some, decide_eq_true_eq]
  exact Int.le_trans le (of_decide_eq_true passed)

/-- A live scope that is overdue has a timer that is due. -/
theorem InOrder.timerDue_of_isOverdue (order : tree.InOrder)
    (overdue : tree.isOverdue now id = true) (live : reasonAt tree.scopes id = none) :
    tree.timerDue now id = true := by
  obtain ⟨s, found⟩ := exists_of_isOverdue overdue
  rw [reasonAt_of_getElem? found] at live
  have timed : s.deadline ≠ none := by
    intro none
    simp [isOverdue, deadlineOf_of_getElem? found, none] at overdue
  simp only [timerDue, found, isDue_of_get? found, overdue, Bool.and_true]
  exact (order.tidy.timer found).2 ⟨live, timed⟩

theorem isOverdue_of_timerDue (due : tree.timerDue now id = true) :
    tree.isOverdue now id = true := by
  rw [timerDue] at due
  split at due
  · exact absurd due Bool.false_ne_true
  · next s found =>
    rw [← isDue_of_get? found]
    exact (Bool.and_eq_true_iff.1 due).2

/-! ## Timers that fire together -/

/-- Timers cancel nothing but overdue scopes, and for no other reason. -/
theorem reasonAt_fire_cases (order : tree.InOrder) (now : Int) (ids : List Nat) (k : Nat) :
    reasonAt (tree.fire now ids).scopes k = reasonAt tree.scopes k ∨
      (reasonAt tree.scopes k = none ∧ tree.isOverdue now k = true ∧
        reasonAt (tree.fire now ids).scopes k = some .deadlineExceeded) := by
  induction ids generalizing tree with
  | nil => exact .inl rfl
  | cons id ids ih =>
    rw [fire, List.foldl_cons, ← fire]
    split
    · next due =>
      obtain ⟨s, found⟩ := exists_of_isOverdue (isOverdue_of_timerDue due)
      have inside : id < tree.scopes.length := (List.getElem?_eq_some_iff.1 found).1
      have same := skeleton_cancel tree id .deadlineExceeded
      have step : reasonAt (tree.cancel id .deadlineExceeded).scopes k = _ :=
        reasonAt_cancel order inside k
      -- If the cancellation has reached `k`, then `k` is overdue as well.
      by_cases reached : Within tree.scopes id k ∧ reasonAt tree.scopes k = none
      · obtain ⟨within, live⟩ := reached
        rw [if_pos within, live, Option.none_or] at step
        have overdue : tree.isOverdue now k = true := by
          obtain ⟨t, at_k, -⟩ := exists_of_reasonAt_ne_none (step ▸ Option.some_ne_none _)
          have before := (List.getElem?_eq_some_iff.1 at_k).1
          rw [length_eq_of_skeleton same] at before
          exact order.isOverdue_of_within (isOverdue_of_timerDue due) within before
        rcases ih (order.cancel id .deadlineExceeded) with eq | ⟨live', -⟩
        · exact .inr ⟨live, overdue, eq.trans step⟩
        · cases step.symm.trans live'
      · have untouched : reasonAt (tree.cancel id .deadlineExceeded).scopes k =
            reasonAt tree.scopes k := by
          rw [step]
          split
          · next within =>
            obtain ⟨reason, dead⟩ := Option.ne_none_iff_exists'.1 fun live => reached ⟨within, live⟩
            rw [dead, Option.some_or]
          · exact Option.or_none
        have later := ih (order.cancel id .deadlineExceeded)
        rwa [untouched, isOverdue_congr same] at later
    · exact ih order

/-- An overdue scope is cancelled if its turn comes. -/
theorem reasonAt_fire_ne_none {ids : List Nat} (order : tree.InOrder)
    (overdue : tree.isOverdue now k = true) (mem : k ∈ ids) :
    reasonAt (tree.fire now ids).scopes k ≠ none := by
  induction ids generalizing tree with
  | nil => exact absurd mem List.not_mem_nil
  | cons id ids ih =>
    have kept : ∀ {tree : ScopeTree}, tree.InOrder → reasonAt tree.scopes k ≠ none →
        reasonAt (tree.fire now ids).scopes k ≠ none := by
      intro tree order dead
      rcases reasonAt_fire_cases order now ids k with eq | ⟨live, -⟩
      · exact eq ▸ dead
      · exact absurd live dead
    rw [fire, List.foldl_cons, ← fire]
    by_cases at_id : id = k
    · subst at_id
      obtain ⟨s, found⟩ := exists_of_isOverdue overdue
      have inside : id < tree.scopes.length := (List.getElem?_eq_some_iff.1 found).1
      split
      · exact kept (order.cancel _ _)
          ((reasonAt_cancel_ne_none .deadlineExceeded order inside id).2 (.inr .self))
      · next idle =>
        exact kept order fun live => idle (order.timerDue_of_isOverdue overdue live)
    · have mem : k ∈ ids := (List.mem_cons.1 mem).resolve_left (Ne.symm at_id)
      split
      · refine ih (order.cancel _ _) ?_ mem
        rwa [isOverdue_congr (skeleton_cancel _ _ _)]
      · exact ih order overdue mem

theorem mem_due : k ∈ tree.due now ↔ k < tree.scopes.length ∧ tree.timerDue now k = true := by
  rw [due, List.mem_mergeSort, List.mem_filter, List.mem_range]

/-- When all timers fire that are due, the overdue scopes are cancelled that have not been before,
    and no others. -/
theorem reasonAt_fire_due (order : tree.InOrder) (now : Int) (k : Nat) :
    reasonAt (tree.fire now (tree.due now)).scopes k =
      (reasonAt tree.scopes k).or
        (if tree.isOverdue now k then some .deadlineExceeded else none) := by
  rcases reasonAt_fire_cases order now (tree.due now) k with eq | ⟨live, overdue, eq⟩
  · split
    · next overdue =>
      cases reason : reasonAt tree.scopes k with
      | some r => rw [eq, reason, Option.some_or]
      | none =>
        -- A live scope that is overdue would have had its turn.
        obtain ⟨s, found⟩ := exists_of_isOverdue overdue
        have inside : k < tree.scopes.length := (List.getElem?_eq_some_iff.1 found).1
        have mem := mem_due.2 ⟨inside, order.timerDue_of_isOverdue overdue reason⟩
        exact absurd (eq.trans reason) (reasonAt_fire_ne_none order overdue mem)
    · rw [eq, Option.or_none]
  · rw [eq, live, overdue]
    rfl

open Classical in
/-- A look at an overdue scope cancels what lies at or below it. -/
theorem reasonAt_refresh (order : tree.InOrder) (inside : id < tree.scopes.length) (now : Int)
    (k : Nat) :
    reasonAt (tree.refresh id now).scopes k =
      (reasonAt tree.scopes k).or
        (if tree.isOverdue now id = true ∧ Within tree.scopes id k then
          some .deadlineExceeded else none) := by
  have found : tree.get? id = some tree.scopes[id] := List.getElem?_eq_getElem inside
  simp only [refresh, found, isDue_of_get? found]
  by_cases overdue : tree.isOverdue now id = true
  · simp only [overdue, Bool.and_true, true_and]
    split
    · exact reasonAt_cancel order inside k
    · next dead =>
      split
      · next within =>
        have gone : reasonAt tree.scopes id ≠ none := by
          rw [reasonAt_of_getElem? found]
          exact fun live => dead (Scope.isLive_iff.2 live)
        obtain ⟨r, reason⟩ := Option.ne_none_iff_exists'.1
          (order.cascading.reasonAt_ne_none_of_within gone within)
        rw [reason, Option.some_or]
      · rw [Option.or_none]
  · simp [overdue]

/-- Who waits for the cancellation of a scope has been woken exactly if it is cancelled. -/
theorem InOrder.isSignalled_eq (order : tree.InOrder) (id : Nat) :
    tree.isSignalled id = (reasonAt tree.scopes id).isSome := by
  cases found : tree.get? id with
  | none =>
    rw [isSignalled, found, reasonAt, show tree.scopes[id]? = none from found]
    rfl
  | some s =>
    rw [isSignalled, found, reasonAt_of_getElem? found, Option.map_some, Option.getD_some,
      Bool.eq_iff_iff, order.tidy.signalled found, Option.isSome_iff_ne_none]

/-- What is above a scope was created before it. -/
theorem Nested.le_of_within {scopes : List Scope} (nested : Nested scopes) {a : Nat}
    (within : Within scopes a k) : a ≤ k := by
  induction within with
  | self => exact Nat.le_refl a
  | child found parent _ ih => exact Nat.le_trans ih (Nat.le_of_lt (nested.earlier found parent))

end ScopeTree

/-! ## Twins -/

open ScopeTree (Within reasonAt skeleton)

/-- Contexts of two workers that correspond, in pairs: nobody who holds those of the one or those of
    the other could tell which. -/
structure Twins (pairs : List (Context × Context)) (w w' : Worker) : Prop where
  valid : Scene.Valid ⟨w, pairs.map (·.1)⟩
  valid' : Scene.Valid ⟨w', pairs.map (·.2)⟩
  now : w'.now = w.now
  bindings : ∀ p ∈ pairs, p.2.bindings = p.1.bindings
  deadline : ∀ p ∈ pairs,
    w'.scopes.deadlineOf (some p.2.scope) = w.scopes.deadlineOf (some p.1.scope)
  reason : ∀ p ∈ pairs,
    reasonAt w'.scopes.scopes p.2.scope = reasonAt w.scopes.scopes p.1.scope
  within : ∀ p ∈ pairs, ∀ q ∈ pairs,
    Within w'.scopes.scopes p.2.scope q.2.scope ↔ Within w.scopes.scopes p.1.scope q.1.scope

namespace Twins

variable {pairs : List (Context × Context)} {w w' v v' : Worker} {p : Context × Context}

theorem inOrder (h : Twins pairs w w') : w.scopes.InOrder :=
  h.valid.inOrder

theorem inOrder' (h : Twins pairs w w') : w'.scopes.InOrder :=
  h.valid'.inOrder

theorem inside (h : Twins pairs w w') (mem : p ∈ pairs) :
    p.1.scope < w.scopes.scopes.length :=
  h.valid.inside _ (List.mem_map_of_mem mem)

theorem inside' (h : Twins pairs w w') (mem : p ∈ pairs) :
    p.2.scope < w'.scopes.scopes.length :=
  h.valid'.inside _ (List.mem_map_of_mem mem)

theorem isOverdue (h : Twins pairs w w') (mem : p ∈ pairs) (now : Int) :
    w'.scopes.isOverdue now p.2.scope = w.scopes.isOverdue now p.1.scope := by
  rw [ScopeTree.isOverdue, ScopeTree.isOverdue, h.deadline p mem]

/-- Only the scopes count, and the time. -/
theorem of_scopes (h : Twins pairs w w') (scopes : v.scopes = w.scopes)
    (scopes' : v'.scopes = w'.scopes) (now : v'.now = v.now) : Twins pairs v v' := by
  obtain ⟨valid, valid', -, bindings, deadline, reason, within⟩ := h
  refine ⟨valid.congr (scopes ▸ valid.inOrder) (by rw [scopes]),
    valid'.congr (scopes' ▸ valid'.inOrder) (by rw [scopes']), now, bindings, ?_, ?_, ?_⟩
  · rwa [scopes, scopes']
  · rwa [scopes, scopes']
  · rwa [scopes, scopes']

/-- Other contexts of the same scopes, if they carry the same. -/
theorem select {others : List (Context × Context)} (h : Twins pairs w w')
    (carried : ∀ q ∈ others, q.2.bindings = q.1.bindings)
    (among : ∀ q ∈ others, ∃ p ∈ pairs, p.1.scope = q.1.scope ∧ p.2.scope = q.2.scope) :
    Twins others w w' where
  valid := ⟨h.inOrder, fun c mem => by
    obtain ⟨q, mem_q, rfl⟩ := List.mem_map.1 mem
    obtain ⟨p, mem_p, same, -⟩ := among q mem_q
    exact same ▸ h.inside mem_p⟩
  valid' := ⟨h.inOrder', fun c mem => by
    obtain ⟨q, mem_q, rfl⟩ := List.mem_map.1 mem
    obtain ⟨p, mem_p, -, same⟩ := among q mem_q
    exact same ▸ h.inside' mem_p⟩
  now := h.now
  bindings := carried
  deadline q mem := by
    obtain ⟨p, mem, same, same'⟩ := among q mem
    exact same ▸ same' ▸ h.deadline p mem
  reason q mem := by
    obtain ⟨p, mem, same, same'⟩ := among q mem
    exact same ▸ same' ▸ h.reason p mem
  within q mem r mem_r := by
    obtain ⟨p, mem, same, same'⟩ := among q mem
    obtain ⟨s, mem_s, same_s, same_s'⟩ := among r mem_r
    exact same ▸ same' ▸ same_s ▸ same_s' ▸ h.within p mem s mem_s

/-- Where parents and deadlines stay as they are, only the reasons have to be seen. -/
theorem retain (h : Twins pairs w w') (order : v.scopes.InOrder) (order' : v'.scopes.InOrder)
    (same : skeleton v.scopes.scopes = skeleton w.scopes.scopes)
    (same' : skeleton v'.scopes.scopes = skeleton w'.scopes.scopes) (now : v'.now = v.now)
    (reason : ∀ p ∈ pairs,
      reasonAt v'.scopes.scopes p.2.scope = reasonAt v.scopes.scopes p.1.scope) :
    Twins pairs v v' where
  valid := h.valid.congr order same
  valid' := h.valid'.congr order' same'
  now := now
  bindings := h.bindings
  deadline p mem := by
    rw [ScopeTree.deadlineOf_congr same, ScopeTree.deadlineOf_congr same']
    exact h.deadline p mem
  reason := reason
  within p mem q mem_q := by
    have iff := h.within p mem q mem_q
    exact ⟨fun within => (iff.1 (within.congr same')).congr same.symm,
      fun within => (iff.2 (within.congr same)).congr same'.symm⟩

/-! ## Doing the same to both -/

theorem cancel (h : Twins pairs w w') (mem : p ∈ pairs) :
    Twins pairs (w.cancel p.1) (w'.cancel p.2) := by
  refine h.retain (h.inOrder.cancel _ _) (h.inOrder'.cancel _ _)
    (ScopeTree.skeleton_cancel _ _ _) (ScopeTree.skeleton_cancel _ _ _) h.now fun q mem_q => ?_
  rw [Worker.cancel, Worker.cancel, ScopeTree.reasonAt_cancel h.inOrder (h.inside mem),
    ScopeTree.reasonAt_cancel h.inOrder' (h.inside' mem), h.reason q mem_q]
  have iff := h.within p mem q mem_q
  by_cases below : Within w.scopes.scopes p.1.scope q.1.scope
  · rw [if_pos below, if_pos (iff.2 below)]
  · rw [if_neg below, if_neg (mt iff.1 below)]

theorem refresh (h : Twins pairs w w') (mem : p ∈ pairs) :
    Twins pairs (w.refresh p.1) (w'.refresh p.2) := by
  refine h.retain (h.inOrder.refresh _ _) (h.inOrder'.refresh _ _)
    (ScopeTree.skeleton_refresh _ _ _) (ScopeTree.skeleton_refresh _ _ _) h.now fun q mem_q => ?_
  rw [Worker.refresh, Worker.refresh, ScopeTree.reasonAt_refresh h.inOrder (h.inside mem),
    ScopeTree.reasonAt_refresh h.inOrder' (h.inside' mem), h.reason q mem_q, h.now,
    h.isOverdue mem]
  have iff := h.within p mem q mem_q
  by_cases below : Within w.scopes.scopes p.1.scope q.1.scope
  · simp only [below, iff.2 below]
  · simp only [below, mt iff.1 below]

theorem advance (h : Twins pairs w w') (ms : Int) (fire : Bool) :
    Twins pairs (w.advance ms fire) (w'.advance ms fire) := by
  cases fire with
  | false => exact h.of_scopes rfl rfl (congrArg (· + ms) h.now)
  | true =>
    refine h.retain (h.inOrder.fire _ _) (h.inOrder'.fire _ _)
      (ScopeTree.skeleton_fire _ _ _) (ScopeTree.skeleton_fire _ _ _) (congrArg (· + ms) h.now)
      fun q mem => ?_
    have fired := ScopeTree.reasonAt_fire_due h.inOrder (w.now + ms) q.1.scope
    have fired' := ScopeTree.reasonAt_fire_due h.inOrder' (w'.now + ms) q.2.scope
    rw [h.reason q mem, h.isOverdue mem] at fired'
    refine fired'.trans (Eq.trans ?_ fired.symm)
    rw [h.now]

end Twins

/-! ## Derived contexts -/

theorem scope_derive (w : Worker) (c : Context) (own : Instant) :
    (w.derive c own).2.scope = w.scopes.scopes.length :=
  rfl

section Derive

variable {w : Worker} {c : Context} {a k : Nat} (order : w.scopes.InOrder)
  (inside : c.scope < w.scopes.scopes.length) (own : Instant)

theorem skeleton_derive (inside : c.scope < w.scopes.scopes.length) :
    skeleton (w.derive c own).1.scopes.scopes = skeleton w.scopes.scopes ++
      [(some c.scope, ScopeTree.earlier (w.scopes.deadlineOf (some c.scope)) (some own))] :=
  ScopeTree.skeleton_create (ScopeTree.before_of_some inside)

include inside in
theorem deadlineOf_derive (k : Nat) :
    (w.derive c own).1.scopes.deadlineOf (some k) =
      if k = w.scopes.scopes.length then
        ScopeTree.earlier (w.scopes.deadlineOf (some c.scope)) (some own)
      else w.scopes.deadlineOf (some k) :=
  ScopeTree.deadlineOf_concat (skeleton_derive own inside) k

include order inside

/-- A derived context is cancelled if the one it is derived from is, or if its deadline has
    passed. -/
theorem reasonAt_derive (k : Nat) :
    reasonAt (w.derive c own).1.scopes.scopes k =
      if k = w.scopes.scopes.length then
        (reasonAt w.scopes.scopes c.scope).or
          (if (ScopeTree.earlier (w.scopes.deadlineOf (some c.scope)) (some own)).any
            (·.millis ≤ w.now) then some .deadlineExceeded else none)
      else reasonAt w.scopes.scopes k := by
  have before := ScopeTree.before_of_some inside
  have created : reasonAt (w.scopes.create (some c.scope) (some own) w.now).1.scopes k = _ :=
    ScopeTree.reasonAt_create order before k
  rw [Worker.derive, created, Option.bind_some, Scope.isDue, Scope.fresh]
  cases ScopeTree.earlier (w.scopes.deadlineOf (some c.scope)) (some own) <;> rfl

theorem within_derive_old (before : k < w.scopes.scopes.length) :
    Within (w.derive c own).1.scopes.scopes a k ↔ Within w.scopes.scopes a k :=
  ScopeTree.within_old (skeleton_derive own inside) order.nested before

/-- Above a derived context is the one it is derived from, and what is above that. -/
theorem within_derive_new :
    Within (w.derive c own).1.scopes.scopes a w.scopes.scopes.length ↔
      a = w.scopes.scopes.length ∨ Within w.scopes.scopes a c.scope := by
  rw [ScopeTree.within_new (skeleton_derive own inside) order.nested
    (ScopeTree.before_of_some inside)]
  simp

end Derive

namespace Twins

variable {pairs : List (Context × Context)} {w w' : Worker} {p q : Context × Context}

/-- Contexts derived from twins with the same deadline are twins. -/
theorem derive (h : Twins pairs w w') (mem : p ∈ pairs) (own : Instant) :
    Twins (pairs ++ [((w.derive p.1 own).2, (w'.derive p.2 own).2)]) (w.derive p.1 own).1
      (w'.derive p.2 own).1 := by
  have inside := h.inside mem
  have inside' := h.inside' mem
  have old : ∀ {q}, q ∈ pairs → q.1.scope ≠ w.scopes.scopes.length := fun mem_q =>
    Nat.ne_of_lt (h.inside mem_q)
  have old' : ∀ {q}, q ∈ pairs → q.2.scope ≠ w'.scopes.scopes.length := fun mem_q =>
    Nat.ne_of_lt (h.inside' mem_q)
  refine ⟨?_, ?_, h.now, fun q mem_q => ?_, fun q mem_q => ?_, fun q mem_q => ?_,
    fun q mem_q r mem_r => ?_⟩
  · rw [List.map_append]
    exact h.valid.create (some own) p.1.bindings (ScopeTree.before_of_some inside)
  · rw [List.map_append]
    exact h.valid'.create (some own) p.2.bindings (ScopeTree.before_of_some inside')
  · rcases List.mem_append.1 mem_q with mem_q | new
    · exact h.bindings q mem_q
    · rw [List.mem_singleton.1 new]
      exact h.bindings p mem
  · rw [deadlineOf_derive inside, deadlineOf_derive inside']
    rcases List.mem_append.1 mem_q with mem_q | new
    · rw [if_neg (old mem_q), if_neg (old' mem_q), h.deadline q mem_q]
    · rw [List.mem_singleton.1 new, if_pos (scope_derive w' p.2 own),
        if_pos (scope_derive w p.1 own), h.deadline p mem]
  · rw [reasonAt_derive h.inOrder inside, reasonAt_derive h.inOrder' inside']
    rcases List.mem_append.1 mem_q with mem_q | new
    · rw [if_neg (old mem_q), if_neg (old' mem_q), h.reason q mem_q]
    · rw [List.mem_singleton.1 new, if_pos (scope_derive w' p.2 own),
        if_pos (scope_derive w p.1 own), h.reason p mem, h.deadline p mem, h.now]
  · -- Above an old context nothing is new; above a new one is what is above its origin.
    rcases List.mem_append.1 mem_r with mem_r | new_r
    · rw [within_derive_old h.inOrder inside own (h.inside mem_r),
        within_derive_old h.inOrder' inside' own (h.inside' mem_r)]
      rcases List.mem_append.1 mem_q with mem_q | new
      · exact h.within q mem_q r mem_r
      · rw [List.mem_singleton.1 new]
        refine iff_of_false (fun within => ?_) fun within => ?_
        · exact Nat.not_lt.2 (h.inOrder'.nested.le_of_within within) (h.inside' mem_r)
        · exact Nat.not_lt.2 (h.inOrder.nested.le_of_within within) (h.inside mem_r)
    · rw [List.mem_singleton.1 new_r]
      refine (within_derive_new h.inOrder' inside' own).trans
        (Iff.trans ?_ (within_derive_new h.inOrder inside own).symm)
      rcases List.mem_append.1 mem_q with mem_q | new
      · exact or_congr (iff_of_false (old' mem_q) (old mem_q)) (h.within q mem_q p mem)
      · rw [List.mem_singleton.1 new]
        exact iff_of_true (.inl rfl) (.inl rfl)

/-- Whoever looks at twins sees the same. -/
theorem standing (h : Twins pairs w w') (mem : p ∈ pairs) :
    (w'.standing p.2).2 = (w.standing p.1).2 := by
  have seen := h.refresh mem
  have reason := seen.reason p mem
  have deadline := seen.deadline p mem
  have signalled : (w'.refresh p.2).scopes.isSignalled p.2.scope =
      (w.refresh p.1).scopes.isSignalled p.1.scope := by
    rw [seen.inOrder.isSignalled_eq, seen.inOrder'.isSignalled_eq, reason]
  simp only [Worker.standing, Worker.standingNow, deadline, signalled, Standing.mk.injEq, true_and]
  exact reason

end Twins

end InvokeWorker
