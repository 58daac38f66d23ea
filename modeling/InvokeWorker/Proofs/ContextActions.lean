import InvokeWorker.Proofs.ScopeOrder
import InvokeWorker.Worker.Basic

/-!
# What can be done with contexts

Whoever holds contexts can make roots, derive other contexts, cancel them and look at them, while
the clock moves and timers fire, on time, late or never. An `Action` is one such operation; a
`Scene` is a worker together with the contexts made so far, known by the order in which they were
made.

In every scene that actions lead to the scopes are *tidy* (`Scene.scopes_tidy_after`): a scope is
signalled exactly when it is cancelled, a timer runs exactly for a live scope with a deadline,
whatever lies below a cancelled scope is cancelled, and the children of a scope are the live ones
created directly below it. So a cancelled scope is on nobody's list and leaves no timer running.
-/

namespace InvokeWorker

/-! ## Tidy scopes -/

namespace ScopeTree

/-- Events, timers and lists of children follow from who is cancelled, and who has a deadline. -/
structure Tidy (tree : ScopeTree) : Prop where
  /-- A scope is signalled exactly when it is cancelled. -/
  signalled : ∀ {k : Nat} {s : Scope}, tree.get? k = some s →
    (s.signalled = true ↔ s.reason ≠ none)
  /-- A timer runs exactly for a live scope with a deadline. -/
  timer : ∀ {k : Nat} {s : Scope}, tree.get? k = some s →
    (s.timer = true ↔ s.reason = none ∧ s.deadline ≠ none)
  /-- A cancelled scope has no children, and what lies below it is cancelled. -/
  of_cancelled : ∀ {k : Nat} {s : Scope}, tree.get? k = some s → s.reason ≠ none →
    s.children = [] ∧ ∀ {c : Nat} {t : Scope}, tree.get? c = some t → Within tree.scopes k c →
      t.reason ≠ none
  /-- The children of a live scope are the live scopes that have it as their parent. -/
  of_live : ∀ {k : Nat} {s : Scope}, tree.get? k = some s → s.reason = none →
    s.children.Nodup ∧ ∀ c, c ∈ s.children ↔
      ∃ t, tree.get? c = some t ∧ t.parent = some k ∧ t.reason = none
  /-- A cancelled scope is attached to no other, and its timer does not run. -/
  released : ∀ {k : Nat} {s : Scope}, tree.get? k = some s → s.reason ≠ none →
    s.timer = false ∧ ∀ {p : Nat} {t : Scope}, tree.get? p = some t → k ∉ t.children

theorem InOrder.tidy {tree : ScopeTree} (h : tree.InOrder) : tree.Tidy where
  signalled found := h.cascading.signalled found
  timer found := by
    refine ⟨h.cascading.of_timer found, fun ⟨live, deadline⟩ => ?_⟩
    exact (h.cascading.timer found live deadline).resolve_right List.not_mem_nil
  of_cancelled {k s} found dead := by
    refine ⟨h.cascading.emptied found dead, fun {c t} at_c within => ?_⟩
    rw [← reasonAt_of_getElem? at_c]
    exact h.cascading.reasonAt_ne_none_of_within (reasonAt_of_getElem? found ▸ dead) within
  of_live found live := ⟨h.cascading.nodup found, h.cascading.attached found live⟩
  released {k s} found dead := by
    refine ⟨Bool.eq_false_iff.2 fun running => dead (h.cascading.of_timer found running).1,
      fun {p t} at_p mem => ?_⟩
    -- The children of a live scope are live, and a cancelled one has none.
    cases why : t.reason with
    | none =>
      obtain ⟨u, at_k, -, live⟩ := (h.cascading.attached at_p why k).1 mem
      obtain rfl : s = u := Option.some.inj (found.symm.trans at_k)
      exact dead live
    | some reason =>
      rw [h.cascading.emptied at_p (why ▸ Option.some_ne_none reason)] at mem
      exact List.not_mem_nil mem

end ScopeTree

/-! ## Actions -/

/-- An operation on contexts, or something that happens to them. -/
inductive Action where
  /-- A new root. -/
  | root
  /-- A context that carries one more value than another. -/
  | withValue (context : Nat) (key value : Value)
  /-- A context below another, with a deadline. -/
  | withDeadline (context : Nat) (deadline : Instant)
  /-- A context is cancelled. -/
  | cancel (context : Nat)
  /-- Somebody reads whether a context is cancelled, or why. -/
  | look (context : Nat)
  /-- The clock moves, and of the timers that run and are due then these fire, in this order. -/
  | pass (millis : Int) (fired : List Nat)
  /-- From now on the children of a scope are visited in this order. -/
  | arrange (scope : Nat) (order : List Nat)

/-- The worker some milliseconds later, with some of the timers that are due fired. -/
def Worker.pass (w : Worker) (millis : Int) (fired : List Nat) : Worker :=
  { w with now := w.now + millis, scopes := w.scopes.fire (w.now + millis) fired }

/-- Time passes for a handler in the same way: all timers fire that are due, or none. -/
theorem Worker.advance_eq_pass (w : Worker) (millis : Int) (fire : Bool) :
    w.advance millis fire = w.pass millis (if fire then w.scopes.due (w.now + millis) else []) := by
  cases fire <;> rfl

/-- A worker and the contexts made so far. -/
structure Scene where
  /-- The worker. -/
  worker : Worker
  /-- The contexts in the order in which they were made. -/
  contexts : List Context

namespace Scene

/-- No context has been made yet. -/
def start (now : Int) (directory : Option Text) : Scene :=
  ⟨.start now directory, []⟩

/-- The scene after an action. One on a context that does not exist changes nothing. -/
def act (s : Scene) : Action → Scene
  | .root => let (w, c) := s.worker.newRoot; ⟨w, s.contexts ++ [c]⟩
  | .withValue i key value => match s.contexts[i]? with
    | some c => ⟨s.worker, s.contexts ++ [c.withValue key value]⟩
    | none => s
  | .withDeadline i deadline => match s.contexts[i]? with
    | some c => let (w, derived) := s.worker.derive c deadline; ⟨w, s.contexts ++ [derived]⟩
    | none => s
  | .cancel i => match s.contexts[i]? with
    | some c => ⟨s.worker.cancel c, s.contexts⟩
    | none => s
  | .look i => match s.contexts[i]? with
    | some c => ⟨s.worker.refresh c, s.contexts⟩
    | none => s
  | .pass millis fired => ⟨s.worker.pass millis fired, s.contexts⟩
  | .arrange scope order =>
    ⟨{ s.worker with scopes := s.worker.scopes.arrange scope order }, s.contexts⟩

/-- The scene after some actions. -/
def after (s : Scene) (actions : List Action) : Scene :=
  actions.foldl act s

/-- The scopes are in order, and each context belongs to one of them. -/
structure Valid (s : Scene) : Prop where
  inOrder : s.worker.scopes.InOrder
  inside : ∀ c ∈ s.contexts, c.scope < s.worker.scopes.scopes.length

theorem valid_start (now : Int) (directory : Option Text) : (start now directory).Valid :=
  ⟨ScopeTree.inOrder_empty, by simp [start]⟩

/-- A creation leaves the tree in order; the new scope is that of the new context. -/
theorem Valid.create {s : Scene} (h : s.Valid) {parent : Option Nat} (own : Option Instant)
    (bindings : List (Value × Slot))
    (before : ∀ p, parent = some p → p < s.worker.scopes.scopes.length) :
    Valid ⟨{ s.worker with scopes := (s.worker.scopes.create parent own s.worker.now).1 },
      s.contexts ++ [⟨(s.worker.scopes.create parent own s.worker.now).2, bindings⟩]⟩ := by
  have more : (s.worker.scopes.create parent own s.worker.now).1.scopes.length =
      s.worker.scopes.scopes.length + 1 := ScopeTree.length_create before
  refine ⟨h.inOrder.create before own s.worker.now, fun c mem => ?_⟩
  dsimp only
  rw [more]
  rcases List.mem_append.1 mem with old | new
  · exact Nat.lt_succ_of_lt (h.inside c old)
  · rw [List.mem_singleton.1 new]
    exact Nat.lt_succ_self _

/-- Where parents and deadlines are the same, a scene stays valid. -/
theorem Valid.congr {s : Scene} (h : s.Valid) {w : Worker} (order : w.scopes.InOrder)
    (same : ScopeTree.skeleton w.scopes.scopes = ScopeTree.skeleton s.worker.scopes.scopes) :
    Valid ⟨w, s.contexts⟩ :=
  ⟨order, fun c mem => ScopeTree.length_eq_of_skeleton same ▸ h.inside c mem⟩

theorem Valid.act {s : Scene} (h : s.Valid) (a : Action) : (s.act a).Valid := by
  cases a with
  | root => exact h.create none [] (by simp)
  | withValue i key value =>
    rw [Scene.act]
    split
    · next c found =>
      refine ⟨h.inOrder, fun d mem => ?_⟩
      rcases List.mem_append.1 mem with old | new
      · exact h.inside d old
      · rw [List.mem_singleton.1 new]
        exact h.inside c (List.mem_of_getElem? found)
    · exact h
  | withDeadline i deadline =>
    rw [Scene.act]
    split
    · next c found =>
      refine h.create (some deadline) c.bindings fun p eq => ?_
      rw [← Option.some.inj eq]
      exact h.inside c (List.mem_of_getElem? found)
    · exact h
  | cancel i =>
    rw [Scene.act]
    split
    · exact h.congr (h.inOrder.cancel _ _) (ScopeTree.skeleton_cancel _ _ _)
    · exact h
  | look i =>
    rw [Scene.act]
    split
    · exact h.congr (h.inOrder.refresh _ _) (ScopeTree.skeleton_refresh _ _ _)
    · exact h
  | pass millis fired => exact h.congr (h.inOrder.fire _ _) (ScopeTree.skeleton_fire _ _ _)
  | arrange scope order =>
    exact h.congr (h.inOrder.arrange _ _) (ScopeTree.skeleton_arrange _ _ _)

theorem Valid.after {s : Scene} (h : s.Valid) (actions : List Action) :
    (s.after actions).Valid := by
  induction actions generalizing s with
  | nil => exact h
  | cons a actions ih => exact ih (h.act a)

/-- Whatever has been done with the contexts, their scopes are tidy. -/
theorem scopes_tidy_after (now : Int) (directory : Option Text) (actions : List Action) :
    ((start now directory).after actions).worker.scopes.Tidy :=
  ((valid_start now directory).after actions).inOrder.tidy

end Scene

end InvokeWorker
