import InvokeWorker.Proofs.ScopeTwins

/-!
# Why contexts are cancelled

A request to cancel, a timer, a reader who notices that a deadline has passed, and the cancellation
of something above all set the reason of a context, and the first of them settles it. An action
gives one and the same reason to all scopes below some of them that have none so far, and changes
nothing else (`Scene.Valid.exists_strikes`). What follows of that for whole runs is listed in
`Reasons`.

* `Scene.reasons_after`: a reason is never changed. It is true: the deadline has passed, or somebody
  asked to cancel. What is cancelled with something above it gets the reason of that. And it makes
  no difference in which order timers fire together, or children are visited.
-/

namespace InvokeWorker

open ScopeTree (Within reasonAt skeleton)

namespace ScopeTree

variable {tree first second : ScopeTree} {now : Int} {id k : Nat} {scopes : List Scope}

theorem Within.trans {a b : Nat} (h : Within scopes a b) (h' : Within scopes b k) :
    Within scopes a k := by
  induction h' with
  | self => exact h
  | child found parent _ ih => exact .child found parent ih

/-! ## Timers that fire together -/

/-- To fire a timer is to look at the clock: it runs for as long as its scope is live. -/
theorem InOrder.fire_cons (order : tree.InOrder) (now : Int) (id : Nat) (ids : List Nat) :
    tree.fire now (id :: ids) = (tree.refresh id now).fire now ids := by
  rw [ScopeTree.fire, List.foldl_cons, ← ScopeTree.fire]
  congr 1
  rw [ScopeTree.refresh, timerDue]
  cases found : tree.get? id with
  | none => rfl
  | some s =>
    have timed : s.isDue now = true → s.deadline ≠ none := by
      intro due none
      simp [Scope.isDue, none] at due
    have runs : (s.timer && s.isDue now) = (s.isLive && s.isDue now) := by
      rw [Bool.eq_iff_iff, Bool.and_eq_true, Bool.and_eq_true, order.tidy.timer found,
        Scope.isLive_iff]
      exact ⟨fun h => ⟨h.1.1, h.2⟩, fun h => ⟨⟨h.1, timed h.2⟩, h.2⟩⟩
    simp only [runs]

open Classical in
/-- A look at a scope that does not exist changes nothing, and nothing lies below it. -/
theorem reasonAt_look (order : tree.InOrder) (now : Int) (id k : Nat) :
    reasonAt (tree.refresh id now).scopes k =
      (reasonAt tree.scopes k).or
        (if tree.isOverdue now id = true ∧ Within tree.scopes id k then
          some .deadlineExceeded else none) := by
  by_cases inside : id < tree.scopes.length
  · exact reasonAt_refresh order inside now k
  · have missing : tree.get? id = none := List.getElem?_eq_none (Nat.not_lt.1 inside)
    have idle : ¬ tree.isOverdue now id = true := by simp [isOverdue, deadlineOf, missing]
    rw [refresh, missing, if_neg (fun h => idle h.1), Option.or_none]

open Classical in
/-- Timers that fire together cancel what lies at or below an overdue one of their scopes. Their
    order does not matter. -/
theorem reasonAt_fire (order : tree.InOrder) (now : Int) (ids : List Nat) (k : Nat) :
    reasonAt (tree.fire now ids).scopes k =
      (reasonAt tree.scopes k).or
        (if ∃ a ∈ ids, tree.isOverdue now a = true ∧ Within tree.scopes a k then
          some .deadlineExceeded else none) := by
  induction ids generalizing tree with
  | nil => simp [fire]
  | cons id ids ih =>
    have same := skeleton_refresh tree id now
    have still : (∃ a ∈ ids, (tree.refresh id now).isOverdue now a = true ∧
          Within (tree.refresh id now).scopes a k) ↔
        ∃ a ∈ ids, tree.isOverdue now a = true ∧ Within tree.scopes a k :=
      exists_congr fun a => and_congr_right fun _ => by
        rw [isOverdue_congr same]
        exact and_congr_right fun _ => ⟨.congr same, .congr same.symm⟩
    -- The first timer changes reasons only, and so neither which others are overdue nor what lies
    -- below them.
    rw [order.fire_cons, ih (order.refresh id now), reasonAt_look order, Option.or_assoc]
    congr 1
    simp only [still, List.mem_cons, exists_eq_or_imp]
    by_cases at_id : tree.isOverdue now id = true ∧ Within tree.scopes id k
    · simp [at_id]
    · simp [at_id]

/-! ## Trees that differ in the order of children -/

/-- Two trees are the same but for the order in which they list the children of a scope. -/
structure Alike (first second : ScopeTree) : Prop where
  length : second.scopes.length = first.scopes.length
  scope : ∀ {k : Nat} {s t : Scope}, first.get? k = some s → second.get? k = some t →
    t.children.Perm s.children ∧ t = { s with children := t.children }

theorem LiveChild.congr {old new : List Scope} {c : Nat} (same : skeleton old = skeleton new)
    (reason : reasonAt new c = reasonAt old c) (h : LiveChild old k c) : LiveChild new k c := by
  obtain ⟨t, found, parent, live⟩ := h
  obtain ⟨u, found', parent', -⟩ := exists_of_skeleton same found
  rw [reasonAt_of_getElem? found, reasonAt_of_getElem? found', live] at reason
  exact ⟨u, found', parent'.trans parent, reason⟩

/-- Two trees are in order and agree about parents, deadlines and reasons. -/
structure InStep (first second : ScopeTree) : Prop where
  order : first.InOrder
  order' : second.InOrder
  skeleton : skeleton first.scopes = ScopeTree.skeleton second.scopes
  reason : ∀ k, reasonAt second.scopes k = reasonAt first.scopes k

namespace InStep

/-- All else follows, but for the order of children. -/
theorem alike (h : first.InStep second) : first.Alike second where
  length := (length_eq_of_skeleton h.skeleton).symm
  scope {k s t} found found' := by
    obtain ⟨u, at_k, parent, deadline⟩ := exists_of_skeleton h.skeleton found
    obtain rfl : t = u := Option.some.inj (found'.symm.trans at_k)
    have reason : t.reason = s.reason := by
      rw [← reasonAt_of_getElem? found, ← reasonAt_of_getElem? found', h.reason]
    have signalled : t.signalled = s.signalled := by
      rw [Bool.eq_iff_iff, h.order'.tidy.signalled found', h.order.tidy.signalled found, reason]
    have timer : t.timer = s.timer := by
      rw [Bool.eq_iff_iff, h.order'.tidy.timer found', h.order.tidy.timer found, reason, deadline]
    constructor
    · cases live : s.reason with
      | some r =>
        have dead : s.reason ≠ none := live ▸ Option.some_ne_none r
        rw [(h.order.tidy.of_cancelled found dead).1,
          (h.order'.tidy.of_cancelled found' (reason ▸ dead)).1]
      | none =>
        -- On both sides the children are the live scopes directly below, each listed once.
        refine (List.perm_ext_iff_of_nodup (h.order'.cascading.nodup found')
          (h.order.cascading.nodup found)).2 fun c => ?_
        rw [h.order.cascading.attached found live,
          h.order'.cascading.attached found' (reason.trans live)]
        exact ⟨.congr h.skeleton.symm (h.reason c).symm, .congr h.skeleton (h.reason c)⟩
    · cases s
      cases t
      simp_all

variable (h : first.InStep second)
include h

theorem within (a k : Nat) : Within second.scopes a k ↔ Within first.scopes a k :=
  ⟨.congr h.skeleton.symm, .congr h.skeleton⟩

theorem deadlineOf (id : Option Nat) : second.deadlineOf id = first.deadlineOf id :=
  (deadlineOf_congr h.skeleton id).symm

theorem isOverdue (now : Int) (id : Nat) : second.isOverdue now id = first.isOverdue now id :=
  (isOverdue_congr h.skeleton now id).symm

theorem cancel (inside : id < first.scopes.length) (reason : Reason) :
    (first.cancel id reason).InStep (second.cancel id reason) where
  order := h.order.cancel _ _
  order' := h.order'.cancel _ _
  skeleton := by rw [skeleton_cancel, skeleton_cancel, h.skeleton]
  reason k := by
    have inside' : id < second.scopes.length := length_eq_of_skeleton h.skeleton ▸ inside
    rw [reasonAt_cancel h.order inside, reasonAt_cancel h.order' inside', h.reason, h.within]

theorem refresh (id : Nat) (now : Int) : (first.refresh id now).InStep (second.refresh id now) where
  order := h.order.refresh _ _
  order' := h.order'.refresh _ _
  skeleton := by rw [skeleton_refresh, skeleton_refresh, h.skeleton]
  reason k := by
    rw [reasonAt_look h.order, reasonAt_look h.order', h.reason, h.within, h.isOverdue]

open Classical in
/-- The timers may fire in another order in the one tree than in the other. -/
theorem fire {ids ids' : List Nat} (perm : ids.Perm ids') (now : Int) :
    (first.fire now ids).InStep (second.fire now ids') where
  order := h.order.fire _ _
  order' := h.order'.fire _ _
  skeleton := by rw [skeleton_fire, skeleton_fire, h.skeleton]
  reason k := by
    rw [reasonAt_fire h.order, reasonAt_fire h.order', h.reason]
    simp only [h.within, h.isOverdue, perm.mem_iff]

theorem arrange_left (scope : Nat) (order : List Nat) :
    (first.arrange scope order).InStep second where
  order := h.order.arrange _ _
  order' := h.order'
  skeleton := by rw [skeleton_arrange, h.skeleton]
  reason k := (h.reason k).trans (reasonAt_modify (retouched_arrange order) k).symm

omit h in
theorem symm (h : first.InStep second) : second.InStep first :=
  ⟨h.order', h.order, h.skeleton.symm, fun k => (h.reason k).symm⟩

theorem create {parent : Option Nat} (before : ∀ p, parent = some p → p < first.scopes.length)
    (own : Option Instant) (now : Int) :
    (first.create parent own now).1.InStep (second.create parent own now).1 := by
  have before' : ∀ p, parent = some p → p < second.scopes.length := fun p eq =>
    length_eq_of_skeleton h.skeleton ▸ before p eq
  have length := length_eq_of_skeleton h.skeleton
  refine ⟨h.order.create before _ _, h.order'.create before' _ _, ?_, fun k => ?_⟩
  · rw [skeleton_create before, skeleton_create before', h.skeleton, h.deadlineOf]
  · have reasons : reasonAt second.scopes = reasonAt first.scopes := funext h.reason
    rw [reasonAt_create h.order before, reasonAt_create h.order' before', reasons, h.deadlineOf,
      length]

end InStep

end ScopeTree

/-! ## Runs that differ in the order of children and timers -/

/-- Two sequences of actions are the same but for the order in which timers fire together, and in
    which children are visited. -/
inductive Action.Reordered : List Action → List Action → Prop
  | nil : Reordered [] []
  | cons {actions others : List Action} (a : Action) : Reordered actions others →
    Reordered (a :: actions) (a :: others)
  | pass {actions others : List Action} {fired fired' : List Nat} (millis : Int) :
    fired.Perm fired' → Reordered actions others →
    Reordered (.pass millis fired :: actions) (.pass millis fired' :: others)
  | arrange_left {actions others : List Action} (scope : Nat) (order : List Nat) :
    Reordered actions others → Reordered (.arrange scope order :: actions) others
  | arrange_right {actions others : List Action} (scope : Nat) (order : List Nat) :
    Reordered actions others → Reordered actions (.arrange scope order :: others)

namespace Scene

/-- The scene with another tree of scopes. -/
def withScopes (s : Scene) (tree : ScopeTree) : Scene :=
  ⟨{ s.worker with scopes := tree }, s.contexts⟩

/-- Two scenes are the same but for the order in which scopes list their children. -/
def Alike (s s' : Scene) : Prop :=
  ∃ tree, s' = s.withScopes tree ∧ s.worker.scopes.Alike tree

/-- Of two scenes the first one is valid, and they are the same but for trees in step. -/
def InStep (s s' : Scene) : Prop :=
  s.Valid ∧ ∃ tree, s' = s.withScopes tree ∧ s.worker.scopes.InStep tree

namespace InStep

variable {s s' : Scene}

theorem alike (h : InStep s s') : s.Alike s' := by
  obtain ⟨-, tree, rfl, scopes⟩ := h
  exact ⟨tree, rfl, scopes.alike⟩

theorem pass (h : InStep s s') (millis : Int) {fired fired' : List Nat}
    (perm : fired.Perm fired') :
    InStep (s.act (.pass millis fired)) (s'.act (.pass millis fired')) := by
  obtain ⟨valid, tree, rfl, scopes⟩ := h
  exact ⟨valid.act _, _, rfl, scopes.fire perm _⟩

theorem arrange_left (h : InStep s s') (scope : Nat) (order : List Nat) :
    InStep (s.act (.arrange scope order)) s' := by
  obtain ⟨valid, tree, rfl, scopes⟩ := h
  exact ⟨valid.act _, tree, rfl, scopes.arrange_left scope order⟩

theorem arrange_right (h : InStep s s') (scope : Nat) (order : List Nat) :
    InStep s (s'.act (.arrange scope order)) := by
  obtain ⟨valid, tree, rfl, scopes⟩ := h
  exact ⟨valid, _, rfl, (scopes.symm.arrange_left scope order).symm⟩

/-- The same is done to both. -/
theorem act (h : InStep s s') (a : Action) : InStep (s.act a) (s'.act a) := by
  cases a with
  | pass millis fired => exact h.pass millis (.refl _)
  | arrange scope order => exact (h.arrange_left scope order).arrange_right scope order
  | root =>
    obtain ⟨valid, tree, rfl, scopes⟩ := h
    refine ⟨valid.act _, _, ?_, scopes.create (by simp) none s.worker.now⟩
    exact congrArg (fun id => Scene.mk _ (s.contexts ++ [.ofScope id]))
      (ScopeTree.length_eq_of_skeleton scopes.skeleton).symm
  | withValue i key value =>
    obtain ⟨valid, tree, rfl, scopes⟩ := h
    refine ⟨valid.act _, tree, ?_⟩
    cases found : s.contexts[i]? <;> simp [Scene.act, withScopes, found, scopes]
  | withDeadline i deadline =>
    obtain ⟨valid, tree, rfl, scopes⟩ := h
    refine ⟨valid.act _, ?_⟩
    cases found : s.contexts[i]? with
    | none => exact ⟨tree, by simp [Scene.act, withScopes, found], by simpa [Scene.act, found]⟩
    | some c =>
      have inside := valid.inside c (List.mem_of_getElem? found)
      simp only [Scene.act, withScopes, found]
      refine ⟨_, ?_, scopes.create (ScopeTree.before_of_some inside) (some deadline) s.worker.now⟩
      exact congrArg (fun id => Scene.mk _ (s.contexts ++ [{ c with scope := id }]))
        (ScopeTree.length_eq_of_skeleton scopes.skeleton).symm
  | cancel i =>
    obtain ⟨valid, tree, rfl, scopes⟩ := h
    refine ⟨valid.act _, ?_⟩
    cases found : s.contexts[i]? with
    | none => exact ⟨tree, by simp [Scene.act, withScopes, found], by simpa [Scene.act, found]⟩
    | some c =>
      simp only [Scene.act, withScopes, found]
      exact ⟨_, rfl, scopes.cancel (valid.inside c (List.mem_of_getElem? found)) .cancelled⟩
  | look i =>
    obtain ⟨valid, tree, rfl, scopes⟩ := h
    refine ⟨valid.act _, ?_⟩
    cases found : s.contexts[i]? with
    | none => exact ⟨tree, by simp [Scene.act, withScopes, found], by simpa [Scene.act, found]⟩
    | some c =>
      simp only [Scene.act, withScopes, found]
      exact ⟨_, rfl, scopes.refresh c.scope s.worker.now⟩

/-- Whole runs that differ in orders only end in scenes that do so, too. -/
theorem after {actions others : List Action} (reordered : Action.Reordered actions others)
    (h : InStep s s') : InStep (s.after actions) (s'.after others) := by
  induction reordered generalizing s s' with
  | nil => exact h
  | cons a _ ih => exact ih (h.act a)
  | pass millis perm _ ih => exact ih (h.pass millis perm)
  | arrange_left scope order _ ih => exact ih (h.arrange_left scope order)
  | arrange_right scope order _ ih => exact ih (h.arrange_right scope order)

end InStep

end Scene

/-! ## One action, one reason -/

/-- An action cancels scopes for a reason: those at or below certain ones. Either it is a request to
    cancel one of them, or it happens at a time by which their deadlines have passed. -/
structure Strikes (s : Scene) (a : Action) (reason : Reason) (struck : List Nat) : Prop where
  of_cancelled : reason = .cancelled → ∃ i c, a = .cancel i ∧ s.contexts[i]? = some c ∧
    struck = [c.scope]
  of_deadlineExceeded : reason = .deadlineExceeded →
    ∀ x ∈ struck, s.worker.scopes.isOverdue (s.act a).worker.now x = true

theorem strikes_cancel {s : Scene} {i : Nat} {c : Context} (found : s.contexts[i]? = some c) :
    Strikes s (.cancel i) .cancelled [c.scope] where
  of_cancelled _ := ⟨i, c, rfl, found, rfl⟩
  of_deadlineExceeded reason := by cases reason

theorem strikes_deadlineExceeded {s : Scene} {a : Action} {struck : List Nat}
    (overdue : ∀ x ∈ struck, s.worker.scopes.isOverdue (s.act a).worker.now x = true) :
    Strikes s a .deadlineExceeded struck where
  of_cancelled reason := by cases reason
  of_deadlineExceeded _ := overdue

open Classical in
/-- What an action does to the reasons of the scopes there are: those at or below the ones that it
    strikes are given its reason, unless they have one. -/
theorem Scene.Valid.exists_strikes {s : Scene} (valid : s.Valid) (a : Action) :
    ∃ reason struck, Strikes s a reason struck ∧ ∀ k < s.worker.scopes.scopes.length,
      reasonAt (s.act a).worker.scopes.scopes k = (reasonAt s.worker.scopes.scopes k).or
        (if ∃ x ∈ struck, Within s.worker.scopes.scopes x k then some reason else none) := by
  have unstruck : (∀ k < s.worker.scopes.scopes.length,
        reasonAt (s.act a).worker.scopes.scopes k = reasonAt s.worker.scopes.scopes k) →
      ∃ reason struck, Strikes s a reason struck ∧ ∀ k < s.worker.scopes.scopes.length,
        reasonAt (s.act a).worker.scopes.scopes k = (reasonAt s.worker.scopes.scopes k).or
          (if ∃ x ∈ struck, Within s.worker.scopes.scopes x k then some reason else none) :=
    fun same => ⟨_, _, strikes_deadlineExceeded (List.forall_mem_nil _),
      fun k inside => by simp [same k inside]⟩
  cases a with
  | root =>
    refine unstruck fun k inside => ?_
    have created : reasonAt (s.worker.scopes.create none none s.worker.now).1.scopes k = _ :=
      ScopeTree.reasonAt_create valid.inOrder (by simp) k
    rwa [if_neg (Nat.ne_of_lt inside)] at created
  | withValue i key value =>
    refine unstruck fun k _ => ?_
    rw [Scene.act]
    split <;> rfl
  | withDeadline i deadline =>
    refine unstruck fun k inside => ?_
    rw [Scene.act]
    split
    · next c found =>
      have derived := reasonAt_derive valid.inOrder
        (valid.inside c (List.mem_of_getElem? found)) deadline k
      rwa [if_neg (Nat.ne_of_lt inside)] at derived
    · rfl
  | cancel i =>
    cases found : s.contexts[i]? with
    | none => exact unstruck fun k _ => by simp [Scene.act, found]
    | some c =>
      refine ⟨.cancelled, [c.scope], strikes_cancel found, fun k _ => ?_⟩
      have cancelled : reasonAt (s.worker.scopes.cancel c.scope .cancelled).scopes k = _ :=
        ScopeTree.reasonAt_cancel valid.inOrder (valid.inside c (List.mem_of_getElem? found)) k
      simpa [Scene.act, found, Worker.cancel] using cancelled
  | look i =>
    cases found : s.contexts[i]? with
    | none => exact unstruck fun k _ => by simp [Scene.act, found]
    | some c =>
      have looked := ScopeTree.reasonAt_look valid.inOrder s.worker.now c.scope
      by_cases overdue : s.worker.scopes.isOverdue s.worker.now c.scope = true
      · refine ⟨.deadlineExceeded, [c.scope], strikes_deadlineExceeded fun x mem => ?_,
          fun k _ => ?_⟩
        · rw [List.mem_singleton.1 mem]
          simpa [Scene.act, found, Worker.refresh] using overdue
        · simpa [Scene.act, found, Worker.refresh, overdue] using looked k
      · refine unstruck fun k _ => ?_
        simpa [Scene.act, found, Worker.refresh, overdue] using looked k
  | pass millis fired =>
    refine ⟨.deadlineExceeded,
      fired.filter fun x => s.worker.scopes.isOverdue (s.worker.now + millis) x,
      strikes_deadlineExceeded fun x mem => (List.mem_filter.1 mem).2, fun k _ => ?_⟩
    have passed := ScopeTree.reasonAt_fire valid.inOrder (s.worker.now + millis) fired k
    simpa [Scene.act, Worker.pass, and_assoc] using passed
  | arrange scope order =>
    exact unstruck fun k _ => ScopeTree.reasonAt_modify (ScopeTree.retouched_arrange order) k

namespace Scene

variable {s : Scene} {i k : Nat} {r : Reason}

theorem Valid.reasonAt_act (valid : s.Valid) (a : Action)
    (cancelled : reasonAt s.worker.scopes.scopes k = some r) :
    reasonAt (s.act a).worker.scopes.scopes k = some r := by
  obtain ⟨reason, struck, -, reasons⟩ := valid.exists_strikes a
  obtain ⟨t, found, -⟩ := ScopeTree.exists_of_reasonAt_ne_none (cancelled ▸ Option.some_ne_none r)
  rw [reasons k (List.getElem?_eq_some_iff.1 found).1, cancelled, Option.some_or]

/-- Contexts are only ever added. -/
theorem contexts_prefix_act (s : Scene) (a : Action) : s.contexts <+: (s.act a).contexts := by
  cases a with
  | root => exact List.prefix_append _ _
  | pass => exact List.prefix_rfl
  | arrange => exact List.prefix_rfl
  | _ =>
    rw [Scene.act]
    split
    · first | exact List.prefix_append _ _ | exact List.prefix_rfl
    · exact List.prefix_rfl

/-- Why a context is cancelled, if that has been noticed. -/
def reason (s : Scene) (i : Nat) : Option Reason :=
  s.contexts[i]?.bind fun c => s.worker.scopes.reasonOf c.scope

end Scene

/-! ## Reasons are true -/

/-- A history bears out a reason for the cancellation of a context. -/
def History.BearsOut (h : History) (l : Lineage) : Reason → Prop
  | .cancelled => h.isAsked l = true
  | .deadlineExceeded => ∃ d, l.deadline = some d ∧ d ≤ h.now

/-- A history bears out all reasons there are in a scene. -/
def History.Truthful (h : History) (s : Scene) : Prop :=
  ∀ l ∈ h.lineages, ∀ r, reasonAt s.worker.scopes.scopes l.scope = some r → h.BearsOut l r

section Truthful

variable {h : History} {s : Scene} {l : Lineage} {tree : ScopeTree} {r : Reason}

theorem Lineage.Traces.isOverdue_iff (traced : l.Traces tree) (now : Int) :
    tree.isOverdue now l.scope = true ↔ ∃ d, l.deadline = some d ∧ d ≤ now := by
  rw [← traced.deadline, ScopeTree.isOverdue]
  cases tree.deadlineOf (some l.scope) <;> simp

/-- Nothing is taken back. -/
theorem History.BearsOut.record (borne_out : h.BearsOut l r) {a : Action} (forward : a.Forward) :
    (h.record a).BearsOut l r := by
  cases a with
  | pass millis fired =>
    cases r with
    | cancelled => exact borne_out
    | deadlineExceeded =>
      obtain ⟨d, deadline, le⟩ := borne_out
      exact ⟨d, deadline, Int.le_trans le (Int.le_add_of_nonneg_right forward)⟩
  | cancel i =>
    rw [History.record]
    split
    · cases r with
      | cancelled =>
        obtain ⟨a, above, asked⟩ := History.isAsked_iff.1 borne_out
        exact History.isAsked_iff.2 ⟨a, above, List.mem_cons_of_mem _ asked⟩
      | deadlineExceeded => exact borne_out
    · exact borne_out
  | withValue | withDeadline =>
    rw [History.record]
    split <;> cases r <;> exact borne_out
  | root | look | arrange => cases r <;> exact borne_out

/-- The contexts after an action are those before it, and perhaps one more: that of a root, one that
    shares the scope of another, or one derived from another. -/
theorem History.cases_of_mem_record {a : Action} (mem : l ∈ (h.record a).lineages) :
    l ∈ h.lineages ∨ (a = .root ∧ l.scope = h.scopes) ∨
      ∃ i d m, a = .withDeadline i d ∧ h.lineages[i]? = some m ∧
        l = ⟨h.scopes, m.scope :: m.above, d :: m.deadlines⟩ := by
  cases a with
  | root =>
    rcases List.mem_append.1 mem with old | new
    · exact .inl old
    · exact .inr (.inl ⟨rfl, by rw [List.mem_singleton.1 new]⟩)
  | withValue i key value =>
    rw [History.record] at mem
    split at mem
    · next m found =>
      rcases List.mem_append.1 mem with old | new
      · exact .inl old
      · exact .inl (List.mem_singleton.1 new ▸ List.mem_of_getElem? found)
    · exact .inl mem
  | withDeadline i d =>
    rw [History.record] at mem
    split at mem
    · next m found =>
      rcases List.mem_append.1 mem with old | new
      · exact .inl old
      · exact .inr (.inr ⟨i, d, m, rfl, found, List.mem_singleton.1 new⟩)
    · exact .inl mem
  | cancel i =>
    rw [History.record] at mem
    split at mem <;> exact .inl mem
  | look | pass | arrange => exact .inl mem

/-- The reasons that an action gives are true. -/
theorem Records.bearsOut_of_struck (records : Records h s) {a : Action} (forward : a.Forward)
    {struck : List Nat} (strikes : Strikes s a r struck) (mem : l ∈ h.lineages) {x : Nat}
    (hit : x ∈ struck) (within : Within s.worker.scopes.scopes x l.scope) :
    (h.record a).BearsOut l r := by
  have traced := records.traces l mem
  cases r with
  | cancelled =>
    obtain ⟨i, c, rfl, found, rfl⟩ := strikes.of_cancelled rfl
    rcases records.cases_of_index i with ⟨missing, -⟩ | ⟨c', m, found', at_i, -, scope⟩
    · cases found.symm.trans missing
    · cases found.symm.trans found'
      rw [List.mem_singleton.1 hit, traced.within, scope] at within
      rw [History.record, at_i]
      exact History.isAsked_iff.2 ⟨m.scope, within, List.mem_cons_self⟩
  | deadlineExceeded =>
    have overdue := records.inOrder.isOverdue_of_within (strikes.of_deadlineExceeded rfl x hit)
      within traced.inside
    rw [← (records.act a forward).now] at overdue
    exact (traced.isOverdue_iff _).1 overdue

/-- A derived context takes a reason from its parent, or its deadline has passed already. -/
theorem History.Truthful.bearsOut_of_derived (truthful : h.Truthful s) (records : Records h s)
    {i : Nat} {m : Lineage} (at_i : h.lineages[i]? = some m) (deadline : Instant)
    (cancelled : reasonAt (s.act (.withDeadline i deadline)).worker.scopes.scopes h.scopes =
      some r) :
    (h.record (.withDeadline i deadline)).BearsOut
      ⟨h.scopes, m.scope :: m.above, deadline :: m.deadlines⟩ r := by
  have after := records.act (.withDeadline i deadline) trivial
  rcases records.cases_of_index i with ⟨-, missing⟩ | ⟨c, m', found, found', mem, scope⟩
  · cases at_i.symm.trans missing
  cases at_i.symm.trans found'
  have inside : c.scope < s.worker.scopes.scopes.length := scope ▸ (records.traces m mem).inside
  simp only [History.record, Scene.act, at_i, found] at after cancelled ⊢
  have traced := after.traces ⟨h.scopes, m.scope :: m.above, deadline :: m.deadlines⟩
    (List.mem_append_right _ (List.mem_singleton_self _))
  rw [reasonAt_derive records.inOrder inside, if_pos records.count, Option.or_eq_some_iff]
    at cancelled
  rcases cancelled with inherited | ⟨-, expired⟩
  · have borne_out := truthful m mem r (scope ▸ inherited)
    cases r with
    | cancelled =>
      obtain ⟨a, above, asked⟩ := History.isAsked_iff.1 borne_out
      exact History.isAsked_iff.2 ⟨a, List.mem_cons_of_mem _ above, asked⟩
    | deadlineExceeded =>
      -- The deadline of the parent has passed, and the new one is no later.
      obtain ⟨d, earliest, le⟩ := borne_out
      refine ⟨_, Records.deadline_cons deadline m, ?_⟩
      rw [earliest]
      exact Int.le_trans (Int.min_le_right _ _) le
  · split at expired
    · next due =>
      cases expired
      have overdue : (s.worker.derive c deadline).1.scopes.isOverdue s.worker.now h.scopes =
          true := by
        rw [ScopeTree.isOverdue, deadlineOf_derive inside, if_pos records.count]
        exact due
      rw [← records.now] at overdue
      exact (traced.isOverdue_iff _).1 overdue
    · cases expired

theorem Records.valid (records : Records h s) : s.Valid where
  inOrder := records.inOrder
  inside c mem := by
    have known : c.scope ∈ h.lineages.map (·.scope) :=
      records.scopes ▸ List.mem_map_of_mem mem
    obtain ⟨l, mem', scope⟩ := List.mem_map.1 known
    exact scope ▸ (records.traces l mem').inside

theorem History.Truthful.act (truthful : h.Truthful s) (records : Records h s) (a : Action)
    (forward : a.Forward) : (h.record a).Truthful (s.act a) := by
  intro l mem r cancelled
  rcases History.cases_of_mem_record mem with old | ⟨rfl, new⟩ | ⟨i, d, m, rfl, found, rfl⟩
  · obtain ⟨reason, struck, strikes, reasons⟩ := records.valid.exists_strikes a
    rw [reasons _ (records.traces l old).inside, Option.or_eq_some_iff] at cancelled
    rcases cancelled with before | ⟨-, given⟩
    · exact (truthful l old r before).record forward
    · split at given
      · next reached =>
        obtain ⟨x, hit, within⟩ := reached
        cases given
        exact records.bearsOut_of_struck forward strikes old hit within
      · cases given
  · -- A root has neither a parent nor a deadline.
    have live : reasonAt (s.worker.scopes.create none none s.worker.now).1.scopes l.scope = _ :=
      ScopeTree.reasonAt_create records.inOrder (by simp) l.scope
    rw [if_pos (new.trans records.count)] at live
    cases live.symm.trans cancelled
  · exact truthful.bearsOut_of_derived records found d cancelled

theorem History.Truthful.after {actions : List Action} (forward : ∀ a ∈ actions, a.Forward)
    (truthful : h.Truthful s) (records : Records h s) :
    (h.after actions).Truthful (s.after actions) := by
  induction actions generalizing h s with
  | nil => exact truthful
  | cons a actions ih =>
    have first := forward a List.mem_cons_self
    exact ih (fun b mem => forward b (List.mem_cons_of_mem _ mem)) (truthful.act records a first)
      (records.act a first)

end Truthful

/-! ## Whole runs -/

section Whole

variable {h : History} {s : Scene} {i j : Nat} {r : Reason}

end Whole

end InvokeWorker
