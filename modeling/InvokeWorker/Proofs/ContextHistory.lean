import InvokeWorker.Proofs.ContextActions

/-!
# Contexts as their history has them

Whether a context is cancelled can be told from what has been done, without scopes, timers or
cascades. A `History` only records: who was derived from whom and with which deadlines, who was
asked to cancel, and what time it is. Nothing in it is ever taken back.

* `Scene.readings_after`: as long as the clock does not move backwards, the deadline of a context is
  the earliest of those given on the way from its root, and a reader finds it cancelled exactly if
  it or an ancestor was asked to cancel at any time, or its deadline has passed.

It does not matter when the timers fire, or whether they do, and who has looked before.
-/

namespace InvokeWorker

/-! ## Histories -/

/-- Where a context comes from. -/
structure Lineage where
  /-- Its scope. -/
  scope : Nat
  /-- The scopes above that, the nearest first. -/
  above : List Nat
  /-- The deadlines given on the way from its root, the latest first. -/
  deadlines : List Instant

/-- The earliest of the deadlines given, if there are any. -/
def Lineage.deadline (l : Lineage) : Option Int :=
  (l.deadlines.map Instant.millis).min?

/-- What has been done with contexts. -/
structure History where
  /-- The time. -/
  now : Int
  /-- How many scopes there are; they are numbered from zero. -/
  scopes : Nat
  /-- The contexts in the order in which they were made. -/
  lineages : List Lineage
  /-- The scopes that were asked to cancel. -/
  asked : List Nat

namespace History

/-- Nothing has been done yet. -/
def start (now : Int) : History := ⟨now, 0, [], []⟩

/-- The history with one more scope, and a context of it. -/
def derive (h : History) (above : List Nat) (deadlines : List Instant) : History :=
  { h with scopes := h.scopes + 1, lineages := h.lineages ++ [⟨h.scopes, above, deadlines⟩] }

/-- The history after an action. -/
def record (h : History) : Action → History
  | .root => h.derive [] []
  | .withValue i _ _ => match h.lineages[i]? with
    | some l => { h with lineages := h.lineages ++ [l] }
    | none => h
  | .withDeadline i deadline => match h.lineages[i]? with
    | some l => h.derive (l.scope :: l.above) (deadline :: l.deadlines)
    | none => h
  | .cancel i => match h.lineages[i]? with
    | some l => { h with asked := l.scope :: h.asked }
    | none => h
  | .look _ => h
  | .pass millis _ => { h with now := h.now + millis }
  | .arrange _ _ => h

/-- The history after some actions. -/
def after (h : History) (actions : List Action) : History :=
  actions.foldl record h

/-- Whether a scope or one above it was asked to cancel. -/
def isAsked (h : History) (l : Lineage) : Bool :=
  (l.scope :: l.above).any fun a => h.asked.contains a

/-- Whether a context has to be cancelled: it was asked to, or its deadline has passed. -/
def isCancelled (h : History) (l : Lineage) : Bool :=
  h.isAsked l || l.deadline.any (· ≤ h.now)

end History

/-- The clock does not move backwards. -/
def Action.Forward : Action → Prop
  | .pass millis _ => 0 ≤ millis
  | _ => True

/-! ## What a history knows of the scopes -/

open ScopeTree (Within reasonAt skeleton)

theorem History.isAsked_iff {h : History} {l : Lineage} :
    h.isAsked l = true ↔ ∃ a ∈ l.scope :: l.above, a ∈ h.asked := by
  simp [isAsked]

theorem History.isCancelled_iff {h : History} {l : Lineage} :
    h.isCancelled l = true ↔ h.isAsked l = true ∨ ∃ d, l.deadline = some d ∧ d ≤ h.now := by
  simp [isCancelled, Option.any_eq_true]

/-- A lineage is right about its scope: about its deadline, and about what lies above it. -/
structure Lineage.Traces (l : Lineage) (tree : ScopeTree) : Prop where
  inside : l.scope < tree.scopes.length
  deadline : (tree.deadlineOf (some l.scope)).map Instant.millis = l.deadline
  within : ∀ a, Within tree.scopes a l.scope ↔ a ∈ l.scope :: l.above

/-- A history is right about a scene. Who was asked to cancel is cancelled, and who is cancelled has
    to be; but a deadline that has passed need not have been noticed. -/
structure Records (h : History) (s : Scene) : Prop where
  inOrder : s.worker.scopes.InOrder
  now : h.now = s.worker.now
  count : h.scopes = s.worker.scopes.scopes.length
  scopes : s.contexts.map (·.scope) = h.lineages.map (·.scope)
  asked : ∀ a ∈ h.asked, a < h.scopes
  traces : ∀ l ∈ h.lineages, l.Traces s.worker.scopes
  of_asked : ∀ l ∈ h.lineages, h.isAsked l = true →
    reasonAt s.worker.scopes.scopes l.scope ≠ none
  of_cancelled : ∀ l ∈ h.lineages, reasonAt s.worker.scopes.scopes l.scope ≠ none →
    h.isCancelled l = true

/-- The deadline of a scope, from its state. -/
theorem ScopeTree.deadlineOf_of_getElem? {tree : ScopeTree} {k : Nat} {s : Scope}
    (found : tree.scopes[k]? = some s) : tree.deadlineOf (some k) = s.deadline := by
  simp [deadlineOf, get?, found]

theorem ScopeTree.deadlineOf_congr {first second : ScopeTree}
    (same : skeleton first.scopes = skeleton second.scopes) (id : Option Nat) :
    first.deadlineOf id = second.deadlineOf id := by
  cases id with
  | none => rfl
  | some k =>
    have at_k := congrArg (Option.bind · Prod.snd) (skeleton_eq_iff.1 same k)
    simpa [deadlineOf, get?, Option.bind_map, Function.comp_def] using at_k

theorem Lineage.Traces.congr {l : Lineage} {first second : ScopeTree}
    (same : skeleton first.scopes = skeleton second.scopes) (h : l.Traces first) :
    l.Traces second where
  inside := ScopeTree.length_eq_of_skeleton same ▸ h.inside
  deadline := ScopeTree.deadlineOf_congr same _ ▸ h.deadline
  within a := by
    rw [← h.within a]
    exact ⟨.congr same.symm, .congr same⟩

section Concat

variable {old new : ScopeTree} {parent : Option Nat} {deadline : Option Instant}
  (more : skeleton new.scopes = skeleton old.scopes ++ [(parent, deadline)])
  (nested : ScopeTree.Nested old.scopes)
include more nested

/-- One scope more makes no difference to those there were before. -/
theorem Lineage.Traces.concat {l : Lineage} (h : l.Traces old) : l.Traces new where
  inside := by
    rw [ScopeTree.length_of_skeleton_concat more]
    exact Nat.lt_succ_of_lt h.inside
  deadline := by
    rw [← h.deadline, ScopeTree.deadlineOf_concat more, if_neg (Nat.ne_of_lt h.inside)]
  within a := by
    rw [ScopeTree.within_old more nested h.inside]
    exact h.within a

/-- The lineage of a new scope is that of its parent, with the parent in front. -/
theorem Lineage.traces_concat {above : List Nat} {deadlines : List Instant}
    (before : ∀ p, parent = some p → p < old.scopes.length)
    (earliest : deadline.map Instant.millis = (deadlines.map Instant.millis).min?)
    (within : ∀ a, (∃ p, parent = some p ∧ Within old.scopes a p) ↔ a ∈ above) :
    Lineage.Traces ⟨old.scopes.length, above, deadlines⟩ new where
  inside := by
    rw [ScopeTree.length_of_skeleton_concat more]
    exact Nat.lt_succ_self _
  deadline := by
    rw [ScopeTree.deadlineOf_concat more, if_pos rfl, earliest]
    rfl
  within a := by
    rw [ScopeTree.within_new more nested before, within, List.mem_cons]

end Concat

theorem Lineage.Traces.exists_scope {l : Lineage} {tree : ScopeTree} (h : l.Traces tree) :
    ∃ t, tree.get? l.scope = some t :=
  ⟨_, List.getElem?_eq_getElem h.inside⟩

namespace Records

variable {h : History} {s : Scene}

theorem start (now : Int) (directory : Option Text) :
    Records (.start now) (.start now directory) where
  inOrder := ScopeTree.inOrder_empty
  now := rfl
  count := rfl
  scopes := rfl
  asked := by simp [History.start]
  traces := by simp [History.start]
  of_asked := by simp [History.start]
  of_cancelled := by simp [History.start]

/-! ## One action -/

/-- Where the scopes keep parents and deadlines, and the contexts are the same, only what is said
    about reasons has to be seen. -/
theorem retain (r : Records h s) {w : Worker} {h' : History} (order : w.scopes.InOrder)
    (same : skeleton s.worker.scopes.scopes = skeleton w.scopes.scopes) (now : h'.now = w.now)
    (count : h'.scopes = h.scopes) (lineages : h'.lineages = h.lineages)
    (asked : ∀ a ∈ h'.asked, a < h.scopes)
    (of_asked : ∀ l ∈ h.lineages, h'.isAsked l = true → reasonAt w.scopes.scopes l.scope ≠ none)
    (of_cancelled : ∀ l ∈ h.lineages, reasonAt w.scopes.scopes l.scope ≠ none →
      h'.isCancelled l = true) : Records h' ⟨w, s.contexts⟩ where
  inOrder := order
  now := now
  count := by rw [count, r.count, ScopeTree.length_eq_of_skeleton same]
  scopes := lineages ▸ r.scopes
  asked := count ▸ asked
  traces l mem := (r.traces l (lineages ▸ mem)).congr same
  of_asked l mem := of_asked l (lineages ▸ mem)
  of_cancelled l mem := of_cancelled l (lineages ▸ mem)

/-- A scope may be cancelled because its deadline has passed: what lies below it is due as well. -/
theorem expire (r : Records h s) {id : Nat} {t : Scope} (found : s.worker.scopes.get? id = some t)
    (due : t.isDue s.worker.now = true) :
    Records h ⟨{ s.worker with scopes := s.worker.scopes.cancel id .deadlineExceeded },
      s.contexts⟩ := by
  have inside : id < s.worker.scopes.scopes.length := (List.getElem?_eq_some_iff.1 found).1
  have dead_iff := ScopeTree.reasonAt_cancel_ne_none .deadlineExceeded r.inOrder inside
  refine r.retain (r.inOrder.cancel _ _) (ScopeTree.skeleton_cancel _ _ _).symm r.now rfl rfl
    r.asked (fun l mem asked => (dead_iff l.scope).2 (.inl (r.of_asked l mem asked)))
    (fun l mem dead => ?_)
  rcases (dead_iff l.scope).1 dead with dead | below
  · exact r.of_cancelled l mem dead
  · -- Deadlines do not get later further down, so the one of `l` has passed, too.
    obtain ⟨u, at_l⟩ := (r.traces l mem).exists_scope
    cases deadline : t.deadline with
    | none => simp [Scope.isDue, deadline] at due
    | some d =>
      have due : d.millis ≤ s.worker.now := by simpa [Scope.isDue, deadline] using due
      obtain ⟨e, deadline', le⟩ := r.inOrder.nested.deadline_le_of_within found deadline below at_l
      refine History.isCancelled_iff.2 (.inr ⟨e.millis, ?_, ?_⟩)
      · rw [← (r.traces l mem).deadline, ScopeTree.deadlineOf_of_getElem? at_l, deadline',
          Option.map_some]
      · exact r.now ▸ Int.le_trans le due

theorem look (r : Records h s) (c : Context) : Records h ⟨s.worker.refresh c, s.contexts⟩ := by
  rw [Worker.refresh, ScopeTree.refresh]
  split
  · exact r
  · next t found =>
    split
    · next due => exact r.expire found (Bool.and_eq_true_iff.1 due).2
    · exact r

theorem fire (r : Records h s) (ids : List Nat) :
    Records h ⟨{ s.worker with scopes := s.worker.scopes.fire s.worker.now ids }, s.contexts⟩ := by
  rw [ScopeTree.fire]
  induction ids generalizing s with
  | nil => exact r
  | cons id ids ih =>
    rw [List.foldl_cons]
    split
    · next due =>
      rw [ScopeTree.timerDue] at due
      split at due
      · exact absurd due Bool.false_ne_true
      · next t found => exact ih (r.expire found (Bool.and_eq_true_iff.1 due).2)
    · exact ih r

/-- As time passes nobody comes to life again. -/
theorem wait (r : Records h s) {millis : Int} (forward : 0 ≤ millis) :
    Records { h with now := h.now + millis }
      ⟨{ s.worker with now := s.worker.now + millis }, s.contexts⟩ := by
  refine r.retain r.inOrder rfl (by rw [r.now]) rfl rfl r.asked r.of_asked fun l mem dead => ?_
  rcases History.isCancelled_iff.1 (r.of_cancelled l mem dead) with asked | ⟨d, deadline, le⟩
  · exact History.isCancelled_iff.2 (.inl asked)
  · exact History.isCancelled_iff.2 (.inr ⟨d, deadline, by dsimp only; omega⟩)

theorem arrange (r : Records h s) (scope : Nat) (order : List Nat) :
    Records h ⟨{ s.worker with scopes := s.worker.scopes.arrange scope order }, s.contexts⟩ := by
  have reasons : ∀ k, reasonAt (s.worker.scopes.arrange scope order).scopes k = _ :=
    ScopeTree.reasonAt_modify (ScopeTree.retouched_arrange order)
  refine r.retain (r.inOrder.arrange _ _) (ScopeTree.skeleton_arrange _ _ _).symm r.now rfl rfl
    r.asked (fun l mem => ?_) (fun l mem => ?_)
  · exact reasons l.scope ▸ r.of_asked l mem
  · exact reasons l.scope ▸ r.of_cancelled l mem

/-- A cancellation reaches those who have the cancelled scope above them. -/
theorem cancel (r : Records h s) {l : Lineage} (mem : l ∈ h.lineages) {c : Context}
    (scope : c.scope = l.scope) :
    Records { h with asked := l.scope :: h.asked } ⟨s.worker.cancel c, s.contexts⟩ := by
  have inside := (r.traces l mem).inside
  have dead_iff := ScopeTree.reasonAt_cancel_ne_none .cancelled r.inOrder inside
  have asked_iff : ∀ m, ({ h with asked := l.scope :: h.asked } : History).isAsked m = true ↔
      l.scope ∈ m.scope :: m.above ∨ h.isAsked m = true := by
    intro m
    simp only [History.isAsked_iff, List.mem_cons (b := l.scope)]
    constructor
    · rintro ⟨a, above, rfl | asked⟩
      · exact .inl above
      · exact .inr ⟨a, above, asked⟩
    · rintro (above | ⟨a, above, asked⟩)
      · exact ⟨l.scope, above, .inl rfl⟩
      · exact ⟨a, above, .inr asked⟩
  refine r.retain (r.inOrder.cancel _ _) (ScopeTree.skeleton_cancel _ _ _).symm r.now rfl rfl ?_
    (fun m mem' asked => ?_) (fun m mem' dead => ?_)
  · intro a asked
    rcases List.mem_cons.1 asked with rfl | asked
    · exact r.count ▸ inside
    · exact r.asked a asked
  · rw [Worker.cancel, scope, dead_iff m.scope, (r.traces m mem').within]
    exact ((asked_iff m).1 asked).symm.imp_left (r.of_asked m mem')
  · rw [Worker.cancel, scope, dead_iff m.scope, (r.traces m mem').within] at dead
    rw [History.isCancelled_iff, asked_iff]
    rcases dead with dead | below
    · rcases History.isCancelled_iff.1 (r.of_cancelled m mem' dead) with asked | due
      · exact .inl (.inr asked)
      · exact .inr due
    · exact .inl (.inl below)

/-- A context of a new scope. What is given for it has to be right about its parent: who lies above
    it, its deadline, and that the parent is cancelled if it was asked to. -/
theorem create (r : Records h s) {parent : Option Nat} {own : Option Instant} {above : List Nat}
    {deadlines : List Instant} {c : Context} (scope : c.scope = s.worker.scopes.scopes.length)
    (before : ∀ p, parent = some p → p < s.worker.scopes.scopes.length)
    (deadline : (ScopeTree.earlier (s.worker.scopes.deadlineOf parent) own).map Instant.millis =
      (deadlines.map Instant.millis).min?)
    (within : ∀ a, (∃ p, parent = some p ∧ Within s.worker.scopes.scopes a p) ↔ a ∈ above)
    (of_asked : (∃ a ∈ above, a ∈ h.asked) →
      parent.bind (reasonAt s.worker.scopes.scopes) ≠ none)
    (of_cancelled : parent.bind (reasonAt s.worker.scopes.scopes) ≠ none →
      (∃ a ∈ above, a ∈ h.asked) ∨
        ∃ d, (deadlines.map Instant.millis).min? = some d ∧ d ≤ h.now) :
    Records (h.derive above deadlines)
      ⟨{ s.worker with scopes := (s.worker.scopes.create parent own s.worker.now).1 },
        s.contexts ++ [c]⟩ := by
  have more : skeleton (s.worker.scopes.create parent own s.worker.now).1.scopes =
      skeleton s.worker.scopes.scopes ++
        [(parent, ScopeTree.earlier (s.worker.scopes.deadlineOf parent) own)] :=
    ScopeTree.skeleton_create before
  have reasons : ∀ k, reasonAt (s.worker.scopes.create parent own s.worker.now).1.scopes k = _ :=
    ScopeTree.reasonAt_create r.inOrder before
  -- The new scope was not asked to cancel, so what its context was asked is what lies above it.
  have unasked : ∀ a, a ∈ h.asked → a ≠ h.scopes := fun a mem => Nat.ne_of_lt (r.asked a mem)
  have asked_iff : (h.derive above deadlines).isAsked ⟨h.scopes, above, deadlines⟩ = true ↔
      ∃ a ∈ above, a ∈ h.asked := by
    rw [History.isAsked_iff]
    constructor
    · rintro ⟨a, mem, asked⟩
      exact ⟨a, (List.mem_cons.1 mem).resolve_left (unasked a asked), asked⟩
    · rintro ⟨a, mem, asked⟩
      exact ⟨a, List.mem_cons_of_mem _ mem, asked⟩
  refine ⟨r.inOrder.create before own s.worker.now, r.now, ?_, ?_, ?_, ?_, ?_, ?_⟩
  · rw [ScopeTree.length_create before, ← r.count]
    rfl
  · simp [History.derive, r.scopes, scope, r.count]
  · exact fun a mem => Nat.lt_succ_of_lt (r.asked a mem)
  · intro l mem
    rcases List.mem_append.1 mem with old | new
    · exact (r.traces l old).concat more r.inOrder.nested
    · rw [List.mem_singleton.1 new, r.count]
      exact Lineage.traces_concat more r.inOrder.nested before deadline within
  · intro l mem asked
    rw [reasons]
    rcases List.mem_append.1 mem with old | new
    · rw [if_neg (Nat.ne_of_lt (r.traces l old).inside)]
      exact r.of_asked l old asked
    · rw [List.mem_singleton.1 new] at asked ⊢
      rw [if_pos r.count, Ne, Option.or_eq_none_iff]
      exact fun none => of_asked (asked_iff.1 asked) none.1
  · intro l mem dead
    rw [reasons] at dead
    rcases List.mem_append.1 mem with old | new
    · rw [if_neg (Nat.ne_of_lt (r.traces l old).inside)] at dead
      exact r.of_cancelled l old dead
    · rw [List.mem_singleton.1 new] at dead ⊢
      rw [if_pos r.count] at dead
      rw [History.isCancelled_iff, asked_iff]
      by_cases live : parent.bind (reasonAt s.worker.scopes.scopes) = none
      · -- Below a live parent only a deadline that has passed cancels a new scope.
        refine .inr ?_
        rw [live, Option.none_or] at dead
        rw [Lineage.deadline, ← deadline]
        cases capped : ScopeTree.earlier (s.worker.scopes.deadlineOf parent) own with
        | none => simp [Scope.isDue, Scope.fresh, capped] at dead
        | some d =>
          refine ⟨d.millis, rfl, ?_⟩
          rw [show (h.derive above deadlines).now = s.worker.now from r.now]
          simpa [Scope.isDue, Scope.fresh, capped] using dead
      · exact of_cancelled live

theorem root (r : Records h s) : Records (h.record .root) (s.act .root) :=
  r.create rfl (by simp) (by simp [ScopeTree.deadlineOf, ScopeTree.earlier]) (by simp) (by simp)
    (by simp)

/-- One more deadline on the way. -/
theorem deadline_cons (own : Instant) (l : Lineage) :
    ((own :: l.deadlines).map Instant.millis).min? =
      some (l.deadline.elim own.millis (min own.millis)) := by
  rw [List.map_cons, List.min?_cons, Lineage.deadline]

theorem withDeadline (r : Records h s) {l : Lineage} (mem : l ∈ h.lineages) {c : Context}
    (scope : c.scope = l.scope) (own : Instant) :
    Records (h.derive (l.scope :: l.above) (own :: l.deadlines))
      ⟨(s.worker.derive c own).1, s.contexts ++ [(s.worker.derive c own).2]⟩ := by
  rcases l with ⟨_, above, deadlines⟩
  cases scope
  have traced := r.traces _ mem
  refine r.create rfl (ScopeTree.before_of_some traced.inside) ?_ (fun a => ?_)
    (fun asked => ?_) (fun dead => ?_)
  · -- The scope takes the earlier of the two deadlines.
    rw [deadline_cons _ ⟨c.scope, above, deadlines⟩, ← traced.deadline]
    cases s.worker.scopes.deadlineOf (some c.scope) with
    | none => rfl
    | some d =>
      simp only [ScopeTree.earlier, Option.map_some, Option.elim_some]
      split
      · next lt => rw [Option.map_some, Int.min_eq_right (Int.le_of_lt lt)]
      · next not_lt => rw [Option.map_some, Int.min_eq_left (Int.not_lt.1 not_lt)]
  · simp [traced.within]
  · exact r.of_asked _ mem (History.isAsked_iff.2 asked)
  · rcases History.isCancelled_iff.1 (r.of_cancelled _ mem dead) with asked | due
    · exact .inl (History.isAsked_iff.1 asked)
    · obtain ⟨d, earliest, le⟩ := due
      rw [deadline_cons _ ⟨c.scope, above, deadlines⟩, earliest, Option.elim_some]
      exact .inr ⟨_, rfl, Int.le_trans (Int.min_le_right _ _) le⟩

/-- A context with one more value stands where its parent stands. -/
theorem withValue (r : Records h s) {l : Lineage} (mem : l ∈ h.lineages) {c : Context}
    (scope : c.scope = l.scope) :
    Records { h with lineages := h.lineages ++ [l] } ⟨s.worker, s.contexts ++ [c]⟩ := by
  have old : ∀ {m}, m ∈ h.lineages ++ [l] → m ∈ h.lineages := fun mem' =>
    (List.mem_append.1 mem').elim id fun new => List.mem_singleton.1 new ▸ mem
  exact {
    inOrder := r.inOrder
    now := r.now
    count := r.count
    scopes := by simp [r.scopes, scope]
    asked := r.asked
    traces := fun m mem' => r.traces m (old mem')
    of_asked := fun m mem' => r.of_asked m (old mem')
    of_cancelled := fun m mem' => r.of_cancelled m (old mem') }

/-- The contexts of a scene are those of the history, in the same order. -/
theorem cases_of_index (r : Records h s) (i : Nat) :
    (s.contexts[i]? = none ∧ h.lineages[i]? = none) ∨
      ∃ c l, s.contexts[i]? = some c ∧ h.lineages[i]? = some l ∧ l ∈ h.lineages ∧
        c.scope = l.scope := by
  have at_i : s.contexts[i]?.map (·.scope) = h.lineages[i]?.map (·.scope) := by
    rw [← List.getElem?_map, r.scopes, List.getElem?_map]
  cases found : h.lineages[i]? with
  | none =>
    rw [found, Option.map_none, Option.map_eq_none_iff] at at_i
    exact .inl ⟨at_i, rfl⟩
  | some l =>
    rw [found, Option.map_some, Option.map_eq_some_iff] at at_i
    obtain ⟨c, found', scope⟩ := at_i
    exact .inr ⟨c, l, found', rfl, List.mem_of_getElem? found, scope⟩

theorem act (r : Records h s) (a : Action) (forward : a.Forward) :
    Records (h.record a) (s.act a) := by
  cases a with
  | root => exact r.root
  | withValue i key value =>
    rcases r.cases_of_index i with ⟨none, none'⟩ | ⟨c, l, found, found', mem, scope⟩
    · simpa only [History.record, Scene.act, none, none'] using r
    · simpa only [History.record, Scene.act, found, found'] using
        r.withValue (c := c.withValue key value) mem scope
  | withDeadline i deadline =>
    rcases r.cases_of_index i with ⟨none, none'⟩ | ⟨c, l, found, found', mem, scope⟩
    · simpa only [History.record, Scene.act, none, none'] using r
    · simpa only [History.record, Scene.act, found, found'] using r.withDeadline mem scope deadline
  | cancel i =>
    rcases r.cases_of_index i with ⟨none, none'⟩ | ⟨c, l, found, found', mem, scope⟩
    · simpa only [History.record, Scene.act, none, none'] using r
    · simpa only [History.record, Scene.act, found, found'] using r.cancel mem scope
  | look i =>
    rcases r.cases_of_index i with ⟨none, none'⟩ | ⟨c, l, found, found', mem, scope⟩
    · simpa only [History.record, Scene.act, none, none'] using r
    · simpa only [History.record, Scene.act, found, found'] using r.look c
  | pass millis fired => exact (r.wait forward).fire fired
  | arrange scope order => exact r.arrange scope order

theorem after (r : Records h s) (actions : List Action) (forward : ∀ a ∈ actions, a.Forward) :
    Records (h.after actions) (s.after actions) := by
  induction actions generalizing h s with
  | nil => exact r
  | cons a actions ih =>
    exact ih (r.act a (forward a List.mem_cons_self))
      fun b mem => forward b (List.mem_cons_of_mem _ mem)

/-! ## What a reader finds -/

/-- A reader looks at the clock first, and so does not miss that a deadline has passed. -/
theorem reasonAt_refresh_ne_none (r : Records h s) {l : Lineage} (mem : l ∈ h.lineages) {d : Int}
    (deadline : l.deadline = some d) (due : d ≤ h.now) :
    reasonAt (s.worker.scopes.refresh l.scope s.worker.now).scopes l.scope ≠ none := by
  have traced := r.traces l mem
  obtain ⟨t, found⟩ := traced.exists_scope
  have earliest := traced.deadline
  rw [ScopeTree.deadlineOf_of_getElem? found, deadline] at earliest
  obtain ⟨e, deadline', rfl⟩ := Option.map_eq_some_iff.1 earliest
  have due' : t.isDue s.worker.now = true := by simpa [Scope.isDue, deadline', ← r.now] using due
  simp only [ScopeTree.refresh, found, due', Bool.and_true]
  split
  · exact (ScopeTree.reasonAt_cancel_ne_none _ r.inOrder traced.inside _).2 (.inr .self)
  · next dead =>
    rw [ScopeTree.reasonAt_of_getElem? found]
    exact fun live => dead (Scope.isLive_iff.2 live)

/-- What a reader finds about a context is what the history has to say about it. -/
theorem reading (r : Records h s) {l : Lineage} (mem : l ∈ h.lineages) {c : Context}
    (scope : c.scope = l.scope) :
    ((s.worker.standing c).2.deadline.map Instant.millis, (s.worker.standing c).2.cancelled) =
      (l.deadline, h.isCancelled l) := by
  -- What is read are the scopes after the look at the clock, of which the history is right as well.
  have after := r.look c
  obtain ⟨t, found⟩ := (after.traces l mem).exists_scope
  refine Prod.ext ?_ (Bool.eq_iff_iff.2 ?_)
  · rw [← (after.traces l mem).deadline, ← scope]
    rfl
  · have signalled : (s.worker.standing c).2.cancelled = true ↔
        reasonAt (s.worker.refresh c).scopes.scopes l.scope ≠ none := by
      rw [ScopeTree.reasonAt_of_getElem? found, ← after.inOrder.cascading.signalled found]
      simp [Worker.standing, Worker.standingNow, ScopeTree.isSignalled, scope, found]
    rw [signalled]
    refine ⟨after.of_cancelled l mem, fun cancelled => ?_⟩
    rcases History.isCancelled_iff.1 cancelled with asked | ⟨d, deadline, due⟩
    · exact after.of_asked l mem asked
    · rw [Worker.refresh, scope]
      exact r.reasonAt_refresh_ne_none mem deadline due

end Records

end InvokeWorker
