import InvokeWorker.Proofs.Cascade

/-!
# Scopes in order

The operations on scopes keep the tree *in order* (`ScopeTree.InOrder`): a scope is created after
its parent, with a deadline no later than that of its parent, and no cascade is under way. The order
of a scope's children is of no account, they may be rearranged at any time (`ScopeTree.arrange`).

Beside each operation stands what it does to the reasons (`reasonAt_create`, `reasonAt_cancel`): a
new scope takes the reason of its parent, or is cancelled at once if its deadline has passed.
-/

namespace InvokeWorker

namespace ScopeTree

variable {reason : Reason} {id k p a n : Nat} {s t : Scope} {scopes : List Scope}
  {pending untimed rest : List Nat} {parent : Option Nat} {deadline : Option Instant} {now : Int}

/-! ## Nesting -/

/-- Scopes are created after their parents, with deadlines no later than theirs. -/
structure Nested (scopes : List Scope) : Prop where
  earlier : ∀ {k p : Nat} {s : Scope}, scopes[k]? = some s → s.parent = some p → p < k
  bounded : ∀ {k p : Nat} {s t : Scope} {d : Instant}, scopes[k]? = some s →
    s.parent = some p → scopes[p]? = some t → t.deadline = some d →
    ∃ e, s.deadline = some e ∧ e.millis ≤ d.millis

/-- Where a skeleton is the same, so are parent and deadline of each scope. -/
theorem exists_of_skeleton {first second : List Scope} (same : skeleton first = skeleton second)
    (found : first[k]? = some s) :
    ∃ t, second[k]? = some t ∧ t.parent = s.parent ∧ t.deadline = s.deadline := by
  have at_k := skeleton_eq_iff.1 same k
  rw [found] at at_k
  obtain ⟨t, found', eq⟩ := Option.map_eq_some_iff.1 at_k.symm
  exact ⟨t, found', (Prod.ext_iff.1 eq).1, (Prod.ext_iff.1 eq).2⟩

theorem Nested.congr {first second : List Scope} (same : skeleton first = skeleton second)
    (h : Nested first) : Nested second where
  earlier found parent := by
    obtain ⟨s, found', parent', -⟩ := exists_of_skeleton same.symm found
    exact h.earlier found' (parent'.trans parent)
  bounded found parent at_p deadline := by
    obtain ⟨s, found', parent', deadline'⟩ := exists_of_skeleton same.symm found
    obtain ⟨t, at_p', -, deadline''⟩ := exists_of_skeleton same.symm at_p
    rw [← deadline']
    exact h.bounded found' (parent'.trans parent) at_p' (deadline''.trans deadline)

/-- A deadline bounds those of all scopes below. -/
theorem Nested.deadline_le_of_within (h : Nested scopes) (at_a : scopes[a]? = some s)
    {d : Instant} (deadline : s.deadline = some d) (within : Within scopes a k)
    (at_k : scopes[k]? = some t) : ∃ e, t.deadline = some e ∧ e.millis ≤ d.millis := by
  induction within generalizing t with
  | self =>
    rw [at_a, Option.some.injEq] at at_k
    exact ⟨d, at_k ▸ deadline, Int.le_refl _⟩
  | @child k p u found parent _ ih =>
    rw [found, Option.some.injEq] at at_k
    subst at_k
    have before := h.earlier found parent
    have inside := (List.getElem?_eq_some_iff.1 found).1
    have at_p := List.getElem?_eq_getElem (Nat.lt_trans before inside)
    obtain ⟨e, deadline', le⟩ := ih at_p
    obtain ⟨e', deadline'', le'⟩ := h.bounded found parent at_p deadline'
    exact ⟨e', deadline'', Int.le_trans le' le⟩

/-- Nothing lies below the last scope. -/
theorem Nested.eq_of_within_last (h : Nested scopes) (last : scopes.length = n + 1)
    (within : Within scopes n k) : k = n := by
  induction within with
  | self => rfl
  | child found parent _ ih =>
    have before := h.earlier found parent
    have inside := (List.getElem?_eq_some_iff.1 found).1
    omega

/-- The tree is in order: its scopes are nested, and no cascade is under way. -/
structure InOrder (tree : ScopeTree) : Prop where
  nested : Nested tree.scopes
  cascading : Cascading [] [] tree.scopes

theorem inOrder_empty : empty.InOrder where
  nested := ⟨fun found => by simp [empty] at found, fun found => by simp [empty] at found⟩
  cascading := by constructor <;> simp [empty]

/-! ## Cancellation -/

theorem InOrder.cancel {tree : ScopeTree} (h : tree.InOrder) (id : Nat) (reason : Reason) :
    (tree.cancel id reason).InOrder where
  nested := h.nested.congr skeleton_cancelAll.symm
  cascading := (h.cascading.mono (List.nil_subset [id])).cancelAll

theorem skeleton_cancel (tree : ScopeTree) (id : Nat) (reason : Reason) :
    skeleton (tree.cancel id reason).scopes = skeleton tree.scopes :=
  skeleton_cancelAll

open Classical in
/-- A cancellation gives its reason to the scopes at or below the cancelled one that have none. -/
theorem reasonAt_cancel {tree : ScopeTree} (h : tree.InOrder) (inside : id < tree.scopes.length)
    (k : Nat) :
    reasonAt (tree.cancel id reason).scopes k =
      (reasonAt tree.scopes k).or (if Within tree.scopes id k then some reason else none) := by
  rw [ScopeTree.cancel, reasonAt_cancelAll (h.cascading.mono (List.nil_subset [id])) (by simpa)]
  simp

/-- After a cancellation those are cancelled who were before, or lie at or below the cancelled
    scope. -/
theorem reasonAt_cancel_ne_none (reason : Reason) {tree : ScopeTree} (h : tree.InOrder)
    (inside : id < tree.scopes.length) (k : Nat) :
    reasonAt (tree.cancel id reason).scopes k ≠ none ↔
      reasonAt tree.scopes k ≠ none ∨ Within tree.scopes id k := by
  rw [reasonAt_cancel h inside]
  by_cases below : Within tree.scopes id k
  · simp [below]
  · simp [below]

/-- A cascade that starts from the last scope ends with it. -/
theorem reasonAt_cancelAll_last (h : Cascading [n] untimed scopes) (nested : Nested scopes)
    (last : scopes.length = n + 1) (k : Nat) :
    reasonAt (cancelAll reason [n] scopes) k =
      if k = n then (reasonAt scopes n).or (some reason) else reasonAt scopes k := by
  have inside : ∀ a ∈ [n], a < scopes.length := by
    intro a mem
    rw [List.mem_singleton.1 mem, last]
    exact Nat.lt_succ_self n
  rw [reasonAt_cancelAll h inside]
  by_cases at_n : k = n
  · subst at_n
    rw [if_pos ⟨k, List.mem_singleton_self k, .self⟩, if_pos rfl]
  · have apart : ¬∃ a ∈ [n], Within scopes a k := by
      rintro ⟨a, mem, within⟩
      rw [List.mem_singleton.1 mem] at within
      exact at_n (nested.eq_of_within_last last within)
    rw [if_neg apart, Option.or_none, if_neg at_n]

/-! ## Creation -/

theorem getElem?_concat {α : Type} (l : List α) (last : α) (k : Nat) :
    (l ++ [last])[k]? = if k = l.length then some last else l[k]? := by
  rcases Nat.lt_trichotomy k l.length with inside | rfl | outside
  · rw [List.getElem?_append_left inside, if_neg (Nat.ne_of_lt inside)]
  · rw [List.getElem?_concat_length, if_pos rfl]
  · have outside' : (l ++ [last]).length ≤ k := by
      rw [List.length_append]
      exact outside
    rw [List.getElem?_eq_none outside', if_neg (Nat.ne_of_gt outside),
      List.getElem?_eq_none (Nat.le_of_lt outside)]

theorem skeleton_concat_fresh (scopes : List Scope) (parent : Option Nat)
    (deadline : Option Instant) :
    skeleton (scopes ++ [Scope.fresh parent deadline]) =
      skeleton scopes ++ [(parent, deadline)] := by
  rw [skeleton, List.map_append]
  rfl

theorem length_of_skeleton_concat {new : List Scope}
    (more : skeleton new = skeleton scopes ++ [(parent, deadline)]) :
    new.length = scopes.length + 1 := by
  rw [← length_skeleton new, more, List.length_append, length_skeleton]
  rfl

theorem map_getElem?_of_skeleton_concat {new : List Scope}
    (more : skeleton new = skeleton scopes ++ [(parent, deadline)]) (k : Nat) :
    new[k]?.map (fun s => (s.parent, s.deadline)) =
      if k = scopes.length then some (parent, deadline) else
        scopes[k]?.map fun s => (s.parent, s.deadline) := by
  have at_k : (skeleton new)[k]? = (skeleton scopes ++ [(parent, deadline)])[k]? := by rw [more]
  rw [getElem?_concat, length_skeleton, skeleton, skeleton, List.getElem?_map,
    List.getElem?_map] at at_k
  exact at_k

/-- A scope there is can be the parent of another one. -/
theorem before_of_some (inside : p < n) : ∀ q, some p = some q → q < n := by
  rintro q ⟨⟩
  exact inside

/-- A parent and a deadline a scope can be created with. -/
structure Fits (parent : Option Nat) (deadline : Option Instant) (scopes : List Scope) : Prop where
  before : ∀ p, parent = some p → p < scopes.length
  bounded : ∀ p t d, parent = some p → scopes[p]? = some t → t.deadline = some d →
    ∃ e, deadline = some e ∧ e.millis ≤ d.millis

theorem Nested.append (h : Nested scopes) (fits : Fits parent deadline scopes) :
    Nested (scopes ++ [Scope.fresh parent deadline]) where
  earlier found parent' := by
    rw [getElem?_concat] at found
    split at found
    · next last =>
      cases found
      exact last ▸ fits.before _ parent'
    · exact h.earlier found parent'
  bounded {k p u t d} found parent' at_p deadline' := by
    have inside : p < scopes.length := by
      rw [getElem?_concat] at found
      split at found
      · cases found
        exact fits.before _ parent'
      · exact Nat.lt_trans (h.earlier found parent') (List.getElem?_eq_some_iff.1 found).1
    rw [List.getElem?_append_left inside] at at_p
    rw [getElem?_concat] at found
    split at found
    · cases found
      exact fits.bounded p t d parent' at_p deadline'
    · exact h.bounded found parent' at_p deadline'

theorem Nested.of_skeleton_concat {new : List Scope} (h : Nested scopes)
    (fits : Fits parent deadline scopes)
    (more : skeleton new = skeleton scopes ++ [(parent, deadline)]) : Nested new :=
  (h.append fits).congr ((skeleton_concat_fresh scopes parent deadline).trans more.symm)

/-- The deadline of a new scope is capped by that of its parent. -/
theorem fits_earlier (tree : ScopeTree) (own : Option Instant)
    (before : ∀ p, parent = some p → p < tree.scopes.length) :
    Fits parent (earlier (tree.deadlineOf parent) own) tree.scopes where
  before := before
  bounded p t d parent' at_p deadline' := by
    have capped : tree.deadlineOf parent = some d := by
      simp [deadlineOf, parent', get?, at_p, deadline']
    rw [capped]
    cases own with
    | none => exact ⟨d, rfl, Int.le_refl _⟩
    | some o =>
      simp only [earlier]
      split
      · exact ⟨d, rfl, Int.le_refl _⟩
      · next not_lt => exact ⟨o, rfl, Int.not_lt.1 not_lt⟩

namespace Cascading

/-- A pending scope that has no cancelled parent needs not be pending. -/
theorem spare (h : Cascading (id :: rest) untimed scopes)
    (fine : ∀ {s p t}, scopes[id]? = some s → s.parent = some p → scopes[p]? = some t →
      t.reason = none) : Cascading rest untimed scopes := by
  refine { h with pursued := fun {k p s t} found parent at_p dead live => ?_ }
  rcases List.mem_cons.1 (h.pursued found parent at_p dead live) with rfl | mem
  · exact absurd (fine found parent at_p) dead
  · exact mem

/-- An untimed scope whose timer runs, or needs not run, is timed. -/
theorem timed (h : Cascading pending (id :: rest) scopes)
    (fine : ∀ {s}, scopes[id]? = some s → s.reason = none → s.deadline ≠ none →
      s.timer = true) : Cascading pending rest scopes := by
  refine { h with timer := fun {k s} found live deadline => ?_ }
  rcases h.timer found live deadline with running | mem
  · exact .inl running
  · rcases List.mem_cons.1 mem with rfl | mem
    · exact .inl (fine found live deadline)
    · exact .inr mem

end Cascading

/-- `new` is `scopes` and a fresh scope, which is a child of its parent if that is live. -/
def Enlisted (parent : Option Nat) (deadline : Option Instant) (scopes new : List Scope) : Prop :=
  ∀ k, new[k]? = if k = scopes.length then some (Scope.fresh parent deadline) else
    scopes[k]?.map fun t =>
      if parent = some k ∧ t.reason = none then
        { t with children := t.children ++ [scopes.length] } else t

namespace Enlisted

variable {new : List Scope}

theorem cases_of_getElem? (h : Enlisted parent deadline scopes new) (found : new[k]? = some t) :
    (k = scopes.length ∧ t = Scope.fresh parent deadline) ∨
      (k < scopes.length ∧ ∃ u, scopes[k]? = some u ∧ t = { u with
        children := if parent = some k ∧ u.reason = none then u.children ++ [scopes.length]
          else u.children }) := by
  rw [h k] at found
  split at found
  · next last => exact .inl ⟨last, (Option.some.inj found).symm⟩
  · obtain ⟨u, was, rfl⟩ := Option.map_eq_some_iff.1 found
    refine .inr ⟨(List.getElem?_eq_some_iff.1 was).1, u, was, ?_⟩
    split <;> rfl

theorem liveChild_iff (h : Enlisted parent deadline scopes new) (k c : Nat) :
    LiveChild new k c ↔ LiveChild scopes k c ∨ (c = scopes.length ∧ parent = some k) := by
  constructor
  · rintro ⟨t, found, parent', live⟩
    obtain ⟨rfl, rfl⟩ | ⟨-, u, was, rfl⟩ := h.cases_of_getElem? found
    · exact .inr ⟨rfl, parent'⟩
    · exact .inl ⟨u, was, parent', live⟩
  · rintro (⟨t, found, parent', live⟩ | ⟨rfl, parent'⟩)
    · have before := (List.getElem?_eq_some_iff.1 found).1
      refine ⟨_, by rw [h c, if_neg (Nat.ne_of_lt before), found]; rfl, ?_⟩
      dsimp only
      split <;> exact ⟨parent', live⟩
    · exact ⟨_, by rw [h, if_pos rfl], parent', rfl⟩

/-- After its creation a scope is pending and untimed. -/
theorem cascading (h : Enlisted parent deadline scopes new) (nested : Nested scopes)
    (fits : Fits parent deadline scopes) (order : Cascading [] [] scopes) :
    Cascading [scopes.length] [scopes.length] new where
  signalled found := by
    obtain ⟨rfl, rfl⟩ | ⟨-, u, was, rfl⟩ := h.cases_of_getElem? found
    · simp [Scope.fresh]
    · exact (order.signalled was :)
  of_timer found running := by
    obtain ⟨rfl, rfl⟩ | ⟨-, u, was, rfl⟩ := h.cases_of_getElem? found
    · exact absurd running Bool.false_ne_true
    · exact (order.of_timer was :) running
  timer found live timed := by
    obtain ⟨rfl, rfl⟩ | ⟨-, u, was, rfl⟩ := h.cases_of_getElem? found
    · exact .inr List.mem_cons_self
    · exact .inl (((order.timer was :) live timed).resolve_right List.not_mem_nil)
  emptied found dead := by
    obtain ⟨rfl, rfl⟩ | ⟨-, u, was, rfl⟩ := h.cases_of_getElem? found
    · rfl
    · have dead : u.reason ≠ none := dead
      simp [dead, order.emptied was dead]
  nodup found := by
    obtain ⟨rfl, rfl⟩ | ⟨-, u, was, rfl⟩ := h.cases_of_getElem? found
    · exact List.nodup_nil
    · dsimp only
      split
      · next enlists =>
        refine List.nodup_append.2 ⟨order.nodup was, by simp, fun c mem d single => ?_⟩
        obtain ⟨t, at_c, -⟩ := (order.attached was enlists.2 c).1 mem
        have inside := (List.getElem?_eq_some_iff.1 at_c).1
        exact List.mem_singleton.1 single ▸ Nat.ne_of_lt inside
      · exact order.nodup was
  attached {k t} found live c := by
    rw [h.liveChild_iff]
    obtain ⟨rfl, rfl⟩ | ⟨-, u, was, rfl⟩ := h.cases_of_getElem? found
    · -- Nothing has been created below the new scope.
      refine ⟨fun mem => absurd mem List.not_mem_nil, ?_⟩
      rintro (⟨t, at_c, parent', -⟩ | ⟨-, parent'⟩)
      · have inside := (List.getElem?_eq_some_iff.1 at_c).1
        exact absurd (nested.earlier at_c parent') (Nat.lt_asymm inside)
      · exact absurd (fits.before _ parent') (Nat.lt_irrefl _)
    · have live : u.reason = none := live
      rw [← order.attached was live c]
      dsimp only
      split
      · next enlists => simp [enlists.1]
      · next other =>
        have other : parent ≠ some k := fun eq => other ⟨eq, live⟩
        simp [other]
  pursued found parent' at_p dead live := by
    obtain ⟨rfl, rfl⟩ | ⟨-, u, was, rfl⟩ := h.cases_of_getElem? found
    · exact List.mem_cons_self
    · obtain ⟨rfl, rfl⟩ | ⟨-, v, was_p, rfl⟩ := h.cases_of_getElem? at_p
      · exact absurd rfl dead
      · exact absurd (order.pursued was parent' was_p dead live) List.not_mem_nil

theorem skeleton_eq (h : Enlisted parent deadline scopes new) :
    skeleton new = skeleton scopes ++ [(parent, deadline)] := by
  refine List.ext_getElem?_iff.2 fun k => ?_
  rw [getElem?_concat, length_skeleton, skeleton, List.getElem?_map, h k]
  split
  · rfl
  · rw [skeleton, List.getElem?_map, Option.map_map]
    congr 1
    funext t
    dsimp only [Function.comp]
    split <;> rfl

theorem reasonAt_eq (h : Enlisted parent deadline scopes new) (k : Nat) :
    reasonAt new k = reasonAt scopes k := by
  rw [reasonAt, h k]
  split
  · next last => simp [last, reasonAt, Scope.fresh]
  · rw [Option.bind_map, reasonAt]
    congr 1
    funext t
    dsimp only [Function.comp]
    split <;> rfl

end Enlisted

/-- A scope without a live parent is nobody's child. -/
theorem enlisted_append (deadline : Option Instant)
    (dead : ∀ p s, parent = some p → scopes[p]? = some s → s.reason ≠ none) :
    Enlisted parent deadline scopes (scopes ++ [Scope.fresh parent deadline]) := by
  intro k
  rw [getElem?_concat]
  split
  · rfl
  · cases found : scopes[k]? with
    | none => rfl
    | some s =>
      have other : ¬(parent = some k ∧ s.reason = none) := fun h => dead k s h.1 found h.2
      simp [other]

theorem enlisted_modify (deadline : Option Instant) (found : scopes[p]? = some s)
    (live : s.reason = none) :
    Enlisted (some p) deadline scopes ((scopes ++ [Scope.fresh (some p) deadline]).modify p
      fun s => { s with children := s.children ++ [scopes.length] }) := by
  intro k
  have inside := (List.getElem?_eq_some_iff.1 found).1
  rw [List.getElem?_modify, getElem?_concat]
  by_cases at_k : p = k
  · subst at_k
    simp [Nat.ne_of_lt inside, found, live]
  · simp [at_k]

/-- The scopes after the creation of another one, as long as its deadline is not looked at: it is
    a child of its parent if that is live, and else cancelled. -/
def Attached (parent : Option Nat) (deadline : Option Instant) (scopes after : List Scope) : Prop :=
  ∃ new, Enlisted parent deadline scopes new ∧
    match parent.bind (reasonAt scopes) with
    | none => after = new
    | some reason => after = cancelAll reason [scopes.length] new

theorem attached_attach (deadline : Option Instant)
    (before : ∀ p, parent = some p → p < scopes.length) :
    Attached parent deadline scopes
      (attach ⟨scopes ++ [Scope.fresh parent deadline]⟩ parent scopes.length).scopes := by
  cases parent with
  | none => exact ⟨_, enlisted_append deadline (by simp), rfl⟩
  | some p =>
    have inside := before p rfl
    have found := List.getElem?_eq_getElem inside
    have at_p : (ScopeTree.mk (scopes ++ [Scope.fresh (some p) deadline])).get? p =
        some scopes[p] := by
      rw [get?, getElem?_concat, if_neg (Nat.ne_of_lt inside), found]
    rw [Attached, Option.bind_some, reasonAt_of_getElem? found]
    simp only [attach, at_p]
    cases why : scopes[p].reason with
    | none => exact ⟨_, enlisted_modify deadline found why, rfl⟩
    | some reason =>
      refine ⟨_, enlisted_append deadline ?_, rfl⟩
      rintro q s eq at_q
      rw [← Option.some.inj eq, found, Option.some.injEq] at at_q
      simp [← at_q, why]

namespace Attached

variable {after : List Scope}

theorem skeleton_eq (h : Attached parent deadline scopes after) :
    skeleton after = skeleton scopes ++ [(parent, deadline)] := by
  obtain ⟨new, enlisted, h⟩ := h
  split at h
  · exact h ▸ enlisted.skeleton_eq
  · exact h ▸ skeleton_cancelAll.trans enlisted.skeleton_eq

theorem nested (h : Attached parent deadline scopes after) (nested : Nested scopes)
    (fits : Fits parent deadline scopes) : Nested after :=
  nested.of_skeleton_concat fits h.skeleton_eq

/-- After its attachment a scope is untimed. -/
theorem cascading (h : Attached parent deadline scopes after) (nested : Nested scopes)
    (fits : Fits parent deadline scopes) (order : Cascading [] [] scopes) :
    Cascading [] [scopes.length] after := by
  obtain ⟨new, enlisted, h⟩ := h
  have pending := enlisted.cascading nested fits order
  split at h
  · next live =>
    subst h
    refine pending.spare fun {s p t} found parent' at_p => ?_
    obtain ⟨-, rfl⟩ | ⟨inside, -⟩ := enlisted.cases_of_getElem? found
    · have parent' : parent = some p := parent'
      rw [parent', Option.bind_some, ← enlisted.reasonAt_eq, reasonAt_of_getElem? at_p] at live
      exact live
    · exact absurd inside (Nat.lt_irrefl _)
  · exact h ▸ pending.cancelAll

/-- A new scope takes the reason of its parent. -/
theorem reasonAt_eq (h : Attached parent deadline scopes after) (nested : Nested scopes)
    (fits : Fits parent deadline scopes) (order : Cascading [] [] scopes) (k : Nat) :
    reasonAt after k =
      if k = scopes.length then parent.bind (reasonAt scopes) else reasonAt scopes k := by
  have beyond : reasonAt scopes scopes.length = none := by simp [reasonAt]
  obtain ⟨new, enlisted, h⟩ := h
  have length : new.length = scopes.length + 1 := length_of_skeleton_concat enlisted.skeleton_eq
  have nested' : Nested new := nested.of_skeleton_concat fits enlisted.skeleton_eq
  split at h
  · next live =>
    rw [h, enlisted.reasonAt_eq, live]
    split
    · next last => rw [last, beyond]
    · rfl
  · next reason why =>
    have pending := enlisted.cascading nested fits order
    rw [h, reasonAt_cancelAll_last pending nested' length, enlisted.reasonAt_eq, beyond,
      enlisted.reasonAt_eq, why, Option.none_or]

end Attached

/-- Starting the timer of a scope changes nothing else, unless the deadline has passed: then the
    scope is cancelled. -/
theorem startTimer_cases (tree : ScopeTree) (id : Nat) (now : Int) (found : tree.get? id = some s) :
    (s.isDue now = true ∧ tree.startTimer id now = tree.cancel id .deadlineExceeded) ∨
      (s.isDue now = false ∧ s.deadline ≠ none ∧ s.reason = none ∧
        tree.startTimer id now = tree.modify id fun s => { s with timer := true }) ∨
      (s.isDue now = false ∧ (s.deadline = none ∨ s.reason ≠ none) ∧
        tree.startTimer id now = tree) := by
  simp only [startTimer, found]
  cases deadline : s.deadline with
  | none => simp [Scope.isDue, deadline]
  | some d =>
    simp only [Option.isNone_some, Bool.false_eq_true, if_false]
    split
    · next due => exact .inl ⟨due, rfl⟩
    · next not_due =>
      split
      · next live =>
        exact .inr (.inl ⟨Bool.eq_false_iff.2 not_due, by simp, Scope.isLive_iff.1 live, rfl⟩)
      · next dead =>
        exact .inr (.inr ⟨Bool.eq_false_iff.2 not_due,
          .inr fun live => dead (Scope.isLive_iff.2 live), rfl⟩)

/-- `t` is `s` with its children in another order, or with its timer started. -/
structure Retouched (s t : Scope) : Prop where
  parent : t.parent = s.parent
  deadline : t.deadline = s.deadline
  reason : t.reason = s.reason
  signalled : t.signalled = s.signalled
  children : t.children.Perm s.children
  timer : t.timer = s.timer ∨ (t.timer = true ∧ s.reason = none ∧ s.deadline ≠ none)

theorem Retouched.refl (s : Scope) : Retouched s s :=
  ⟨rfl, rfl, rfl, rfl, .refl _, .inl rfl⟩

section Modify

variable {f : Scope → Scope} (retouched : ∀ s, scopes[id]? = some s → Retouched s (f s))
include retouched

theorem exists_of_getElem?_modify (found : (scopes.modify id f)[k]? = some t) :
    ∃ u, scopes[k]? = some u ∧ Retouched u t := by
  rw [List.getElem?_modify] at found
  obtain ⟨u, was, rfl⟩ := Option.map_eq_some_iff.1 found
  refine ⟨u, was, ?_⟩
  split
  · next at_id => exact retouched u (at_id ▸ was)
  · exact .refl u

theorem exists_getElem?_modify (found : scopes[k]? = some s) :
    ∃ t, (scopes.modify id f)[k]? = some t ∧ Retouched s t := by
  refine ⟨_, by rw [List.getElem?_modify, found]; rfl, ?_⟩
  split
  · next at_id => exact retouched s (at_id ▸ found)
  · exact .refl s

theorem skeleton_modify : skeleton (scopes.modify id f) = skeleton scopes := by
  refine skeleton_eq_iff.2 fun k => ?_
  cases found : scopes[k]? with
  | none => rw [List.getElem?_modify, found]; rfl
  | some s =>
    obtain ⟨t, found', same⟩ := exists_getElem?_modify retouched found
    simp [found', same.parent, same.deadline]

theorem reasonAt_modify (k : Nat) : reasonAt (scopes.modify id f) k = reasonAt scopes k := by
  cases found : scopes[k]? with
  | none => rw [reasonAt, List.getElem?_modify, reasonAt, found]; rfl
  | some s =>
    obtain ⟨t, found', same⟩ := exists_getElem?_modify retouched found
    rw [reasonAt_of_getElem? found', reasonAt_of_getElem? found, same.reason]

theorem liveChild_modify (k c : Nat) :
    LiveChild (scopes.modify id f) k c ↔ LiveChild scopes k c := by
  constructor
  · rintro ⟨t, found, parent, live⟩
    obtain ⟨u, was, same⟩ := exists_of_getElem?_modify retouched found
    exact ⟨u, was, same.parent ▸ parent, same.reason ▸ live⟩
  · rintro ⟨s, found, parent, live⟩
    obtain ⟨t, found', same⟩ := exists_getElem?_modify retouched found
    exact ⟨t, found', same.parent.trans parent, same.reason.trans live⟩

theorem Cascading.modify (h : Cascading pending untimed scopes) :
    Cascading pending untimed (scopes.modify id f) where
  signalled found := by
    obtain ⟨u, was, same⟩ := exists_of_getElem?_modify retouched found
    rw [same.signalled, same.reason]
    exact h.signalled was
  of_timer found running := by
    obtain ⟨u, was, same⟩ := exists_of_getElem?_modify retouched found
    rw [same.reason, same.deadline]
    rcases same.timer with eq | ⟨-, started⟩
    · exact h.of_timer was (eq ▸ running)
    · exact started
  timer found live timed := by
    obtain ⟨u, was, same⟩ := exists_of_getElem?_modify retouched found
    rcases same.timer with eq | ⟨running, -⟩
    · exact eq ▸ h.timer was (same.reason ▸ live) (same.deadline ▸ timed)
    · exact .inl running
  emptied found dead := by
    obtain ⟨u, was, same⟩ := exists_of_getElem?_modify retouched found
    exact List.perm_nil.1 (h.emptied was (same.reason ▸ dead) ▸ same.children)
  nodup found := by
    obtain ⟨u, was, same⟩ := exists_of_getElem?_modify retouched found
    exact same.children.nodup_iff.2 (h.nodup was)
  attached found live c := by
    obtain ⟨u, was, same⟩ := exists_of_getElem?_modify retouched found
    rw [same.children.mem_iff, liveChild_modify retouched]
    exact h.attached was (same.reason ▸ live) c
  pursued found parent at_p dead live := by
    obtain ⟨u, was, same⟩ := exists_of_getElem?_modify retouched found
    obtain ⟨v, was_p, same_p⟩ := exists_of_getElem?_modify retouched at_p
    exact h.pursued was (same.parent ▸ parent) was_p (same_p.reason ▸ dead) (same.reason ▸ live)

end Modify

/-- Starting the timer of a live scope with a deadline. -/
theorem retouched_timer (found : scopes[id]? = some s) (live : s.reason = none)
    (deadline : s.deadline ≠ none) (u : Scope) (found' : scopes[id]? = some u) :
    Retouched u { u with timer := true } := by
  obtain rfl : s = u := Option.some.inj (found.symm.trans found')
  exact ⟨rfl, rfl, rfl, rfl, .refl _, .inr ⟨rfl, live, deadline⟩⟩

/-- Once its timer is started, or it is cancelled, a new scope is in order. -/
theorem Cascading.startTimer {tree : ScopeTree} (h : Cascading [] [id] tree.scopes) (now : Int) :
    Cascading [] [] (tree.startTimer id now).scopes := by
  cases found : tree.get? id with
  | none =>
    have unchanged : tree.startTimer id now = tree := by simp only [ScopeTree.startTimer, found]
    rw [unchanged]
    exact h.timed fun {s} found' => by simp [get?] at found; simp [found] at found'
  | some s =>
    rcases startTimer_cases tree id now found with
      ⟨-, eq⟩ | ⟨-, deadline, live, eq⟩ | ⟨-, needless, eq⟩
    · -- Its deadline has passed: it is cancelled, and needs no timer.
      rw [eq]
      refine (h.mono (List.nil_subset [id])).cancelAll.timed fun {t} found' live' => ?_
      have inside : id < tree.scopes.length := (List.getElem?_eq_some_iff.1 found).1
      have dead := reasonAt_cancelAll_ne_none .deadlineExceeded (List.mem_singleton_self id) inside
      exact absurd live' (reasonAt_of_getElem? found' ▸ dead)
    · -- Its timer runs from now on.
      rw [eq]
      refine (Cascading.modify (retouched_timer found live deadline) h).timed
        fun {t} found' live' _ => ?_
      rw [List.getElem?_modify_eq] at found'
      obtain ⟨u, -, rfl⟩ := Option.map_eq_some_iff.1 found'
      rfl
    · -- It has no deadline or was cancelled on creation.
      rw [eq]
      refine h.timed fun {t} found' live' deadline' => ?_
      obtain rfl : s = t := Option.some.inj (found.symm.trans found')
      exact needless.elim (absurd · deadline') (absurd live' ·)

theorem skeleton_startTimer (tree : ScopeTree) (id : Nat) (now : Int) :
    skeleton (tree.startTimer id now).scopes = skeleton tree.scopes := by
  cases found : tree.get? id with
  | none => simp only [startTimer, found]
  | some s =>
    rcases startTimer_cases tree id now found with
      ⟨-, eq⟩ | ⟨-, deadline, live, eq⟩ | ⟨-, -, eq⟩
    · rw [eq]
      exact skeleton_cancelAll
    · rw [eq]
      exact skeleton_modify (retouched_timer found live deadline)
    · rw [eq]

/-- The scopes a creation leads to, before the deadline of the new one is looked at. -/
theorem create_fst (tree : ScopeTree) (parent : Option Nat) (own : Option Instant) (now : Int)
    (before : ∀ p, parent = some p → p < tree.scopes.length) :
    ∃ attached : ScopeTree,
      Attached parent (earlier (tree.deadlineOf parent) own) tree.scopes attached.scopes ∧
      (tree.create parent own now).1 = attached.startTimer tree.scopes.length now :=
  ⟨_, attached_attach _ before, rfl⟩

variable {tree : ScopeTree} {own : Option Instant}

theorem skeleton_create (before : ∀ p, parent = some p → p < tree.scopes.length) :
    skeleton (tree.create parent own now).1.scopes =
      skeleton tree.scopes ++ [(parent, earlier (tree.deadlineOf parent) own)] := by
  obtain ⟨attached, h, eq⟩ := create_fst tree parent own now before
  rw [eq, skeleton_startTimer, h.skeleton_eq]

theorem length_create (before : ∀ p, parent = some p → p < tree.scopes.length) :
    (tree.create parent own now).1.scopes.length = tree.scopes.length + 1 :=
  length_of_skeleton_concat (skeleton_create before)

theorem InOrder.create (h : tree.InOrder) (before : ∀ p, parent = some p → p < tree.scopes.length)
    (own : Option Instant) (now : Int) : (tree.create parent own now).1.InOrder := by
  obtain ⟨attached, h', eq⟩ := create_fst tree parent own now before
  have fits := fits_earlier tree own before
  rw [eq]
  exact ⟨(h'.nested h.nested fits).congr (skeleton_startTimer attached _ now).symm,
    (h'.cascading h.nested fits h.cascading).startTimer now⟩

/-- A new scope takes the reason of its parent, or is cancelled if its deadline has passed; the
    other scopes keep theirs. -/
theorem reasonAt_create (h : tree.InOrder) (before : ∀ p, parent = some p → p < tree.scopes.length)
    (k : Nat) :
    reasonAt (tree.create parent own now).1.scopes k =
      if k = tree.scopes.length then
        (parent.bind (reasonAt tree.scopes)).or
          (if (Scope.fresh parent (earlier (tree.deadlineOf parent) own)).isDue now then
            some .deadlineExceeded else none)
      else reasonAt tree.scopes k := by
  obtain ⟨attached, h', eq⟩ := create_fst tree parent own now before
  have fits := fits_earlier tree own before
  have nested := h'.nested h.nested fits
  have reasons := h'.reasonAt_eq h.nested fits h.cascading
  have length : attached.scopes.length = tree.scopes.length + 1 :=
    length_of_skeleton_concat h'.skeleton_eq
  have inside : tree.scopes.length < attached.scopes.length := by omega
  have found := List.getElem?_eq_getElem inside
  generalize attached.scopes[tree.scopes.length] = s at found
  -- Its deadline is still the one it was created with.
  have due : s.isDue now =
      (Scope.fresh parent (earlier (tree.deadlineOf parent) own)).isDue now := by
    have at_last := map_getElem?_of_skeleton_concat h'.skeleton_eq tree.scopes.length
    rw [found, if_pos rfl, Option.map_some, Option.some.injEq] at at_last
    simp only [Scope.isDue, Scope.fresh, (Prod.mk.inj at_last).2]
  rw [eq, ← due]
  rcases startTimer_cases attached tree.scopes.length now found with
    ⟨due, eq⟩ | ⟨not_due, deadline, live, eq⟩ | ⟨not_due, -, eq⟩
  · have pending := (h'.cascading h.nested fits h.cascading).mono
      (List.nil_subset [tree.scopes.length])
    rw [eq, ScopeTree.cancel, reasonAt_cancelAll_last pending nested length, reasons, reasons, due,
      if_pos rfl, if_pos rfl]
    split <;> rfl
  · rw [eq]
    simp only [ScopeTree.modify]
    rw [reasonAt_modify (retouched_timer found live deadline), reasons, not_due]
    simp
  · rw [eq, reasons, not_due]
    simp

/-! ## Descent after a creation -/

section Descent

variable {old new : List Scope} (more : skeleton new = skeleton old ++ [(parent, deadline)])
include more

theorem deadlineOf_concat (k : Nat) :
    deadlineOf ⟨new⟩ (some k) =
      if k = old.length then deadline else deadlineOf ⟨old⟩ (some k) := by
  have at_k := congrArg (Option.bind · Prod.snd) (map_getElem?_of_skeleton_concat more k)
  simp only [Option.bind_map, Function.comp_def] at at_k
  rw [deadlineOf, Option.bind_some, get?, at_k]
  split
  · rfl
  · rw [Option.bind_map]
    rfl

/-- Nothing changes above the scopes there were before. -/
theorem within_old (nested : Nested old) (inside : k < old.length) :
    Within new a k ↔ Within old a k := by
  constructor
  · -- The way up from an old scope passes old scopes only.
    intro within
    induction within with
    | self => exact .self
    | @child k p s found parent' _ ih =>
      have at_k := map_getElem?_of_skeleton_concat more k
      rw [found, if_neg (Nat.ne_of_lt inside)] at at_k
      obtain ⟨t, was, eq⟩ := Option.map_eq_some_iff.1 at_k.symm
      have parent'' : t.parent = some p := (Prod.ext_iff.1 eq).1.trans parent'
      exact .child was parent'' (ih (Nat.lt_trans (nested.earlier was parent'') inside))
  · intro within
    induction within with
    | self => exact .self
    | @child k p s found parent' _ ih =>
      have at_k := map_getElem?_of_skeleton_concat more k
      rw [found, if_neg (Nat.ne_of_lt inside)] at at_k
      obtain ⟨t, now, eq⟩ := Option.map_eq_some_iff.1 at_k
      exact .child now ((Prod.ext_iff.1 eq).1.trans parent')
        (ih (Nat.lt_trans (nested.earlier found parent') inside))

/-- Above the new scope is its parent, and what is above that. -/
theorem within_new (nested : Nested old) (before : ∀ p, parent = some p → p < old.length) :
    Within new a old.length ↔ a = old.length ∨ ∃ p, parent = some p ∧ Within old a p := by
  have at_last := map_getElem?_of_skeleton_concat more old.length
  rw [if_pos rfl] at at_last
  obtain ⟨s, found, eq⟩ := Option.map_eq_some_iff.1 at_last
  have parent' : s.parent = parent := (Prod.ext_iff.1 eq).1
  constructor
  · intro within
    cases within with
    | self => exact .inl rfl
    | child found' parent'' above =>
      obtain rfl : s = _ := Option.some.inj (found.symm.trans found')
      have eq := parent'.symm.trans parent''
      exact .inr ⟨_, eq, (within_old more nested (before _ eq)).1 above⟩
  · rintro (rfl | ⟨p, eq, above⟩)
    · exact .self
    · exact .child found (parent'.trans eq) ((within_old more nested (before p eq)).2 above)

end Descent

/-! ## Deadlines and timers -/

theorem InOrder.refresh (h : tree.InOrder) (id : Nat) (now : Int) :
    (tree.refresh id now).InOrder := by
  rw [ScopeTree.refresh]
  split
  · exact h
  · split
    · exact h.cancel _ _
    · exact h

theorem skeleton_refresh (tree : ScopeTree) (id : Nat) (now : Int) :
    skeleton (tree.refresh id now).scopes = skeleton tree.scopes := by
  rw [refresh]
  split
  · rfl
  · split
    · exact skeleton_cancel _ _ _
    · rfl

theorem InOrder.fire (h : tree.InOrder) (now : Int) (ids : List Nat) :
    (tree.fire now ids).InOrder := by
  rw [ScopeTree.fire]
  induction ids generalizing tree with
  | nil => exact h
  | cons id ids ih =>
    rw [List.foldl_cons]
    split
    · exact ih (h.cancel _ _)
    · exact ih h

theorem skeleton_fire (tree : ScopeTree) (now : Int) (ids : List Nat) :
    skeleton (tree.fire now ids).scopes = skeleton tree.scopes := by
  rw [fire]
  induction ids generalizing tree with
  | nil => rfl
  | cons id ids ih =>
    rw [List.foldl_cons, ih]
    split
    · exact skeleton_cancel _ _ _
    · rfl

/-! ## The order of children -/

/-- The children of a scope form a set, which may be visited in any order: the tree with those of a
    scope in another order. -/
def arrange (tree : ScopeTree) (id : Nat) (order : List Nat) : ScopeTree :=
  tree.modify id fun s => if order.Perm s.children then { s with children := order } else s

theorem retouched_arrange (order : List Nat) (s : Scope) (_ : scopes[id]? = some s) :
    Retouched s (if order.Perm s.children then { s with children := order } else s) := by
  split
  · next perm => exact ⟨rfl, rfl, rfl, rfl, perm, .inl rfl⟩
  · exact .refl s

theorem skeleton_arrange (tree : ScopeTree) (id : Nat) (order : List Nat) :
    skeleton (tree.arrange id order).scopes = skeleton tree.scopes :=
  skeleton_modify (retouched_arrange order)

theorem InOrder.arrange (h : tree.InOrder) (id : Nat) (order : List Nat) :
    (tree.arrange id order).InOrder where
  nested := h.nested.congr (skeleton_arrange tree id order).symm
  cascading := h.cascading.modify (retouched_arrange order)

end ScopeTree

end InvokeWorker
