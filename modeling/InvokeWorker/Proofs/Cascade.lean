import InvokeWorker.Context.Scope

/-!
# Cascades

The cancellation of a scope works through a list of *pending* scopes. A live one is *struck*: it is
marked as cancelled, is taken off its parent's list, and leaves its children pending in its place.
In between, a live scope can have a cancelled parent, but then it is pending (`Cascading`); once
nothing is pending, whatever lies below a cancelled scope is cancelled.

* `cancelAll_induction`: what skipping and striking a scope keeps, the whole cascade keeps.
* `Cascading.cancelAll`: a cascade that began in order ends with nothing pending.
* `reasonAt_cancelAll`: a cascade gives its reason to exactly those scopes at or below a pending one
  that had none, and changes no reason.
-/

namespace InvokeWorker

theorem Scope.isLive_iff {s : Scope} : s.isLive = true ↔ s.reason = none :=
  Option.isNone_iff_eq_none

namespace ScopeTree

/-! ## Striking a scope -/

theorem getElem?_detach (parent : Option Nat) (child : Nat) (scopes : List Scope) (k : Nat) :
    (detach parent child scopes)[k]? =
      scopes[k]?.map fun t => if parent = some k then t.without child else t := by
  cases parent with
  | none => simp [detach]
  | some p =>
    by_cases at_k : p = k
    · subst at_k
      cases found : scopes[p]? with
      | none => simp [detach, found]
      | some s =>
        obtain ⟨inside, -⟩ := List.getElem?_eq_some_iff.1 found
        simp [detach, found, List.getElem?_set_self inside]
    · cases found : scopes[p]? with
      | none => simp [detach, found, at_k]
      | some s => simp [detach, found, at_k, List.getElem?_set_ne at_k]

/-- The scopes after one of them is cancelled on its own. -/
def strike (reason : Reason) (id : Nat) (s : Scope) (scopes : List Scope) : List Scope :=
  detach s.parent id (scopes.set id (s.cancelled reason))

variable {reason : Reason} {id k p : Nat} {s t : Scope} {scopes : List Scope} {pending : List Nat}

theorem getElem?_strike_self (found : scopes[id]? = some s) :
    (strike reason id s scopes)[id]? = some (s.cancelled reason) := by
  obtain ⟨inside, -⟩ := List.getElem?_eq_some_iff.1 found
  have unchanged : (s.cancelled reason).without id = s.cancelled reason := rfl
  simp [strike, getElem?_detach, inside, unchanged]

theorem getElem?_strike_of_ne (away : id ≠ k) :
    (strike reason id s scopes)[k]? =
      scopes[k]?.map fun t => if s.parent = some k then t.without id else t := by
  rw [strike, getElem?_detach, List.getElem?_set_ne away]

/-- A scope other than the struck one only loses it as a child. -/
theorem cases_of_getElem?_strike (found : scopes[id]? = some s)
    (found' : (strike reason id s scopes)[k]? = some t) :
    (k = id ∧ t = s.cancelled reason) ∨ (k ≠ id ∧ ∃ u, scopes[k]? = some u ∧
      t = { u with
        children := if s.parent = some k then u.children.filter (· ≠ id) else u.children }) := by
  by_cases away : id = k
  · subst away
    rw [getElem?_strike_self found, Option.some.injEq] at found'
    exact .inl ⟨rfl, found'.symm⟩
  · rw [getElem?_strike_of_ne away, Option.map_eq_some_iff] at found'
    obtain ⟨u, at_k, rfl⟩ := found'
    refine .inr ⟨Ne.symm away, u, at_k, ?_⟩
    split <;> rfl

theorem cancelAll_cons_of_live (rest : List Nat) (found : scopes[id]? = some s)
    (live : s.reason = none) :
    cancelAll reason (id :: rest) scopes =
      cancelAll reason (s.children ++ rest) (strike reason id s scopes) := by
  rw [cancelAll]
  split
  · next missing => simp [missing] at found
  · next u found' =>
    obtain rfl : s = u := Option.some.inj (found.symm.trans found')
    exact dif_pos (Scope.isLive_iff.2 live)

theorem cancelAll_cons_of_not_live (rest : List Nat)
    (gone : ∀ s, scopes[id]? = some s → s.reason ≠ none) :
    cancelAll reason (id :: rest) scopes = cancelAll reason rest scopes := by
  rw [cancelAll]
  split
  · rfl
  · next u found => exact dif_neg fun live => gone u found (Scope.isLive_iff.1 live)

/-- What skipping and striking a scope keeps, the whole cascade keeps. -/
theorem cancelAll_induction (reason : Reason) (pending : List Nat) (scopes : List Scope)
    {P : List Nat → List Scope → Prop}
    (skip : ∀ {id rest scopes}, (∀ s, scopes[id]? = some s → s.reason ≠ none) →
      P (id :: rest) scopes → P rest scopes)
    (struck : ∀ {id rest scopes s}, scopes[id]? = some s → s.reason = none →
      P (id :: rest) scopes → P (s.children ++ rest) (strike reason id s scopes))
    (start : P pending scopes) : P [] (cancelAll reason pending scopes) := by
  -- Only a live scope is struck; positions without a scope and cancelled scopes are skipped.
  induction pending, scopes using cancelAll.induct reason with
  | case1 scopes => rwa [cancelAll]
  | case2 scopes id rest missing ih =>
    have gone : ∀ s, scopes[id]? = some s → s.reason ≠ none := by simp [missing]
    rw [cancelAll_cons_of_not_live rest gone]
    exact ih (skip gone start)
  | case3 scopes id rest s found live ih =>
    rw [Scope.isLive_iff] at live
    rw [cancelAll_cons_of_live rest found live]
    exact ih (struck found live start)
  | case4 scopes id rest s found dead ih =>
    have gone : ∀ u, scopes[id]? = some u → u.reason ≠ none := by
      rintro u found' none
      obtain rfl : s = u := Option.some.inj (found.symm.trans found')
      exact dead (Scope.isLive_iff.2 none)
    rw [cancelAll_cons_of_not_live rest gone]
    exact ih (skip gone start)

/-! ## What a cascade leaves alone -/

/-- Parents and deadlines, which a scope is created with and keeps. -/
def skeleton (scopes : List Scope) : List (Option Nat × Option Instant) :=
  scopes.map fun s => (s.parent, s.deadline)

theorem skeleton_eq_iff {first second : List Scope} :
    skeleton first = skeleton second ↔ ∀ k : Nat,
      first[k]?.map (fun s => (s.parent, s.deadline)) =
        second[k]?.map fun s => (s.parent, s.deadline) := by
  simp only [skeleton, ← List.getElem?_map]
  exact List.ext_getElem?_iff

@[simp] theorem length_skeleton (scopes : List Scope) : (skeleton scopes).length = scopes.length :=
  List.length_map _

theorem length_eq_of_skeleton {first second : List Scope}
    (same : skeleton first = skeleton second) : first.length = second.length := by
  rw [← length_skeleton first, same, length_skeleton]

theorem skeleton_strike (found : scopes[id]? = some s) :
    skeleton (strike reason id s scopes) = skeleton scopes := by
  refine skeleton_eq_iff.2 fun k => ?_
  by_cases away : id = k
  · subst away
    rw [getElem?_strike_self found, found]
    rfl
  · rw [getElem?_strike_of_ne away, Option.map_map]
    congr 1
    funext t
    simp only [Function.comp]
    split <;> rfl

theorem skeleton_cancelAll :
    skeleton (cancelAll reason pending scopes) = skeleton scopes :=
  cancelAll_induction reason pending scopes (P := fun _ now => skeleton now = skeleton scopes)
    (fun _ h => h) (fun found _ h => (skeleton_strike found).trans h) rfl

/-- The scope `k` is `a`, or was created below it, directly or further down. -/
inductive Within (scopes : List Scope) (a : Nat) : Nat → Prop
  | self : Within scopes a a
  | child {k p : Nat} {s : Scope} : scopes[k]? = some s → s.parent = some p → Within scopes a p →
      Within scopes a k

theorem Within.congr {first second : List Scope} (same : skeleton first = skeleton second)
    {a k : Nat} (h : Within first a k) : Within second a k := by
  induction h with
  | self => exact .self
  | @child k p s found parent _ ih =>
    have at_k := skeleton_eq_iff.1 same k
    rw [found] at at_k
    obtain ⟨t, found', eq⟩ := Option.map_eq_some_iff.1 at_k.symm
    exact .child found' ((Prod.ext_iff.1 eq).1.trans parent) ih

/-! ## Order during a cascade -/

/-- `c` is a live scope created directly below `k`. -/
def LiveChild (scopes : List Scope) (k c : Nat) : Prop :=
  ∃ t, scopes[c]? = some t ∧ t.parent = some k ∧ t.reason = none

theorem liveChild_strike (found : scopes[id]? = some s) {k c : Nat} :
    LiveChild (strike reason id s scopes) k c ↔ c ≠ id ∧ LiveChild scopes k c := by
  constructor
  · rintro ⟨t, at_c, parent, live⟩
    obtain ⟨rfl, rfl⟩ | ⟨away, u, was, rfl⟩ := cases_of_getElem?_strike found at_c
    · exact absurd live (Option.some_ne_none reason)
    · exact ⟨away, u, was, parent, live⟩
  · rintro ⟨away, t, at_c, parent, live⟩
    refine ⟨_, by rw [getElem?_strike_of_ne (Ne.symm away), at_c]; rfl, ?_⟩
    dsimp only
    split <;> exact ⟨parent, live⟩

/-- The scopes are in order, but for the pending ones, which may be live below a cancelled parent,
    and for the untimed ones, whose timer may not run yet. -/
structure Cascading (pending untimed : List Nat) (scopes : List Scope) : Prop where
  signalled : ∀ {k : Nat} {s : Scope}, scopes[k]? = some s →
    (s.signalled = true ↔ s.reason ≠ none)
  of_timer : ∀ {k : Nat} {s : Scope}, scopes[k]? = some s → s.timer = true →
    s.reason = none ∧ s.deadline ≠ none
  timer : ∀ {k : Nat} {s : Scope}, scopes[k]? = some s → s.reason = none → s.deadline ≠ none →
    s.timer = true ∨ k ∈ untimed
  emptied : ∀ {k : Nat} {s : Scope}, scopes[k]? = some s → s.reason ≠ none → s.children = []
  nodup : ∀ {k : Nat} {s : Scope}, scopes[k]? = some s → s.children.Nodup
  attached : ∀ {k : Nat} {s : Scope}, scopes[k]? = some s → s.reason = none →
    ∀ c, c ∈ s.children ↔ LiveChild scopes k c
  pursued : ∀ {k p : Nat} {s t : Scope}, scopes[k]? = some s → s.parent = some p →
    scopes[p]? = some t → t.reason ≠ none → s.reason = none → k ∈ pending

namespace Cascading

variable {untimed rest : List Nat}

theorem skip (gone : ∀ s, scopes[id]? = some s → s.reason ≠ none)
    (h : Cascading (id :: rest) untimed scopes) : Cascading rest untimed scopes := by
  refine { h with pursued := fun {k p s t} found parent found' dead live => ?_ }
  rcases List.mem_cons.1 (h.pursued found parent found' dead live) with rfl | mem
  · exact absurd live (gone s found)
  · exact mem

/-- Striking a pending scope leaves its children pending: they are the live scopes below it. -/
theorem struck (found : scopes[id]? = some s) (live : s.reason = none)
    (h : Cascading (id :: rest) untimed scopes) :
    Cascading (s.children ++ rest) untimed (strike reason id s scopes) where
  signalled at_k := by
    obtain ⟨rfl, rfl⟩ | ⟨-, u, was, rfl⟩ := cases_of_getElem?_strike found at_k
    · simp [Scope.cancelled]
    · exact (h.signalled was :)
  of_timer at_k running := by
    obtain ⟨rfl, rfl⟩ | ⟨-, u, was, rfl⟩ := cases_of_getElem?_strike found at_k
    · exact absurd running Bool.false_ne_true
    · exact (h.of_timer was :) running
  timer at_k live' timed := by
    obtain ⟨rfl, rfl⟩ | ⟨-, u, was, rfl⟩ := cases_of_getElem?_strike found at_k
    · exact absurd live' (Option.some_ne_none reason)
    · exact (h.timer was :) live' timed
  emptied at_k dead := by
    obtain ⟨rfl, rfl⟩ | ⟨-, u, was, rfl⟩ := cases_of_getElem?_strike found at_k
    · rfl
    · simp [h.emptied was dead]
  nodup at_k := by
    obtain ⟨rfl, rfl⟩ | ⟨-, u, was, rfl⟩ := cases_of_getElem?_strike found at_k
    · exact List.nodup_nil
    · dsimp only
      split
      · exact (h.nodup was).filter _
      · exact h.nodup was
  attached {k t} at_k live' c := by
    obtain ⟨rfl, rfl⟩ | ⟨-, u, was, rfl⟩ := cases_of_getElem?_strike found at_k
    · exact absurd live' (Option.some_ne_none reason)
    · have before := h.attached was live' c
      rw [liveChild_strike found, ← before]
      -- The struck scope is a child of its parent and of no other scope.
      dsimp only
      split
      · simp [and_comm]
      · next other =>
        refine ⟨fun mem => ⟨?_, mem⟩, And.right⟩
        rintro rfl
        obtain ⟨t, at_c, parent, -⟩ := before.1 mem
        rw [found, Option.some.injEq] at at_c
        exact other (at_c ▸ parent)
  pursued at_k parent at_p dead live' := by
    obtain ⟨rfl, rfl⟩ | ⟨away, u, was, rfl⟩ := cases_of_getElem?_strike found at_k
    · exact absurd live' (Option.some_ne_none reason)
    -- Below the struck scope live its children, which are pending now; others were pending before.
    obtain ⟨rfl, rfl⟩ | ⟨-, v, was_p, rfl⟩ := cases_of_getElem?_strike found at_p
    · exact List.mem_append_left _ ((h.attached found live _).2 ⟨u, was, parent, live'⟩)
    · rcases List.mem_cons.1 (h.pursued was parent was_p dead live') with rfl | mem
      · exact absurd rfl away
      · exact List.mem_append_right _ mem

/-- A cascade that began in order ends with nothing pending. -/
protected theorem cancelAll (h : Cascading pending untimed scopes) :
    Cascading [] untimed (cancelAll reason pending scopes) :=
  cancelAll_induction reason pending scopes (P := fun pending now => Cascading pending untimed now)
    skip struck h

theorem mono {more : List Nat} (sub : pending ⊆ more) (h : Cascading pending untimed scopes) :
    Cascading more untimed scopes :=
  { h with
    pursued := fun found parent at_p dead live => sub (h.pursued found parent at_p dead live) }

end Cascading

/-! ## Who is cancelled, and why -/

/-- Why a scope is cancelled, if it is. -/
def reasonAt (scopes : List Scope) (k : Nat) : Option Reason :=
  scopes[k]?.bind (·.reason)

theorem reasonAt_of_getElem? (found : scopes[k]? = some s) : reasonAt scopes k = s.reason := by
  simp [reasonAt, found]

theorem exists_of_reasonAt_ne_none (h : reasonAt scopes k ≠ none) :
    ∃ s, scopes[k]? = some s ∧ s.reason ≠ none := by
  cases found : scopes[k]? with
  | none => simp [reasonAt, found] at h
  | some s => exact ⟨s, rfl, by rwa [reasonAt_of_getElem? found] at h⟩

theorem reasonAt_strike (found : scopes[id]? = some s) :
    reasonAt (strike reason id s scopes) k = if k = id then some reason else reasonAt scopes k := by
  split
  · next at_id =>
    subst at_id
    rw [reasonAt_of_getElem? (getElem?_strike_self found)]
    rfl
  · next away =>
    simp only [reasonAt, getElem?_strike_of_ne (Ne.symm away), Option.bind_map]
    congr 1
    funext t
    simp only [Function.comp]
    split <;> rfl

namespace Cascading

variable {untimed : List Nat}

/-- With nothing pending, whatever lies below a cancelled scope is cancelled. -/
theorem reasonAt_ne_none_of_within (h : Cascading [] untimed scopes) {a : Nat}
    (dead : reasonAt scopes a ≠ none) (within : Within scopes a k) : reasonAt scopes k ≠ none := by
  induction within with
  | self => exact dead
  | child found parent _ ih =>
    obtain ⟨t, at_p, dead⟩ := exists_of_reasonAt_ne_none ih
    rw [reasonAt_of_getElem? found]
    exact fun live => List.not_mem_nil (h.pursued found parent at_p dead live)

end Cascading

/-- Every scope that was pending is cancelled in the end. -/
theorem reasonAt_cancelAll_ne_none (reason : Reason) {a : Nat} (mem : a ∈ pending)
    (inside : a < scopes.length) : reasonAt (cancelAll reason pending scopes) a ≠ none := by
  -- Along the cascade the scope stays pending as long as it is not cancelled.
  have reached := cancelAll_induction reason pending scopes
    (P := fun pending now => a < now.length ∧ (a ∈ pending ∨ reasonAt now a ≠ none)) ?_ ?_
    ⟨inside, .inl mem⟩
  · exact reached.2.resolve_left List.not_mem_nil
  · rintro id rest now gone ⟨inside, mem | dead⟩
    · refine ⟨inside, (List.mem_cons.1 mem).symm.imp_right ?_⟩
      rintro rfl
      have found := List.getElem?_eq_getElem inside
      rw [reasonAt_of_getElem? found]
      exact gone _ found
    · exact ⟨inside, .inr dead⟩
  · rintro id rest now s found live ⟨inside, reached⟩
    refine ⟨(length_eq_of_skeleton (skeleton_strike found)).symm ▸ inside, ?_⟩
    rw [reasonAt_strike found]
    by_cases at_id : a = id
    · exact .inr (by simp [at_id])
    · refine reached.imp (fun mem => ?_) fun dead => by simpa [at_id] using dead
      exact List.mem_append_right _ ((List.mem_cons.1 mem).resolve_left at_id)

/-- A scope is cancelled by a cascade for a reason: it lies at or below a pending one. -/
theorem reasonAt_cancelAll_cases (reason : Reason) {untimed : List Nat}
    (h : Cascading pending untimed scopes) (k : Nat) :
    reasonAt (cancelAll reason pending scopes) k = reasonAt scopes k ∨
      (reasonAt scopes k = none ∧ reasonAt (cancelAll reason pending scopes) k = some reason ∧
        ∃ a ∈ pending, Within scopes a k) := by
  -- Along the cascade, what is pending lies at or below what was pending at first.
  have reached := cancelAll_induction reason pending scopes
    (P := fun now_pending now => Cascading now_pending untimed now ∧
      skeleton now = skeleton scopes ∧
      (∀ i ∈ now_pending, ∃ a ∈ pending, Within scopes a i) ∧
      ∀ k, reasonAt now k = reasonAt scopes k ∨
        (reasonAt scopes k = none ∧ reasonAt now k = some reason ∧
          ∃ a ∈ pending, Within scopes a k)) ?_ ?_
    ⟨h, rfl, fun i mem => ⟨i, mem, .self⟩, fun k => .inl rfl⟩
  · exact reached.2.2.2 k
  · rintro id rest now gone ⟨order, same, below, reasons⟩
    exact ⟨order.skip gone, same, fun i mem => below i (List.mem_cons_of_mem _ mem), reasons⟩
  · rintro id rest now s found live ⟨order, same, below, reasons⟩
    obtain ⟨a, mem_a, within⟩ := below id List.mem_cons_self
    refine ⟨order.struck found live, (skeleton_strike found).trans same, fun i mem => ?_,
      fun k => ?_⟩
    · rcases List.mem_append.1 mem with child | mem
      · obtain ⟨t, at_i, parent, -⟩ := (order.attached found live i).1 child
        exact ⟨a, mem_a, (Within.child at_i parent (within.congr same.symm)).congr same⟩
      · exact below i (List.mem_cons_of_mem _ mem)
    · rw [reasonAt_strike found]
      split
      · next at_id =>
        subst at_id
        have untouched : reasonAt now k = none := (reasonAt_of_getElem? found).trans live
        rcases reasons k with eq | ⟨-, eq, -⟩
        · exact .inr ⟨eq ▸ untouched, rfl, a, mem_a, within⟩
        · simp [untouched] at eq
      · exact reasons k

open Classical in
/-- What a cascade does to the reasons: scopes at or below a pending one get its reason unless they
    have one. -/
theorem reasonAt_cancelAll {untimed : List Nat} (h : Cascading pending untimed scopes)
    (inside : ∀ a ∈ pending, a < scopes.length) (k : Nat) :
    reasonAt (cancelAll reason pending scopes) k =
      (reasonAt scopes k).or (if ∃ a ∈ pending, Within scopes a k then some reason else none) := by
  rcases reasonAt_cancelAll_cases reason h k with eq | ⟨live, eq, below⟩
  · rw [eq]
    split
    · next below =>
      -- What lies there is cancelled in the end; it keeps its reason, so it has had one.
      obtain ⟨a, mem, within⟩ := below
      have dead := h.cancelAll.reasonAt_ne_none_of_within
        (reasonAt_cancelAll_ne_none reason mem (inside a mem))
        (within.congr skeleton_cancelAll.symm)
      rw [eq] at dead
      obtain ⟨r, some_r⟩ := Option.ne_none_iff_exists'.1 dead
      simp [some_r]
    · simp
  · rw [live, eq, if_pos below, Option.none_or]

end ScopeTree

end InvokeWorker
