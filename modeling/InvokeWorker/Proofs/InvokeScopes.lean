import InvokeWorker.Proofs.ContextActions
import InvokeWorker.Proofs.Reporting

/-!
# The scopes of an invoke

Every invoke has a scope of its own, below the base context, and its handler may create more. When
the invoke is done they are all cancelled, by the cancellation of the invoke's context: what the
handler derives lies below that (`Contained`). Then none of them is attached any more, and none
keeps a timer running.

There is one exception. Between the creation of the scope and the start of the handler stands the
publication of the trace header, which fails on a header that a variable of the process cannot hold.
The scope is left as it was created then: if the base context is live and the deadline has not
passed, it stays attached and its timer runs (`Run.handleInvoke_scopes`).
-/

namespace InvokeWorker

open ScopeTree (Within reasonAt skeleton)
open Run (Ends)

/-! ## While the handler runs -/

/-- The contexts at the disposal of a handler, and all scopes created since its invoke was taken up,
    lie at or below the scope of the invoke, which is the first of them. -/
structure Contained (n : Nat) (w : Worker) (contexts : List Context) : Prop where
  inOrder : w.scopes.InOrder
  inside : n < w.scopes.scopes.length
  below : ∀ k, n ≤ k → k < w.scopes.scopes.length → Within w.scopes.scopes n k
  disposable : ∀ c ∈ contexts, n ≤ c.scope ∧ c.scope < w.scopes.scopes.length

namespace Contained

variable {n : Nat} {w w' : Worker} {contexts : List Context}

/-- Nothing is created where parents and deadlines are the same. -/
theorem congr (h : Contained n w contexts) (order : w'.scopes.InOrder)
    (same : skeleton w'.scopes.scopes = skeleton w.scopes.scopes) : Contained n w' contexts := by
  have length := ScopeTree.length_eq_of_skeleton same
  refine ⟨order, length ▸ h.inside, fun k from_n before => ?_, fun c mem => ?_⟩
  · exact (h.below k from_n (length ▸ before)).congr same.symm
  · exact length ▸ h.disposable c mem

theorem of_scopes (h : Contained n w contexts) (same : w'.scopes = w.scopes) :
    Contained n w' contexts :=
  h.congr (same ▸ h.inOrder) (by rw [same])

theorem cancel (h : Contained n w contexts) (c : Context) : Contained n (w.cancel c) contexts :=
  h.congr (h.inOrder.cancel _ _) (ScopeTree.skeleton_cancel _ _ _)

theorem refresh (h : Contained n w contexts) (c : Context) : Contained n (w.refresh c) contexts :=
  h.congr (h.inOrder.refresh _ _) (ScopeTree.skeleton_refresh _ _ _)

theorem advance (h : Contained n w contexts) (ms : Int) (fire : Bool) :
    Contained n (w.advance ms fire) contexts := by
  rw [Worker.advance_eq_pass]
  exact h.congr (h.inOrder.fire _ _) (ScopeTree.skeleton_fire _ _ _)

theorem sight (h : Contained n w contexts) (arrival : Arrival) :
    Contained n (w.sight arrival).1 contexts := by
  cases arrival with
  | raw context payload => exact h.refresh context
  | adapted event invocation => exact h

/-- What the handler derives from a context at its disposal lies below the scope of the invoke. -/
theorem derive (h : Contained n w contexts) {c : Context} (mem : c ∈ contexts) (own : Instant) :
    Contained n (w.derive c own).1 (contexts ++ [(w.derive c own).2]) := by
  obtain ⟨from_n, inside⟩ := h.disposable c mem
  have before := ScopeTree.before_of_some inside
  have more : skeleton (w.derive c own).1.scopes.scopes = _ := ScopeTree.skeleton_create before
  have length : (w.derive c own).1.scopes.scopes.length = w.scopes.scopes.length + 1 :=
    ScopeTree.length_create before
  refine ⟨h.inOrder.create before _ _, ?_, fun k from_k before_k => ?_, fun d mem_d => ?_⟩
  · rw [length]
    exact Nat.lt_succ_of_lt h.inside
  · rw [length] at before_k
    rcases Nat.lt_succ_iff_lt_or_eq.1 before_k with old | rfl
    · exact (ScopeTree.within_old more h.inOrder.nested old).2 (h.below k from_k old)
    · exact (ScopeTree.within_new more h.inOrder.nested before).2
        (.inr ⟨c.scope, rfl, h.below _ from_n inside⟩)
  · rw [length]
    rcases List.mem_append.1 mem_d with old | new
    · obtain ⟨from_d, before_d⟩ := h.disposable d old
      exact ⟨from_d, Nat.lt_succ_of_lt before_d⟩
    · rw [List.mem_singleton.1 new]
      exact ⟨Nat.le_of_lt h.inside, Nat.lt_succ_self _⟩

/-- At first there is nothing but the scope of the invoke. -/
theorem of_derive {base c : Context} {own : Instant} (order : w.scopes.InOrder)
    (inside : base.scope < w.scopes.scopes.length)
    (created : w'.scopes = (w.derive base own).1.scopes)
    (scope : c.scope = w.scopes.scopes.length) : Contained w.scopes.scopes.length w' [c] := by
  have before := ScopeTree.before_of_some inside
  have length : w'.scopes.scopes.length = w.scopes.scopes.length + 1 := by
    rw [created]
    exact ScopeTree.length_create before
  refine ⟨created ▸ order.create before _ _, by omega, fun k from_n before_k => ?_, fun d mem => ?_⟩
  · rw [Nat.le_antisymm (by omega : k ≤ w.scopes.scopes.length) from_n]
    exact .self
  · rw [List.mem_singleton.1 mem, scope]
    exact ⟨Nat.le_refl _, by omega⟩

theorem perform (h : Contained n w contexts) (base : Context) (arrival : Arrival) (deed : Deed) :
    Contained n (w.perform base arrival contexts deed).1
      (w.perform base arrival contexts deed).2 := by
  cases deed with
  | advance ms fire => exact ((h.advance ms fire).sight arrival).of_scopes rfl
  | cancelBase => exact h.cancel base
  | cancel position =>
    rw [Worker.perform.eq_def]
    dsimp only
    split
    · exact h.cancel _
    · exact h
  | look position =>
    rw [Worker.perform.eq_def]
    dsimp only
    split
    · exact h.refresh _
    · exact h
  | derive position deadline =>
    rw [Worker.perform.eq_def]
    dsimp only
    split
    · next c found => exact h.derive (List.mem_of_getElem? found) deadline
    · exact h
  | arm set =>
    rw [Worker.perform.eq_def]
    dsimp only
    split
    · exact h.of_scopes rfl
    · exact h

theorem performAll (h : Contained n w contexts) (base : Context) (arrival : Arrival)
    (deeds : List Deed) : Contained n (w.performAll base arrival contexts deeds) [] := by
  induction deeds generalizing w contexts with
  | nil => exact { h with disposable := by simp }
  | cons deed deeds ih => exact ih (h.perform base arrival deed)

end Contained

section Handler

variable {n : Nat} {w : Worker} {context : Context}

theorem Contained.ends_call (h : Contained n w [context]) (handler : Handler) (base : Context)
    (arrival : Arrival) :
    Ends (handler.call base context arrival) w fun _ w' => Contained n w' [] := by
  have noted : ∀ e, Contained n ((w.sight arrival).1.note e) [context] :=
    fun e => (h.sight arrival).of_scopes rfl
  exact (noted _).performAll base arrival _

theorem Contained.ends_invoke [Interpreter] (h : Contained n w [context]) (handler : Handler)
    (base : Context) (payload : Bytes) :
    Ends (handler.invoke base context payload) w fun _ w' => Contained n w' [] := by
  have gone : Contained n w [] := { h with disposable := by simp }
  have run : Ends (handler.run base context payload) w fun _ w' => Contained n w' [] := by
    rw [Handler.run]
    split
    · exact h.ends_call handler base _
    · rw [Handler.runAdapted]
      split
      · exact gone
      · refine (h.ends_call handler base _).bind (fun ending w' after => ?_) fun _ _ after => after
        split
        · exact after
        · refine (ends_encode _).outcome_bind fun r w'' quiet => ?_
          cases r <;> exact after.of_scopes quiet.1.scopes
  refine run.bind (fun ending w' after => ?_) fun _ _ after => after
  split
  · exact after
  · exact Ends.ofExcept_bind (fun _ _ => after) fun _ _ => after

theorem Contained.ends_reportAndStop [Interpreter] (h : Contained n w []) (i : Invoke)
    (r : Report) : Ends (Run.reportAndStopIfFatal i r) w fun _ w' => Contained n w' [] := by
  have reported : Ends (Run.reportFailure i r) w fun _ w' => Contained n w' [] :=
    (ends_reportFailure i r).mono fun _ w' ⟨w₁, quiet, reported⟩ =>
      h.of_scopes (reported.scopes.trans quiet.scopes)
  refine reported.bind (fun _ w' after => ?_) fun _ _ after => after
  split
  · exact after
  · exact after

/-- Whatever comes of the handler and of the report of its outcome. -/
theorem Contained.ends_execute [Interpreter] (h : Contained n w [context]) (i : Invoke)
    (options : HandlerOptions) :
    Ends (Run.execute i context options) w fun _ w' => Contained n w' [] := by
  refine (h.ends_invoke options.handler options.base i.payload).bind (fun outcome w' after => ?_)
    fun _ _ after => after
  split
  · exact after.ends_reportAndStop i _
  · split
    · refine (ends_sendResponse i _).mono fun _ w'' h => ?_
      obtain ⟨body, w₁, w₂, s, quiet, reported, quiet', -⟩ := h
      exact after.of_scopes (quiet'.scopes.trans (reported.scopes.trans quiet.scopes))
    · exact Ends.ofExcept_bind (fun r _ => after.ends_reportAndStop i r) fun _ _ => after

end Handler

/-! ## When the invoke is done -/

/-- From a position on all scopes are cancelled; no timer of them runs, and they are on nobody's
    list. -/
def ScopeTree.ReleasedFrom (tree : ScopeTree) (n : Nat) : Prop :=
  ∀ k s, n ≤ k → tree.get? k = some s →
    s.reason ≠ none ∧ s.timer = false ∧ ∀ p t, tree.get? p = some t → k ∉ t.children

/-- The last scope is as it was created: live, with its timer running, attached to its parent. -/
structure ScopeTree.Stranded (tree : ScopeTree) (n parent : Nat) : Prop where
  last : tree.scopes.length = n + 1
  live : ∃ s, tree.get? n = some s ∧ s.reason = none ∧ s.timer = true
  attached : ∃ t, tree.get? parent = some t ∧ n ∈ t.children

/-- The trace header of an invoke with well-formed headers cannot be published, and the scope of
    the invoke is not cancelled at once: the base context is live, and neither its deadline nor that
    of the invoke has passed. -/
def Worker.Strands (w : Worker) (options : HandlerOptions) (i : Invoke) : Prop :=
  ∃ invocation, Invocation.ofInvoke i options.settings = .ok invocation ∧
    Correlation.unpublishable? invocation.trace ≠ none ∧
    reasonAt w.scopes.scopes options.base.scope = none ∧
    ∀ d, ScopeTree.earlier (w.scopes.deadlineOf (some options.base.scope))
      (some invocation.deadline) = some d → w.now < d.millis

namespace ScopeTree

variable {tree : ScopeTree} {n p : Nat}

/-- In a tree in order it is enough that they are cancelled. -/
theorem InOrder.releasedFrom (order : tree.InOrder)
    (dead : ∀ k, n ≤ k → k < tree.scopes.length → reasonAt tree.scopes k ≠ none) :
    tree.ReleasedFrom n := by
  intro k s from_n found
  have gone : s.reason ≠ none := by
    rw [← reasonAt_of_getElem? found]
    exact dead k from_n (List.getElem?_eq_some_iff.1 found).1
  obtain ⟨stopped, detached⟩ := order.tidy.released found gone
  exact ⟨gone, stopped, fun _ _ => detached⟩

theorem Stranded.not_releasedFrom (h : tree.Stranded n p) : ¬tree.ReleasedFrom n := by
  intro released
  obtain ⟨s, found, live, -⟩ := h.live
  exact (released n s (Nat.le_refl n) found).1 live

/-- With a deadline of its own a scope has a deadline. -/
theorem exists_earlier (ancestor : Option Instant) (own : Instant) :
    ∃ d, earlier ancestor (some own) = some d := by
  cases ancestor with
  | none => exact ⟨own, rfl⟩
  | some a =>
    rw [earlier]
    split
    · exact ⟨a, rfl⟩
    · exact ⟨own, rfl⟩

section Create

variable {own : Instant} {now : Int}

/-- A new scope is cancelled at once if its parent is, or if its deadline has passed. -/
theorem reasonAt_create_self (order : tree.InOrder) (inside : p < tree.scopes.length) :
    reasonAt (tree.create (some p) (some own) now).1.scopes tree.scopes.length = none ↔
      reasonAt tree.scopes p = none ∧
        ∀ d, earlier (tree.deadlineOf (some p)) (some own) = some d → now < d.millis := by
  have before := before_of_some inside
  obtain ⟨d, capped⟩ := exists_earlier (tree.deadlineOf (some p)) own
  rw [reasonAt_create order before, if_pos rfl, Option.or_eq_none_iff, capped]
  refine and_congr_right fun _ => ?_
  simp [Scope.isDue, Scope.fresh]

/-- A new scope that is not cancelled at once is attached, and its timer runs. -/
theorem stranded_create (order : tree.InOrder) (inside : p < tree.scopes.length)
    (live : reasonAt (tree.create (some p) (some own) now).1.scopes tree.scopes.length = none) :
    (tree.create (some p) (some own) now).1.Stranded tree.scopes.length p := by
  have before := before_of_some inside
  have tidy := (order.create before (some own) now).tidy
  have more : skeleton (tree.create (some p) (some own) now).1.scopes = _ := skeleton_create before
  have length : (tree.create (some p) (some own) now).1.scopes.length = tree.scopes.length + 1 :=
    length_create before
  -- The new scope is live and has a deadline, so its timer runs.
  have at_last := map_getElem?_of_skeleton_concat more tree.scopes.length
  rw [if_pos rfl, Option.map_eq_some_iff] at at_last
  obtain ⟨s, found, eq⟩ := at_last
  obtain ⟨parent, deadline⟩ := Prod.mk.inj eq
  rw [reasonAt_of_getElem? found] at live
  obtain ⟨d, capped⟩ := exists_earlier (tree.deadlineOf (some p)) own
  have timed : s.deadline ≠ none := by simp [deadline, capped]
  -- Its parent is live as well, so the new scope is among the children of that.
  have inside' : p < (tree.create (some p) (some own) now).1.scopes.length := by omega
  have at_p := List.getElem?_eq_getElem inside'
  have parent_live : reasonAt (tree.create (some p) (some own) now).1.scopes p = none := by
    rw [reasonAt_create order before, if_neg (Nat.ne_of_lt inside)]
    exact ((reasonAt_create_self order inside).1 ((reasonAt_of_getElem? found).trans live)).1
  rw [reasonAt_of_getElem? at_p] at parent_live
  exact ⟨length, ⟨s, found, live, (tidy.timer found).2 ⟨live, timed⟩⟩,
    _, at_p, ((tidy.of_live at_p parent_live).2 _).2 ⟨s, found, parent, live⟩⟩

/-- A new scope that is cancelled at once is attached to nothing. -/
theorem releasedFrom_create (order : tree.InOrder) (inside : p < tree.scopes.length)
    (dead : reasonAt (tree.create (some p) (some own) now).1.scopes tree.scopes.length ≠ none) :
    (tree.create (some p) (some own) now).1.ReleasedFrom tree.scopes.length := by
  have before := before_of_some inside
  have length : (tree.create (some p) (some own) now).1.scopes.length = tree.scopes.length + 1 :=
    length_create before
  refine (order.create before (some own) now).releasedFrom fun k from_n before_k => ?_
  rw [length] at before_k
  rw [Nat.le_antisymm (Nat.lt_succ_iff.1 before_k) from_n]
  exact dead

end Create

end ScopeTree

/-- What an invoke leaves behind: the scopes are in order for the next one, and those created for it
    are released, unless the trace header cannot be published. -/
structure LeavesBehind (w : Worker) (options : HandlerOptions) (i : Invoke) (w' : Worker) :
    Prop where
  valid : Scene.Valid ⟨w', [options.base]⟩
  released : w'.scopes.ReleasedFrom w.scopes.scopes.length ↔ ¬w.Strands options i
  stranded : w.Strands options i → w'.scopes.Stranded w.scopes.scopes.length options.base.scope

section

variable {w w' : Worker} {options : HandlerOptions} {i : Invoke}

/-- Nothing is left behind where nothing was created. -/
theorem LeavesBehind.of_scopes (valid : Scene.Valid ⟨w, [options.base]⟩)
    (same : w'.scopes = w.scopes) (fine : ¬w.Strands options i) :
    LeavesBehind w options i w' where
  valid := valid.congr (same ▸ valid.inOrder) (by rw [same])
  released := by
    refine iff_of_true ?_ fine
    refine ScopeTree.InOrder.releasedFrom (same ▸ valid.inOrder) fun k from_n before => ?_
    rw [same] at before
    exact absurd before (Nat.not_lt.2 from_n)
  stranded stranded := absurd stranded fine

/-- If the trace header cannot be published, the scope is left as it was created. -/
theorem LeavesBehind.of_create (valid : Scene.Valid ⟨w, [options.base]⟩) {invocation : Invocation}
    (ok : Invocation.ofInvoke i options.settings = .ok invocation)
    (refused : Correlation.unpublishable? invocation.trace ≠ none)
    (created : w'.scopes = (w.derive options.base invocation.deadline).1.scopes) :
    LeavesBehind w options i w' := by
  have inside : options.base.scope < w.scopes.scopes.length := valid.inside _ List.mem_cons_self
  have before := ScopeTree.before_of_some inside
  have stranded_iff : w.Strands options i ↔
      reasonAt w'.scopes.scopes w.scopes.scopes.length = none := by
    rw [created, Worker.derive, ScopeTree.reasonAt_create_self valid.inOrder inside]
    constructor
    · rintro ⟨invocation', ok', -, live, ahead⟩
      cases ok.symm.trans ok'
      exact ⟨live, ahead⟩
    · rintro ⟨live, ahead⟩
      exact ⟨invocation, ok, refused, live, ahead⟩
  have left : w.Strands options i →
      w'.scopes.Stranded w.scopes.scopes.length options.base.scope := by
    intro stranded
    have live := stranded_iff.1 stranded
    rw [created] at live ⊢
    exact ScopeTree.stranded_create valid.inOrder inside live
  refine ⟨⟨created ▸ valid.inOrder.create before _ _, fun c mem => ?_⟩, ?_, left⟩
  · have length : w'.scopes.scopes.length = w.scopes.scopes.length + 1 := by
      rw [created]
      exact ScopeTree.length_create before
    rw [List.mem_singleton.1 mem, length]
    exact Nat.lt_succ_of_lt inside
  · constructor
    · exact fun released stranded => (left stranded).not_releasedFrom released
    · intro fine
      have dead := mt stranded_iff.2 fine
      rw [created] at dead ⊢
      exact ScopeTree.releasedFrom_create valid.inOrder inside dead

/-- The cancellation of the invoke's context releases all that was created for the invoke. -/
theorem LeavesBehind.of_contained {c : Context}
    (inside : options.base.scope < w.scopes.scopes.length)
    (h : Contained w.scopes.scopes.length w' []) (scope : c.scope = w.scopes.scopes.length)
    (fine : ¬w.Strands options i) : LeavesBehind w options i (w'.cancel c) where
  valid := by
    refine Scene.Valid.congr (s := ⟨w', [options.base]⟩) ⟨h.inOrder, fun d mem => ?_⟩
      (h.inOrder.cancel _ _) (ScopeTree.skeleton_cancel _ _ _)
    rw [List.mem_singleton.1 mem]
    exact Nat.lt_trans inside h.inside
  released := by
    refine iff_of_true ?_ fine
    refine (h.inOrder.cancel _ _).releasedFrom fun k from_n before => ?_
    rw [ScopeTree.length_eq_of_skeleton (ScopeTree.skeleton_cancel _ _ _)] at before
    refine (ScopeTree.reasonAt_cancel_ne_none _ h.inOrder (scope ▸ h.inside) k).2 (.inr ?_)
    exact scope ▸ h.below k from_n before
  stranded stranded := absurd stranded fine

end

/-- When an invoke is done, be it by an error, all scopes created for it are cancelled and released;
    except that the scope of an invoke whose trace header cannot be published is left as it is,
    unless it was cancelled when it was created. -/
theorem Run.handleInvoke_scopes [Interpreter] (i : Invoke) (options : HandlerOptions) (w : Worker)
    (valid : Scene.Valid ⟨w, [options.base]⟩) :
    Ends (Run.handleInvoke i options) w fun _ w' => LeavesBehind w options i w' := by
  have inside : options.base.scope < w.scopes.scopes.length := valid.inside _ List.mem_cons_self
  refine Ends.modify_bind ((ends_build i options.base options.settings).outcome_bind ?_)
  rintro r w₁ ⟨-, built⟩
  split at built
  · -- The headers are malformed, and nothing has been created.
    next e failed =>
    obtain ⟨rfl, same⟩ := built
    have fine : ¬w.Strands options i := by
      rintro ⟨invocation, ok, -⟩
      cases failed.symm.trans ok
    dsimp only
    split
    · refine (ends_reject i (plainly_ofInvoke i _ e failed)).mono ?_
      rintro _ w' ⟨r, w₂, quiet, reported⟩
      exact .of_scopes valid (reported.scopes.trans (quiet.scopes.trans same)) fine
    · exact .of_scopes valid same fine
  · next invocation ok =>
    obtain ⟨created, built⟩ := built
    split at built
    · -- The trace header cannot be published, and the scope has been created already.
      next e refused =>
      subst built
      have left : ∀ {w'}, w'.scopes = w₁.scopes → LeavesBehind w options i w' := fun same =>
        .of_create valid ok (refused ▸ Option.some_ne_none e) (same.trans created)
      dsimp only
      split
      · refine (ends_reject i (isPlain_unpublishable refused)).mono ?_
        rintro _ w' ⟨r, w₂, quiet, reported⟩
        exact left (reported.scopes.trans quiet.scopes)
      · exact left rfl
    · next published =>
      obtain ⟨c, rfl, scope⟩ := built
      have fine : ¬w.Strands options i := by
        rintro ⟨invocation', ok', refused, -⟩
        cases ok.symm.trans ok'
        exact refused published
      have contained : Contained w.scopes.scopes.length w₁ [c] :=
        .of_derive valid.inOrder inside created scope
      refine (contained.ends_execute i options).andFinally fun r w' after => ?_
      exact .of_contained inside after scope fine

/-- A worker with a base context, and an invoke whose trace header is a NUL character. -/
theorem Run.handleInvoke_scopes_of_null :
    Scene.Valid ((Scene.start 0 none).act .root) ∧
      Ends (Run.handleInvoke
        ⟨"a", [], [(Header.deadline, Bytes.ofAscii "1000"), (Header.trace, [0])], none⟩
        ⟨.of .raw fun _ _ => ⟨[], .returns .null⟩, .ofScope 0, none⟩)
        ((Scene.start 0 none).act .root).worker fun _ w' => w'.scopes.Stranded 1 0 := by
  have valid : Scene.Valid ((Scene.start 0 none).act .root) := (Scene.valid_start 0 none).act .root
  refine ⟨valid, (handleInvoke_scopes _ _ _ valid).mono fun _ w' left => left.stranded ?_⟩
  refine ⟨⟨"a", [], .unknown, .unknown, ⟨1000⟩, [0], .absent⟩, rfl, by decide, rfl, ?_⟩
  rintro _ ⟨⟩
  decide

/-- So it is not true that every invoke releases its scopes. -/
theorem Run.not_forall_releasedFrom :
    ¬∀ (i : Invoke) (options : HandlerOptions) (w : Worker), Scene.Valid ⟨w, [options.base]⟩ →
      Ends (Run.handleInvoke i options) w fun _ w' =>
        w'.scopes.ReleasedFrom w.scopes.scopes.length := by
  intro all
  have released := all
    ⟨"a", [], [(Header.deadline, Bytes.ofAscii "1000"), (Header.trace, [0])], none⟩
    ⟨.of .raw fun _ _ => ⟨[], .returns .null⟩, .ofScope 0, none⟩
    ((Scene.start 0 none).act .root).worker ((Scene.valid_start 0 none).act .root)
  have live := released 1 ⟨some 0, some ⟨1000⟩, none, false, [], true⟩ (Nat.le_refl 1) rfl
  exact live.1 rfl

end InvokeWorker
