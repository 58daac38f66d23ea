import InvokeWorker.Proofs.DocumentText
import InvokeWorker.Proofs.LoopStates
import InvokeWorker.Proofs.Reasons

/-!
# The context an invoke is given

The headers of an invoke become a context below a base context, and its trace header is published.
Whether that is cancelled later can be told as for all other contexts, from what has been done. What
has led to the base context need not be known for that: there is a history that is right about any
valid scene (`Scene.Valid.exists_records`).

* `Scene.Valid.follows_derive`: from its creation on, a derived context is cancelled exactly if its
  base is, or its deadline has passed, or it was asked to cancel itself.
* `Context.build_follows`: either a header is malformed and nothing has happened, or the new context
  carries the invocation and the trace header over what the base context carries, follows the base
  context as just said, and the trace header is published.
-/

namespace InvokeWorker

open Run (Ends)
open ScopeTree (Within reasonAt skeleton)

/-! ## The texts of headers -/

/-- One code point for each octet is no surrogate. -/
theorem Bytes.scalar_toLatin1 (b : Bytes) : Text.Scalar b.toLatin1 := by
  intro c mem
  obtain ⟨o, -, rfl⟩ := List.mem_map.1 mem
  exact Utf8.isSurrogate_ofNat (.inl (Nat.lt_of_lt_of_le o.toNat_lt (by decide)))

theorem HeaderEncoding.scalar_decode (encoding : HeaderEncoding) (b : Bytes) :
    Text.Scalar (encoding.decode b) := by
  cases encoding with
  | ascii => exact b.scalar_toLatin1
  | latin1 => exact b.scalar_toLatin1
  | utf8 =>
    rw [decode, Utf8.text?]
    cases decoded : Utf8.decode? false b with
    | error fault => exact Text.only_nil
    | ok t => exact Text.scalar_iff.2 (Utf8.scalar_of_decode? decoded)

theorem Headers.scalar_get (headers : Headers) (name : Text) : Text.Scalar (headers.get name) := by
  rw [get, find]
  cases headers.encoding.encode? name.lowered with
  | error message => exact Text.only_nil
  | ok octets =>
    refine Text.only_join (Text.scalar_iff.2 rfl) fun t mem => ?_
    obtain ⟨⟨_, b⟩, -, rfl⟩ := List.mem_map.1 mem
    exact headers.encoding.scalar_decode b

/-- Of the texts of headers, only one with a NUL character cannot be published. -/
theorem Correlation.unpublishable?_header (i : Invoke) {name : Text}
    (clean : (i.header name).contains 0 = false) : unpublishable? (i.header name) = none := by
  have encodable := Utf8.unencodable?_eq_none_iff.2 (Text.scalar_iff.1 (i.headers.scalar_get name))
  rw [unpublishable?, Invoke.header, encodable]
  dsimp only
  rw [← Invoke.header, clean, if_neg Bool.false_ne_true]

/-! ## What the context carries -/

/-- A text equals what counts as that text. -/
theorem Value.same_text_iff {t : Text} {v : Value} :
    (Value.text t).same v = true ↔ v.content = .text t := by
  rw [Value.same]
  split
  · next u content => simp [content, eq_comm]
  · next other => exact ⟨nofun, fun content => absurd content (other t)⟩

namespace Context

theorem lookup?_withSlot (c : Context) (key : Value) {t : Text} (slot : Slot) :
    (c.withSlot (.text t) slot).lookup? key =
      if (Value.text t).same key then some slot else c.lookup? key := by
  have bound : binds key (.text t) = (Value.text t).same key := rfl
  rw [lookup?, withSlot, List.find?_cons]
  dsimp only
  rw [bound]
  cases (Value.text t).same key <;> rfl

/-- A context carries an invocation and its trace header under their keys, and under each other key
    what its base carries. -/
structure Carries (c base : Context) (invocation : Invocation) : Prop where
  at_invocationKey : ∀ key, invocationKey.same key = true →
    c.lookup? key = some (.invocation invocation)
  at_traceKey : ∀ key, traceKey.same key = true →
    c.lookup? key = some (.value (.text invocation.trace))
  elsewhere : ∀ key, invocationKey.same key = false → traceKey.same key = false →
    c.lookup? key = base.lookup? key

theorem carries_carrying {c base : Context} (same : c.bindings = base.bindings)
    (invocation : Invocation) : (c.carrying invocation).Carries base invocation := by
  have read : ∀ key, (c.carrying invocation).lookup? key =
      if traceKey.same key then some (.value (.text invocation.trace))
      else if invocationKey.same key then some (.invocation invocation) else base.lookup? key := by
    intro key
    have below : c.lookup? key = base.lookup? key := by rw [lookup?, same, lookup?]
    rw [carrying, withValue, traceKey, lookup?_withSlot, invocationKey, lookup?_withSlot, below]
  refine ⟨fun key at_key => ?_, fun key at_key => ?_, fun key apart apart' => ?_⟩
  · -- No key equals both texts.
    have apart : traceKey.same key = false := by
      refine Bool.eq_false_iff.2 fun at_key' => ?_
      have equal := (Value.same_text_iff.1 at_key).symm.trans (Value.same_text_iff.1 at_key')
      cases equal
    rw [read, if_neg (Bool.eq_false_iff.1 apart), if_pos at_key]
  · rw [read, if_pos at_key]
  · rw [read, if_neg (Bool.eq_false_iff.1 apart'), if_neg (Bool.eq_false_iff.1 apart)]

end Context

/-! ## A history of any valid scene -/

/-- What lies above a scope can be listed. -/
theorem ScopeTree.Nested.exists_above {scopes : List Scope} (nested : ScopeTree.Nested scopes)
    (k : Nat) : ∃ above, ∀ a, Within scopes a k ↔ a ∈ k :: above := by
  -- A parent comes before its children, so what lies above it is known already.
  induction k using Nat.strongRecOn with
  | ind k ih =>
    have alone : (∀ t p, scopes[k]? = some t → t.parent ≠ some p) →
        ∃ above, ∀ a, Within scopes a k ↔ a ∈ k :: above := by
      refine fun top => ⟨[], fun a => ⟨fun within => ?_, fun mem => ?_⟩⟩
      · cases within with
        | self => exact List.mem_cons_self
        | child found parent _ => exact absurd parent (top _ _ found)
      · rw [List.mem_singleton.1 mem]
        exact .self
    cases found : scopes[k]? with
    | none => exact alone fun t p at_k => by cases found.symm.trans at_k
    | some t =>
      cases parent : t.parent with
      | none =>
        refine alone fun u p at_k => ?_
        obtain rfl : t = u := Option.some.inj (found.symm.trans at_k)
        simp [parent]
      | some p =>
        obtain ⟨above, all⟩ := ih p (nested.earlier found parent)
        refine ⟨p :: above, fun a => ⟨fun within => ?_, fun mem => ?_⟩⟩
        · cases within with
          | self => exact List.mem_cons_self
          | child found' parent' further =>
            obtain rfl : t = _ := Option.some.inj (found.symm.trans found')
            obtain rfl : p = _ := Option.some.inj (parent.symm.trans parent')
            exact List.mem_cons_of_mem _ ((all a).1 further)
        · rcases List.mem_cons.1 mem with rfl | mem
          · exact .self
          · exact .child found parent ((all a).2 mem)

namespace Scene

variable {s : Scene} {k : Nat}

theorem Valid.exists_lineage (valid : s.Valid) (inside : k < s.worker.scopes.scopes.length) :
    ∃ l : Lineage, l.scope = k ∧ l.Traces s.worker.scopes := by
  obtain ⟨above, all⟩ := valid.inOrder.nested.exists_above k
  refine ⟨⟨k, above, (s.worker.scopes.deadlineOf (some k)).toList⟩, rfl, inside, ?_, all⟩
  rw [Lineage.deadline]
  cases s.worker.scopes.deadlineOf (some k) <;> rfl

theorem Valid.exists_lineages (valid : s.Valid) :
    ∃ lineages : List Lineage, s.contexts.map (·.scope) = lineages.map (·.scope) ∧
      ∀ l ∈ lineages, l.Traces s.worker.scopes := by
  have inside := valid.inside
  generalize s.contexts = contexts at inside
  induction contexts with
  | nil => exact ⟨[], rfl, nofun⟩
  | cons c contexts ih =>
    obtain ⟨l, scope, traced⟩ := valid.exists_lineage (inside c List.mem_cons_self)
    obtain ⟨lineages, scopes, all⟩ := ih fun d mem => inside d (List.mem_cons_of_mem _ mem)
    refine ⟨l :: lineages, by simp [scope, scopes], fun m mem => ?_⟩
    rcases List.mem_cons.1 mem with rfl | mem
    · exact traced
    · exact all m mem

/-- There is a history that is right about a valid scene. In this one, what is cancelled counts as
    asked to be. -/
theorem Valid.exists_records (valid : s.Valid) : ∃ h, Records h s := by
  obtain ⟨lineages, scopes, all⟩ := valid.exists_lineages
  have asked_iff : ∀ k, k ∈ (List.range s.worker.scopes.scopes.length).filter
        (fun k => (reasonAt s.worker.scopes.scopes k).isSome) ↔
      k < s.worker.scopes.scopes.length ∧ reasonAt s.worker.scopes.scopes k ≠ none := by
    simp [Option.isSome_iff_ne_none]
  refine ⟨⟨s.worker.now, s.worker.scopes.scopes.length, lineages, _⟩, valid.inOrder, rfl, rfl,
    scopes, fun a mem => ((asked_iff a).1 mem).1, all, fun l mem asked => ?_, fun l mem dead => ?_⟩
  · obtain ⟨a, above, asked⟩ := History.isAsked_iff.1 asked
    exact valid.inOrder.cascading.reasonAt_ne_none_of_within ((asked_iff a).1 asked).2
      (((all l mem).within a).2 above)
  · exact History.isCancelled_iff.2 (.inl (History.isAsked_iff.2
      ⟨l.scope, List.mem_cons_self, (asked_iff _).2 ⟨(all l mem).inside, dead⟩⟩))

/-! ## Requests -/

/-- Whether an action is a request to cancel a context of a scope. -/
def isRequest (s : Scene) (scope : Nat) : Action → Bool
  | .cancel i => s.contexts[i]?.any (·.scope = scope)
  | _ => false

/-- Whether one of some actions is a request to cancel a context of a scope. -/
def isRequested (s : Scene) (scope : Nat) : List Action → Bool
  | [] => false
  | a :: actions => s.isRequest scope a || (s.act a).isRequested scope actions

end Scene

section Requests

variable {h : History} {s : Scene} {k : Nat} {l : Lineage}

theorem Records.mem_asked_record (r : Records h s) (a : Action) :
    k ∈ (h.record a).asked ↔ k ∈ h.asked ∨ s.isRequest k a = true := by
  cases a with
  | cancel i =>
    rcases r.cases_of_index i with ⟨missing, missing'⟩ | ⟨c, l, found, found', -, scope⟩
    · simp [History.record, Scene.isRequest, missing, missing']
    · simp [History.record, Scene.isRequest, found, found', scope, eq_comm, or_comm]
  | withValue i key value =>
    rw [History.record]
    split <;> simp [Scene.isRequest]
  | withDeadline i deadline =>
    rw [History.record]
    split <;> simp [Scene.isRequest, History.derive]
  | root | look | pass | arrange => simp [History.record, History.derive, Scene.isRequest]

theorem Records.mem_asked_after (r : Records h s) {actions : List Action}
    (forward : ∀ a ∈ actions, a.Forward) :
    k ∈ (h.after actions).asked ↔ k ∈ h.asked ∨ s.isRequested k actions = true := by
  induction actions generalizing h s with
  | nil => simp [History.after, Scene.isRequested]
  | cons a actions ih =>
    have later := ih (r.act a (forward a List.mem_cons_self))
      fun b mem => forward b (List.mem_cons_of_mem _ mem)
    rw [r.mem_asked_record a] at later
    rw [Scene.isRequested, Bool.or_eq_true, ← or_assoc]
    exact later

theorem History.mem_lineages_record (mem : l ∈ h.lineages) (a : Action) :
    l ∈ (h.record a).lineages := by
  cases a with
  | root => exact List.mem_append_left _ mem
  | look | pass | arrange => exact mem
  | withValue | withDeadline =>
    rw [History.record]
    split
    · exact List.mem_append_left _ mem
    · exact mem
  | cancel =>
    rw [History.record]
    split <;> exact mem

theorem History.mem_lineages_after (mem : l ∈ h.lineages) (actions : List Action) :
    l ∈ (h.after actions).lineages := by
  induction actions generalizing h with
  | nil => exact mem
  | cons a actions ih => exact ih (mem_lineages_record mem a)

end Requests

/-! ## Derived contexts, from their creation on -/

/-- Once actions have been done in a scene, a context has a deadline, and who looks finds it
    cancelled exactly if its base is, or that deadline has passed, or it was asked to cancel among
    these actions. The contexts there were are what they were. -/
structure Context.Follows (c base : Context) (earliest : Instant) (s : Scene)
    (actions : List Action) : Prop where
  deadline : ((s.after actions).worker.standing c).2.deadline = some earliest
  cancelled : ((s.after actions).worker.standing c).2.cancelled = true ↔
    ((s.after actions).worker.standing base).2.cancelled = true ∨
      earliest.millis ≤ (s.after actions).worker.now ∨ s.isRequested c.scope actions = true
  contexts : s.contexts <+: (s.after actions).contexts

theorem Scene.contexts_prefix_after (s : Scene) (actions : List Action) :
    s.contexts <+: (s.after actions).contexts := by
  induction actions generalizing s with
  | nil => exact List.prefix_rfl
  | cons a actions ih => exact (s.contexts_prefix_act a).trans (ih (s.act a))

section Derive

variable {h : History} {s s' : Scene} {l : Lineage} {k : Nat} {own : Instant} {base c : Context}
  {v : Worker}

/-- Only the scopes of the contexts count, and the time. -/
theorem Records.congr (r : Records h s) (scopes : s'.worker.scopes = s.worker.scopes)
    (now : s'.worker.now = s.worker.now)
    (contexts : s'.contexts.map (·.scope) = s.contexts.map (·.scope)) : Records h s' where
  inOrder := scopes ▸ r.inOrder
  now := now ▸ r.now
  count := scopes ▸ r.count
  scopes := contexts.trans r.scopes
  asked := r.asked
  traces := scopes ▸ r.traces
  of_asked := scopes ▸ r.of_asked
  of_cancelled := scopes ▸ r.of_cancelled

/-- What has one more deadline than its base has to be cancelled if its base has, if the earliest
    deadline has passed, or if it was asked to itself. -/
theorem History.isCancelled_derived_iff :
    h.isCancelled ⟨k, l.scope :: l.above, own :: l.deadlines⟩ = true ↔
      h.isCancelled l = true ∨ l.deadline.elim own.millis (min own.millis) ≤ h.now ∨
        k ∈ h.asked := by
  have earliest : Lineage.deadline ⟨k, l.scope :: l.above, own :: l.deadlines⟩ = some _ :=
    Records.deadline_cons own l
  have asked_iff : h.isAsked ⟨k, l.scope :: l.above, own :: l.deadlines⟩ = true ↔
      k ∈ h.asked ∨ h.isAsked l = true := by
    rw [isAsked_iff, isAsked_iff]
    simp
  rw [isCancelled_iff, isCancelled_iff, asked_iff, earliest]
  constructor
  · rintro ((asked | above) | ⟨d, ⟨⟩, due⟩)
    · exact .inr (.inr asked)
    · exact .inl (.inl above)
    · exact .inr (.inl due)
  · rintro ((above | ⟨d, deadline, due⟩) | due | asked)
    · exact .inl (.inr above)
    · refine .inr ⟨_, rfl, ?_⟩
      rw [deadline, Option.elim_some]
      exact Int.le_trans (Int.min_le_right _ _) due
    · exact .inr ⟨_, rfl, due⟩
    · exact .inl (.inl asked)

/-- Where a history is right about a scene, a context that has one more deadline than its base
    follows that, if nobody has asked it to cancel before. -/
theorem Records.follows (r : Records h s) (mem_l : l ∈ h.lineages)
    (mem : ⟨k, l.scope :: l.above, own :: l.deadlines⟩ ∈ h.lineages)
    (scope_l : base.scope = l.scope) (scope : c.scope = k) (unasked : k ∉ h.asked)
    {actions : List Action} (forward : ∀ a ∈ actions, a.Forward) :
    c.Follows base ⟨l.deadline.elim own.millis (min own.millis)⟩ s actions := by
  have later := r.after actions forward
  obtain ⟨deadline, cancelled⟩ :=
    Prod.mk.inj (later.reading (History.mem_lineages_after mem actions) scope)
  have cancelled_base :=
    (Prod.mk.inj (later.reading (History.mem_lineages_after mem_l actions) scope_l)).2
  have asked_iff := (r.mem_asked_after (k := k) forward).trans (or_iff_right unasked)
  refine ⟨?_, ?_, s.contexts_prefix_after actions⟩
  · obtain ⟨earliest, read, millis⟩ :=
      Option.map_eq_some_iff.1 (deadline.trans (deadline_cons own l))
    rw [read, ← millis]
  · rw [cancelled, cancelled_base, History.isCancelled_derived_iff, asked_iff, later.now, scope]

/-- A context that is derived with a deadline has the earlier of that and the deadline of its base,
    and follows its base from then on. -/
theorem Scene.Valid.follows_derive (valid : s.Valid) (mem : base ∈ s.contexts) (own : Instant)
    (scopes : v.scopes = (s.worker.derive base own).1.scopes) (now : v.now = s.worker.now)
    (scope : c.scope = (s.worker.derive base own).2.scope) :
    ∃ deadline : Instant, deadline.millis = ((s.worker.standing base).2.deadline.map
        Instant.millis).elim own.millis (min own.millis) ∧
      ∀ actions, (∀ a ∈ actions, a.Forward) →
        c.Follows base deadline ⟨v, s.contexts ++ [c]⟩ actions := by
  obtain ⟨h, r⟩ := valid.exists_records
  obtain ⟨i, at_i⟩ := List.mem_iff_getElem?.1 mem
  rcases r.cases_of_index i with ⟨missing, -⟩ | ⟨d, l, found, -, mem_l, scope_l⟩
  · cases missing.symm.trans at_i
  obtain rfl : d = base := Option.some.inj (found.symm.trans at_i)
  have reading := (Prod.mk.inj (r.reading mem_l scope_l)).1
  -- The history that is right about the scene goes on with the new context.
  have derived : Records (h.derive (l.scope :: l.above) (own :: l.deadlines))
      ⟨v, s.contexts ++ [c]⟩ :=
    (r.withDeadline mem_l scope_l own).congr scopes now (by simp [scope])
  -- Nobody can have asked the new scope to cancel before it was there.
  have unasked : h.scopes ∉ h.asked := fun asked => Nat.lt_irrefl _ (r.asked _ asked)
  exact ⟨⟨l.deadline.elim own.millis (min own.millis)⟩, by rw [reading], fun actions forward =>
    derived.follows (List.mem_append_left _ mem_l)
      (List.mem_append_right _ (List.mem_singleton_self _)) scope_l (scope.trans r.count.symm)
      unasked forward⟩

end Derive

/-! ## The context that is built -/

/-- An invocation is what the headers of an invoke say, and the settings. -/
structure Invocation.Describes (invocation : Invocation) (i : Invoke)
    (settings : Option FunctionSettings) : Prop where
  requestId : invocation.requestId = i.id
  functionArn : invocation.functionArn = i.header Header.functionArn
  clientContext :
    ClientContext.parse (i.header Header.clientContext) = .ok invocation.clientContext
  identity : Identity.parse (i.header Header.identity) = .ok invocation.identity
  deadline : Deadline.parse (i.header Header.deadline) = .ok invocation.deadline
  trace : invocation.trace = i.header Header.trace
  settings : invocation.settings = settings.getD .absent

theorem Invocation.describes_of_ofInvoke {i : Invoke} {settings : Option FunctionSettings}
    {invocation : Invocation} (made : Invocation.ofInvoke i settings = .ok invocation) :
    invocation.Describes i settings := by
  rw [ofInvoke] at made
  split at made
  · cases made
  next deadline parsed =>
  split at made
  · cases made
  next clientContext parsed' =>
  split at made
  · cases made
  next identity parsed'' =>
  cases made
  exact ⟨rfl, rfl, parsed', parsed'', parsed, rfl, rfl⟩

/-- A trace header is published, and log lines are correlated with it unless it is empty. All else
    is as it was, but for new scopes. -/
structure Worker.Publishes (w w' : Worker) (header : Text) : Prop where
  published : w'.correlation.published = some header
  trace : w'.correlation.trace = if header = [] then none else some header
  request : w'.correlation.request = w.correlation.request
  scopes : ∀ k < w.scopes.scopes.length, w'.scopes.reasonOf k = w.scopes.reasonOf k ∧
    w'.scopes.deadlineOf (some k) = w.scopes.deadlineOf (some k)
  frame : w' = { w with scopes := w'.scopes, correlation := w'.correlation }

namespace Context

/-- What can come of building the context of an invoke below a base context. -/
inductive Builds (i : Invoke) (base : Context) (settings : Option FunctionSettings) (s : Scene) :
    Except Thrown Context → Worker → Prop
  /-- A header is malformed, and nothing has happened. -/
  | refused {e : Thrown} : Invocation.ofInvoke i settings = .error e →
    Builds i base settings s (.error e) s.worker
  /-- A context of a new scope, with the earlier of the deadline of the invoke and that of the base
      context. -/
  | built {c : Context} {w' : Worker} {invocation : Invocation} {deadline : Instant} :
    invocation.Describes i settings → c.Carries base invocation →
    s.worker.Publishes w' invocation.trace → (∀ d ∈ s.contexts, d.scope ≠ c.scope) →
    deadline.millis = ((s.worker.standing base).2.deadline.map Instant.millis).elim
      invocation.deadline.millis (min invocation.deadline.millis) →
    (∀ actions, (∀ a ∈ actions, a.Forward) →
      c.Follows base deadline ⟨w', s.contexts ++ [c]⟩ actions) →
    Builds i base settings s (.ok c) w'

theorem publishes_derive {w : Worker} {base : Context} (own : Instant) (header : Text)
    (order : w.scopes.InOrder) (inside : base.scope < w.scopes.scopes.length) :
    w.Publishes ((w.derive base own).1.withCorrelation (·.publishing header)) header where
  published := rfl
  trace := by simp [Worker.withCorrelation, Correlation.publishing]
  request := rfl
  scopes k before := by
    have old : k ≠ w.scopes.scopes.length := Nat.ne_of_lt before
    refine ⟨?_, ?_⟩
    · exact (reasonAt_derive order inside own k).trans (if_neg old)
    · exact (deadlineOf_derive inside own k).trans (if_neg old)
  frame := rfl

/-- Either a header of an invoke is malformed and nothing has happened, or its context carries the
    invocation and the trace header over what the base context carries, is cancelled with the base
    context or at the earlier of the two deadlines, and the trace header is published. -/
theorem build_follows (i : Invoke) (settings : Option FunctionSettings) {s : Scene}
    (valid : s.Valid) {base : Context} (mem : base ∈ s.contexts)
    (clean : (i.header Header.trace).contains 0 = false) :
    Ends (build i base settings) s.worker (Builds i base settings s) := by
  cases made : Invocation.ofInvoke i settings with
  | error e =>
    rw [Ends, build_of_malformed made]
    exact .refused made
  | ok invocation =>
    have describes := Invocation.describes_of_ofInvoke made
    have accepted : Correlation.unpublishable? invocation.trace = none := by
      rw [describes.trace]
      exact Correlation.unpublishable?_header i clean
    rw [Ends, build_of_publishable made accepted]
    obtain ⟨deadline, earliest, follows⟩ := valid.follows_derive mem invocation.deadline
      (v := (s.worker.derive base invocation.deadline).1.withCorrelation
        (·.publishing invocation.trace))
      (c := (s.worker.derive base invocation.deadline).2.carrying invocation) rfl rfl rfl
    have same : (s.worker.derive base invocation.deadline).2.bindings = base.bindings := rfl
    exact .built describes (carries_carrying same invocation)
      (publishes_derive _ _ valid.inOrder (valid.inside base mem))
      (fun d mem_d => Nat.ne_of_lt (valid.inside d mem_d)) earliest follows

end Context

/-- A context with a deadline that carries something under the key of the trace header. -/
def Context.occupied : Context := ⟨1, [(traceKey, .value .null)]⟩

/-- The scene in which that context has been made. -/
def Scene.occupied : Scene :=
  (start 0 none).after [.root, .withDeadline 0 ⟨5⟩, .withValue 1 Context.traceKey .null]

/-- Below that context the one of an invoke carries the trace header. It is cancelled at the
    deadline of its base, which is earlier than its own; nobody has to notice that before. -/
theorem Context.build_follows_occupied : ∃ c w',
    build ⟨"a", [], .traced "a" "Root=1-a", none⟩ occupied none Scene.occupied.worker = .ok c w' ∧
      c.lookup? traceKey = some (.value (.text "Root=1-a")) ∧
      ((Scene.after ⟨w', Scene.occupied.contexts ++ [c]⟩
        [.pass 5 []]).worker.standing c).2.cancelled = true := by
  have valid : Scene.occupied.Valid := (Scene.valid_start 0 none).after
    [.root, .withDeadline 0 ⟨5⟩, .withValue 1 traceKey .null]
  have third : Scene.occupied.contexts[2]? = some occupied := rfl
  have text : Invoke.header ⟨"a", [], .traced "a" "Root=1-a", none⟩ Header.trace = "Root=1-a" := by
    decide +kernel
  have ends := build_follows ⟨"a", [], .traced "a" "Root=1-a", none⟩ none valid
    (List.mem_of_getElem? third) (by rw [text]; decide)
  obtain ⟨c, w', built⟩ : ∃ c w', build ⟨"a", [], .traced "a" "Root=1-a", none⟩ occupied none
      Scene.occupied.worker = .ok c w' := ⟨_, _, rfl⟩
  rw [Ends, built] at ends
  refine ⟨c, w', built, ?_⟩
  cases ends with
  | built describes carries publishes fresh earliest follows =>
    have now : w'.now = 0 := congrArg Worker.now publishes.frame
    have passed := follows [.pass 5 []] (by simp [Action.Forward])
    refine ⟨?_, passed.cancelled.2 (.inr (.inl ?_))⟩
    · rw [carries.at_traceKey traceKey rfl, describes.trace, text]
    · have later : (Scene.after ⟨w', Scene.occupied.contexts ++ [c]⟩ [.pass 5 []]).worker.now = 5 :=
        congrArg (· + 5) now
      rw [earliest, later]
      exact Int.min_le_right _ 5

end InvokeWorker
