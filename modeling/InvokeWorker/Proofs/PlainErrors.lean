import InvokeWorker.Worker.Loop

/-!
# Errors the worker makes itself

Errors of handler code and of the transport can hold anything: who asks such an error for its text,
its type or its report may get another error in return. The errors that the worker's own code makes
are *plain*: each has a message and nothing that could raise (`Thrown.IsPlain`). So a plain error
can be shown and reported, always. None of them says that the handler has crashed; there is one
place only where that is raised.

The worker's own code also asks results for what they are: it encodes, reads and closes them. What
comes up there is plain as well, unless the result itself has raised it (`Value.Emits`) or it has
come up in place of a text or a status code of such an error (`Thrown.Brings`).
-/

namespace InvokeWorker

/-- An error that is a message and has nothing that could raise another one. -/
structure Thrown.IsPlain (e : Thrown) : Prop where
  args : ∃ t, e.args = [.text t]
  detail : ∀ h, e.detail ≠ .hooks h
  /-- If a type was chosen for its report, then that is just a text, and there are no frames. -/
  chosen : ∀ type message stack, e.detail = .chosen type message stack →
    (∃ t, type = .text t) ∧ stack = []
  noCrash : e.errorClass ≠ .handlerCrash

/-- `e` is `x`, or an error that came up when a text or a status code was asked for in turn. -/
inductive Thrown.Brings [Interpreter] (x : Thrown) : Thrown → Prop
  | self : Brings x x
  | text {y e : Thrown} : Brings x y → y.display = .error e → Brings x e
  | status {y e : Thrown} : Brings x y → y.statusCode = .error e → Brings x e

/-- A result raises an error when it is asked for its content type, encoded, read or closed. -/
inductive Value.Emits [Interpreter] : Value → Thrown → Prop
  | declaring {o : Custom} {x : Thrown} : o.own.contentType = some (.raises x) → Emits (.custom o) x
  | encoding {v : Value} {x : Thrown} :
    v.document? Value.refuse nestingLimit = .error (.raised x) → Emits v x
  | reading {o : Custom} {p : Pieces} {x : Thrown} : o.own.read = some (.method p) →
    p.failure = some x → Emits (.custom o) x
  | iterating {o : Custom} {p : Pieces} {x : Thrown} : o.own.pieces = some p →
    p.failure = some x → Emits (.custom o) x
  | generating {p : Pieces} {x : Thrown} : p.failure = some x → Emits (.generator p) x
  | derived {o : Custom} {p : Pieces} {x : Thrown} : o.core = .generator p →
    p.failure = some x → Emits (.custom o) x
  | packed {v body : Value} {x : Thrown} : v.packed? = some body → Emits body x → Emits v x
  | closing {o : Custom} {x : Thrown} : o.own.close = some (.raises x) → Emits (.custom o) x

/-- An error is let through by the code around a result: the result raises it, or an error that it
    has come up in place of a part of. -/
def Value.LetsThrough [Interpreter] (v : Value) (e : Thrown) : Prop :=
  ∃ x, v.Emits x ∧ x.Brings e

theorem Value.Emits.letsThrough [Interpreter] {v : Value} {x : Thrown} (emits : v.Emits x) :
    v.LetsThrough x :=
  ⟨x, emits, .self⟩

theorem Thrown.Brings.trans [Interpreter] {x y e : Thrown} (h : x.Brings y) (h' : y.Brings e) :
    x.Brings e := by
  induction h' with
  | self => exact h
  | text _ unshown ih => exact .text ih unshown
  | status _ unknown ih => exact .status ih unknown

theorem Value.LetsThrough.trans [Interpreter] {v : Value} {x e : Thrown} (h : v.LetsThrough x)
    (brings : x.Brings e) : v.LetsThrough e := by
  obtain ⟨y, emits, first⟩ := h
  exact ⟨y, emits, first.trans brings⟩

/-- Bytes raise nothing. -/
theorem Value.not_letsThrough_bytes [Interpreter] (b : Bytes) (e : Thrown) :
    ¬ (Value.bytes b).LetsThrough e := by
  rintro ⟨x, emits, -⟩
  cases emits with
  | encoding failed => cases failed
  | packed body _ => cases body

/-- Texts as they are pass the check. -/
theorem Report.checked_text (type message : Text) (sites : List Site) (fatal : Bool) :
    checked (.text type) (.text message) (.ok sites) fatal =
      .ok (.of type message (sites.map Site.frame) fatal) :=
  rfl

/-- A chosen report has frames only if they were chosen. -/
theorem Report.frames_chosenReport {type message : Value} {r : Report}
    (chosen : Thrown.chosenReport? type message [] = some r) : r.frames = [] := by
  rw [Thrown.chosenReport?, Report.read] at chosen
  dsimp only at chosen
  split at chosen
  · cases chosen
    rfl
  · cases chosen

namespace Thrown.IsPlain

variable {e : Thrown}

/-- A plain error has a text: its message or, where that is a missing key, its literal. -/
theorem display [Interpreter] (h : e.IsPlain) : ∃ t, e.display = .ok t := by
  obtain ⟨c, args, detail⟩ := e
  obtain ⟨t, message⟩ := h.args
  have detail_plain := h.detail
  dsimp only at message detail_plain
  subst message
  cases detail with
  | hooks hooks => exact absurd rfl (detail_plain hooks)
  | _ =>
    rw [Thrown.display.eq_def]
    dsimp only
    split
    · exact ⟨_, rfl⟩
    · split
      · exact ⟨_, rfl⟩
      · split
        · exact ⟨_, rfl⟩
        · split
          · exact ⟨_, rfl⟩
          · rw [if_neg (by simp)]
            cases c.isIn .key <;> exact ⟨_, rfl⟩

/-- The text is that of the message itself, so none of a derived class. -/
theorem shownAs? (h : e.IsPlain) : e.shownAs? = none := by
  obtain ⟨c, args, detail⟩ := e
  obtain ⟨t, message⟩ := h.args
  have detail_plain := h.detail
  dsimp only at message detail_plain
  subst message
  cases detail with
  | hooks hooks => exact absurd rfl (detail_plain hooks)
  | _ =>
    rw [Thrown.shownAs?.eq_def]
    dsimp only
    split
    · exact ite_self _
    · exact ite_self _

theorem describe [Interpreter] (h : e.IsPlain) : ∃ t, e.describe = .ok (.text t) := by
  obtain ⟨t, shown⟩ := h.display
  exact ⟨t, by simp [Thrown.describe, shown, h.shownAs?]⟩

theorem ownReport? (h : e.IsPlain) : ∃ r, e.ownReport? = .ok r := by
  cases detail : e.detail with
  | hooks hooks => exact absurd detail (h.detail hooks)
  | _ => exact ⟨_, by rw [Thrown.ownReport?, detail]⟩

/-- What a plain error states as its type is a text or nothing. -/
theorem statedType (h : e.IsPlain) :
    e.statedType = .ok .null ∨ ∃ t, e.statedType = .ok (.text t) := by
  rw [Thrown.statedType]
  cases detail : e.detail with
  | chosen type message stack =>
    obtain ⟨⟨t, rfl⟩, -⟩ := h.chosen type message stack detail
    exact .inr ⟨t, rfl⟩
  | hooks hooks => exact absurd detail (h.detail hooks)
  | _ =>
    dsimp only
    split
    · exact .inr ⟨_, rfl⟩
    · exact .inl rfl

theorem reportedType (h : e.IsPlain) : ∃ t, e.reportedType = .ok (.text t) := by
  rw [Thrown.reportedType]
  rcases h.statedType with stated | ⟨t, stated⟩
  · rw [stated]
    exact ⟨_, rfl⟩
  · rw [stated]
    cases t <;> exact ⟨_, rfl⟩

/-- A plain error has a report. -/
theorem ofError [Interpreter] (h : e.IsPlain) (sites : List Site) :
    ∃ r, Report.ofError e (.ok sites) = .ok r := by
  obtain ⟨own, supplied⟩ := h.ownReport?
  obtain ⟨type, typed⟩ := h.reportedType
  obtain ⟨message, described⟩ := h.describe
  rw [Report.ofError, supplied]
  cases own with
  | some report => exact ⟨report, rfl⟩
  | none =>
    simp only [typed, described]
    exact ⟨_, Report.checked_text ..⟩

/-- Its report has no frames but those it is made with. -/
theorem frames_ofError [Interpreter] (h : e.IsPlain) {r : Report}
    (made : Report.ofError e (.ok []) = .ok r) : r.frames = [] := by
  obtain ⟨type, typed⟩ := h.reportedType
  obtain ⟨message, described⟩ := h.describe
  rw [Report.ofError, Thrown.ownReport?] at made
  cases detail : e.detail with
  | hooks hooks => exact absurd detail (h.detail hooks)
  | chosen type' message' stack =>
    obtain ⟨-, rfl⟩ := h.chosen _ _ _ detail
    simp only [detail, typed, described] at made
    split at made
    · cases made
    · next own supplied =>
      cases made
      exact Report.frames_chosenReport (Except.ok.inj supplied)
    · cases made
      rfl
  | _ =>
    simp only [detail, typed, described] at made
    cases made
    rfl

theorem ofFailure [Interpreter] (h : e.IsPlain) (sites : List Site) :
    ∃ r, Report.ofFailure e (.ok sites) = .ok r := by
  rw [Report.ofFailure]
  split
  · obtain ⟨message, described⟩ := h.describe
    rw [Report.ofCrash, described]
    exact ⟨_, Report.checked_text ..⟩
  · exact h.ofError sites

end Thrown.IsPlain

namespace Thrown

theorem home_builtin (name : Text) : (ErrorClass.builtin name).home = none := by
  rw [ErrorClass.builtin]
  split
  · rfl
  · split
    · rfl
    · split
      · rfl
      · rfl

theorem isPlain_builtin (name message : Text) : (builtin name message).IsPlain where
  args := ⟨message, rfl⟩
  detail _ := nofun
  chosen _ _ _ := nofun
  noCrash eq := by
    have home : none = ErrorClass.handlerCrash.home := by
      rw [← home_builtin name, ← eq]
      rfl
    exact absurd home nofun

/-- The worker's own classes of errors carry a message and some data. -/
theorem isPlain_mk {c : ErrorClass} {detail : Detail} (message : Text)
    (unhooked : ∀ h, detail ≠ .hooks h)
    (chosen : ∀ type message stack, detail = .chosen type message stack →
      (∃ t, type = .text t) ∧ stack = [])
    (other : c ≠ .handlerCrash) : (Thrown.mk c [.text message] detail).IsPlain :=
  ⟨⟨message, rfl⟩, unhooked, chosen, other⟩

theorem isPlain_malformedInvoke (message : Text) : (malformedInvoke message).IsPlain :=
  isPlain_mk message (fun _ => nofun) (fun _ _ _ => nofun) (by decide)

theorem isPlain_runtimeApi (message : Text) (status : Value) :
    (runtimeApi message status).IsPlain :=
  isPlain_mk message (fun _ => nofun) (fun _ _ _ => nofun) (by decide)

theorem isPlain_validation (message : Text) : (validation message).IsPlain :=
  isPlain_mk message (fun _ => nofun) (fun _ _ _ => nofun) (by decide)

theorem isPlain_chosen (type message : Text) : (chosen type message).IsPlain := by
  refine isPlain_mk message (fun _ => nofun) ?_ (by decide)
  rintro _ _ _ ⟨⟩
  exact ⟨⟨type, rfl⟩, rfl⟩

theorem isPlain_urlFault (fault : UrlFault) : fault.toThrown.IsPlain := by
  cases fault with
  | surrogate fault => exact isPlain_builtin _ _
  | _ =>
    exact isPlain_mk _ (fun _ => nofun) (fun _ _ _ => nofun)
      (by decide : ErrorClass.transport "InvalidURL" ≠ _)

end Thrown

/-! ## Computations that fail plainly -/

/-- If the computation fails, then with a plain error. -/
def Plainly {α : Type} (r : Except Thrown α) : Prop :=
  ∀ e, r = .error e → e.IsPlain

section Plainly

open Thrown

variable {α β : Type}

theorem plainly_ok (a : α) : Plainly (.ok a : Except Thrown α) := fun _ => nofun

theorem plainly_error {e : Thrown} (h : e.IsPlain) : Plainly (.error e : Except Thrown α) := by
  rintro _ ⟨⟩
  exact h

theorem Plainly.map {r : Except Thrown α} (h : Plainly r) (f : α → β) : Plainly (r.map f) := by
  cases r with
  | ok a => exact plainly_ok _
  | error e => exact plainly_error (h e rfl)

theorem plainly_mapError (r : Except Text α) (name : Text) :
    Plainly (r.mapError (builtin name)) := by
  cases r with
  | ok a => exact plainly_ok a
  | error message => exact plainly_error (isPlain_builtin _ _)

theorem plainly_normalize (url : Text) : Plainly (Client.normalize url) := by
  rw [Client.normalize]
  split
  · exact plainly_ok _
  · exact plainly_error (isPlain_urlFault _)

theorem plainly_headerOctets (t : Text) : Plainly (Client.headerOctets t) :=
  plainly_mapError _ _

theorem plainly_joinFrom (position : Nat) (vs : List Value) :
    Plainly (Body.joinFrom position vs) := by
  induction vs generalizing position with
  | nil => exact plainly_ok _
  | cons v vs ih =>
    rw [Body.joinFrom]
    split
    · exact (ih _).map _
    · exact plainly_error (isPlain_builtin _ _)

theorem plainly_ofStream (content : Content) : Plainly (Body.ofStream content) := by
  rw [Body.ofStream.eq_def]
  split
  · exact plainly_ok _
  · exact plainly_ok _
  · exact plainly_joinFrom _ _

theorem plainly_body (v : Value) : Plainly (Body.of v) := by
  rw [Body.of.eq_def]
  split
  · exact plainly_ok _
  · exact plainly_ok _
  · split
    · exact plainly_ok _
    · exact plainly_error (isPlain_builtin _ _)
  · split
    · exact plainly_ok _
    · exact plainly_error (isPlain_builtin _ _)

theorem plainly_source (v : Value) : Plainly (Response.source v) := by
  rw [Response.source.eq_def]
  split
  · exact plainly_ok _
  · exact plainly_error (isPlain_builtin _ _)
  · split
    · exact plainly_ok _
    · exact plainly_ok _
    · split
      · exact plainly_ok _
      · exact plainly_error (isPlain_builtin _ _)

theorem plainly_checked (type message : Value) (sites : List Site) (fatal : Bool) :
    Plainly (Report.checked type message (.ok sites) fatal) := by
  rw [Report.checked]
  dsimp only
  split
  · exact plainly_ok _
  · exact plainly_error (isPlain_validation _)

theorem plainly_deadline (t : Text) : Plainly (Deadline.parse t) := by
  rw [Deadline.parse]
  split
  · exact plainly_ok _
  · next fault _ =>
    cases fault with
    | digits count => exact plainly_error (isPlain_builtin _ _)
    | _ => exact plainly_error (isPlain_malformedInvoke _)

theorem plainly_headerDocument (remark : Text) (absent : α)
    (read : Document → HeaderDocument.Outcome α) (t : Text) :
    Plainly (HeaderDocument.parse remark absent read t) := by
  rw [HeaderDocument.parse]
  split
  · exact plainly_ok _
  · split
    · exact plainly_error (isPlain_malformedInvoke _)
    · split
      · exact plainly_ok _
      · exact plainly_error (isPlain_malformedInvoke _)

theorem plainly_ofInvoke (invoke : Invoke) (settings : Option FunctionSettings) :
    Plainly (Invocation.ofInvoke invoke settings) := by
  rw [Invocation.ofInvoke]
  split
  · next e failed => exact plainly_error (plainly_deadline _ e failed)
  · split
    · next e failed => exact plainly_error (plainly_headerDocument _ _ _ _ e failed)
    · split
      · next e failed => exact plainly_error (plainly_headerDocument _ _ _ _ e failed)
      · exact plainly_ok _

theorem isPlain_unpublishable {header : Text} {e : Thrown}
    (refused : Correlation.unpublishable? header = some e) : e.IsPlain := by
  rw [Correlation.unpublishable?] at refused
  split at refused
  · split at refused
    · cases refused
    · cases refused
      exact isPlain_builtin _ _
  · split at refused
    · cases refused
      exact isPlain_builtin _ _
    · cases refused

theorem plainly_decode [Interpreter] (payload : Bytes) : Plainly (Payload.decode payload) := by
  rw [Payload.decode]
  split
  · exact plainly_ok _
  · split
    · exact plainly_error (isPlain_chosen _ _)
    · split
      · exact plainly_ok _
      · exact plainly_error (isPlain_builtin _ _)
      · exact plainly_error (isPlain_chosen _ _)

end Plainly

/-! ## What results raise -/

/-- The fault of an iteration is the error it was ended by. -/
theorem failure_of_fault? {p : Pieces} {e : Thrown} (fault : p.fault? = some e) :
    p.failure = some e :=
  (Option.filter_eq_some_iff.1 fault).1

theorem join_error {p : Pieces} {e : Thrown} (failed : Body.join p = .error e) :
    e.IsPlain ∨ p.failure = some e := by
  rw [Body.join, Pieces.all] at failed
  cases fault : p.fault? with
  | none =>
    rw [fault] at failed
    exact .inl (plainly_joinFrom _ _ e failed)
  | some x =>
    rw [fault] at failed
    cases failed
    exact .inr (failure_of_fault? fault)

theorem chunks_failure {p : Pieces} {e : Thrown} (failed : (Body.chunks p).failure = some e) :
    e.IsPlain ∨ p.failure = some e := by
  rw [Body.chunks] at failed
  split at failed
  · cases failed
    exact .inl (Thrown.isPlain_builtin _ _)
  · cases failed
  · obtain ⟨x, failure, made⟩ := Option.map_eq_some_iff.1 failed
    split at made
    · cases made
      exact .inl (Thrown.isPlain_builtin _ _)
    · cases made
      exact .inr failure

theorem emits_of_iterated [Interpreter] {v : Value} {e : Thrown}
    (failed : Body.iterated v = .error e) : e.IsPlain ∨ v.Emits e := by
  rw [Body.iterated.eq_def] at failed
  split at failed
  · exact (join_error failed).imp_right .generating
  · cases failed
    exact .inl (Thrown.isPlain_builtin _ _)
  · split at failed
    · next own => exact (join_error failed).imp_right (.iterating own)
    · exact (join_error failed).imp_right (.derived rfl)
    · exact .inl (plainly_joinFrom _ _ e failed)
  · exact .inl (plainly_joinFrom _ _ e failed)

theorem emits_of_read [Interpreter] {v : Value} {e : Thrown} (failed : Body.read v = .error e) :
    e.IsPlain ∨ v.Emits e := by
  rw [Body.read.eq_def] at failed
  split at failed
  · exact .inl (plainly_ofStream _ e failed)
  · split at failed
    · next own =>
      rcases join_error failed with plain | failure
      · exact .inl plain
      · exact (chunks_failure failure).imp_right (.reading own)
    · cases failed
      exact .inl (Thrown.isPlain_builtin _ _)
    · exact .inl (plainly_ofStream _ e failed)
    · exact emits_of_iterated failed
  · exact emits_of_iterated failed

/-- A body that cannot be read: it holds something else than bytes, or has raised an error. -/
theorem emits_of_content [Interpreter] {v : Value} {b : Body} {e : Thrown}
    (made : Body.of v = .ok b) (failed : b.content = .error e) : e.IsPlain ∨ v.Emits e := by
  rw [Body.of.eq_def] at made
  split at made
  · cases made
    cases failed
  · cases made
    cases failed
  · split at made
    · cases made
      cases failed
    · cases made
  · split at made
    · cases made
      exact emits_of_read failed
    · cases made

/-- The fault of a value is raised as a plain error, unless the value has raised it. -/
theorem isPlain_encodeFault (fault : EncodeFault) :
    fault.toThrown.IsPlain ∨ ∃ x, fault = .raised x := by
  cases fault with
  | raised e => exact .inr ⟨e, rfl⟩
  | _ => exact .inl (Thrown.isPlain_builtin _ _)

theorem letsThrough_of_jsonOf [Interpreter] {v : Value} {e : Thrown}
    (failed : Response.jsonOf v = .error e) : e.IsPlain ∨ v.LetsThrough e := by
  rw [Response.jsonOf] at failed
  split at failed
  · cases failed
  · next fault refused =>
    split at failed
    · split at failed
      · cases failed
        exact .inl (Thrown.isPlain_chosen _ _)
      · next unshown =>
        cases failed
        obtain plain | ⟨x, rfl⟩ := isPlain_encodeFault fault
        · obtain ⟨t, shown⟩ := plain.display
          simp [shown] at unshown
        · exact .inr ⟨x, .encoding refused, .text .self unshown⟩
    · cases failed
      exact (isPlain_encodeFault fault).imp_right fun ⟨x, raised⟩ => by
        subst raised
        exact (Value.Emits.encoding refused).letsThrough

end InvokeWorker
