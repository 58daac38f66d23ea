import InvokeWorker.Proofs.PlainErrors
import InvokeWorker.Proofs.RunLogic

/-!
# How an invoke is reported

Most of what the worker does goes unnoticed outside: it writes log lines, looks at results and
releases them (`Worker.Quietly`). What counts for the Runtime API are the calls of the handler and
the requests.

To report something is to send one POST at most. `Reported` says how that ends: the report cannot
be sent, which is a plain error or one that what is reported has raised, or there is one request,
and the outcome is what the reply to it makes it. `ends_sendResponse` and `ends_reportFailure` are
about the two kinds of report.
-/

namespace InvokeWorker

/-- Whether an event is a call of the handler or a request. -/
def Event.isLoud (e : Event) : Bool :=
  e.isCall || e.request?.isSome

/-! ## What goes unnoticed -/

namespace Worker

/-- From `w` to `w'` these events have happened, and the replies in store are the same. -/
structure Adds (w : Worker) (events : List Event) (w' : Worker) : Prop where
  journal : w'.journal = w.journal ++ events
  replies : w'.replies = w.replies

/-- From `w` to `w'` there was neither a call nor a request, and no scope has changed. -/
structure Quietly (w w' : Worker) : Prop where
  adds : ∃ events, w.Adds events w' ∧ ∀ e ∈ events, e.isLoud = false
  scopes : w'.scopes = w.scopes

variable {w w' w'' : Worker}

theorem Adds.trans {first second : List Event} (h : w.Adds first w') (h' : w'.Adds second w'') :
    w.Adds (first ++ second) w'' where
  journal := by rw [h'.journal, h.journal, List.append_assoc]
  replies := h'.replies.trans h.replies

theorem adds_note (w : Worker) (e : Event) : w.Adds [e] (w.note e) :=
  ⟨rfl, rfl⟩

namespace Quietly

theorem trans (h : w.Quietly w') (h' : w'.Quietly w'') : w.Quietly w'' := by
  obtain ⟨first, adds, quiet⟩ := h.adds
  obtain ⟨second, adds', quiet'⟩ := h'.adds
  refine ⟨⟨first ++ second, adds.trans adds', fun e mem => ?_⟩, h'.scopes.trans h.scopes⟩
  exact (List.mem_append.1 mem).elim (quiet e) (quiet' e)

theorem note (w : Worker) {e : Event} (quiet : e.isLoud = false) : w.Quietly (w.note e) :=
  ⟨⟨[e], adds_note w e, fun _ mem => List.mem_singleton.1 mem ▸ quiet⟩, rfl⟩

theorem log (w : Worker) (entry : LogEntry) : w.Quietly (w.log entry) :=
  note w rfl

theorem of_same (journal : w'.journal = w.journal) (replies : w'.replies = w.replies)
    (scopes : w'.scopes = w.scopes) : w.Quietly w' :=
  ⟨⟨[], ⟨journal.trans (List.append_nil _).symm, replies⟩, by simp⟩, scopes⟩

theorem refl (w : Worker) : w.Quietly w :=
  of_same rfl rfl rfl

end Quietly

end Worker

open Worker (Quietly)
open Run (Ends)

variable {w : Worker}

/-- An error is not passed over where it is to be logged: it is not ordinary, or another one is
    raised in place of its text. -/
inductive Thrown.Pierces [Interpreter] (x : Thrown) : Thrown → Prop
  | stop : x.isOrdinary = false → x.Pierces x
  | text {e : Thrown} : x.isOrdinary = true → x.display = .error e → x.Pierces e

theorem Thrown.Pierces.brings [Interpreter] {x e : Thrown} (pierces : x.Pierces e) :
    x.Brings e := by
  cases pierces with
  | stop => exact .self
  | text _ unshown => exact .text .self unshown

/-- An ordinary error with a text is passed over. -/
theorem Thrown.not_pierces [Interpreter] {x : Thrown} {shown : Text}
    (ordinary : x.isOrdinary = true) (has_text : x.display = .ok shown) (e : Thrown) :
    ¬ x.Pierces e := by
  rintro (extraordinary | ⟨-, unshown⟩)
  · cases ordinary.symm.trans extraordinary
  · cases has_text.symm.trans unshown

/-- An error is raised when a result is asked for its content type. -/
def Value.FailsToDeclare [Interpreter] (v : Value) (e : Thrown) : Prop :=
  ∃ o x, v = .custom o ∧ o.own.contentType = some (.raises x) ∧ x.Pierces e

/-- An error is raised when a result is released. -/
def Value.FailsToClose [Interpreter] (v : Value) (e : Thrown) : Prop :=
  ∃ o x, v = .custom o ∧ o.own.close = some (.raises x) ∧ x.Pierces e

namespace Value

variable [Interpreter]

theorem failsToDeclare_custom_iff {o : Custom} {e : Thrown} : (custom o).FailsToDeclare e ↔
    ∃ x, o.own.contentType = some (.raises x) ∧ x.Pierces e := by
  refine ⟨?_, fun ⟨x, h⟩ => ⟨o, x, rfl, h⟩⟩
  rintro ⟨_, x, ⟨⟩, h⟩
  exact ⟨x, h⟩

theorem failsToClose_custom_iff {o : Custom} {e : Thrown} : (custom o).FailsToClose e ↔
    ∃ x, o.own.close = some (.raises x) ∧ x.Pierces e := by
  refine ⟨?_, fun ⟨x, h⟩ => ⟨o, x, rfl, h⟩⟩
  rintro ⟨_, x, ⟨⟩, h⟩
  exact ⟨x, h⟩

/-- Only an object can raise an error here. -/
theorem not_failsToDeclare {v : Value} (no_object : ∀ o, v ≠ custom o) (e : Thrown) :
    ¬ v.FailsToDeclare e := by
  rintro ⟨o, x, rfl, -⟩
  exact no_object o rfl

theorem not_failsToClose {v : Value} (no_object : ∀ o, v ≠ custom o) (e : Thrown) :
    ¬ v.FailsToClose e := by
  rintro ⟨o, x, rfl, -⟩
  exact no_object o rfl

theorem FailsToDeclare.letsThrough {v : Value} {e : Thrown} (fails : v.FailsToDeclare e) :
    v.LetsThrough e := by
  obtain ⟨o, x, rfl, raises, pierces⟩ := fails
  exact ⟨x, .declaring raises, pierces.brings⟩

theorem FailsToClose.letsThrough {v : Value} {e : Thrown} (fails : v.FailsToClose e) :
    v.LetsThrough e := by
  obtain ⟨o, x, rfl, raises, pierces⟩ := fails
  exact ⟨x, .closing raises, pierces.brings⟩

end Value

theorem ends_passOver [Interpreter] (x : Thrown) (entry : Text → LogEntry) :
    Ends (Response.passOver x entry) w fun r w' =>
      w.Quietly w' ∧ ∀ e, r = .error e ↔ x.Pierces e := by
  rw [Response.passOver]
  split
  · next ordinary =>
    refine Ends.ofExcept_bind (fun shown has_text => ⟨.log w _, fun e => ?_⟩) fun e' unshown => ?_
    · exact ⟨nofun, fun pierces => absurd pierces (Thrown.not_pierces ordinary has_text e)⟩
    · refine ⟨.refl w, fun e => ⟨?_, ?_⟩⟩
      · rintro ⟨⟩
        exact .text ordinary unshown
      · rintro (extraordinary | ⟨-, unshown'⟩)
        · cases ordinary.symm.trans extraordinary
        · rw [Except.error.inj (unshown.symm.trans unshown')]
  · next extraordinary =>
    refine ⟨.refl w, fun e => ⟨?_, ?_⟩⟩
    · rintro ⟨⟩
      exact .stop (Bool.eq_false_iff.2 extraordinary)
    · rintro (- | ⟨ordinary, -⟩)
      · rfl
      · exact absurd ordinary extraordinary

theorem ends_contentType [Interpreter] (v : Value) (absent : Text) :
    Ends (Response.contentType v absent) w fun r w' =>
      w.Quietly w' ∧ ∀ e, r = .error e ↔ v.FailsToDeclare e := by
  rw [Response.contentType.eq_def]
  split
  · exact ⟨.refl w, by simp [Value.FailsToDeclare]⟩
  · next o =>
    split
    · next returns =>
      exact ⟨.note w rfl, by simp [Value.failsToDeclare_custom_iff, returns]⟩
    · next x raises =>
      refine Ends.note_bind ((ends_passOver x Response.undeclared).bind ?_ ?_)
      · refine fun _ w' h => ⟨(Quietly.note w rfl).trans h.1, fun e => ?_⟩
        simpa [Value.failsToDeclare_custom_iff, raises] using h.2 e
      · refine fun e' w' h => ⟨(Quietly.note w rfl).trans h.1, fun e => ?_⟩
        simpa [Value.failsToDeclare_custom_iff, raises] using h.2 e
    · next none_own _ =>
      exact ⟨.refl w, by simp [Value.failsToDeclare_custom_iff, none_own]⟩
    · next no_raise _ =>
      refine ⟨.refl w, fun e => iff_of_false nofun fun fails => ?_⟩
      obtain ⟨x, raises, -⟩ := Value.failsToDeclare_custom_iff.1 fails
      exact no_raise x raises
  · next other => exact ⟨.refl w, fun e => iff_of_false nofun (Value.not_failsToDeclare other e)⟩

/-- What is sent for a result raises what the result does. -/
theorem letsThrough_of_source [Interpreter] {v body : Value} (made : Response.source v = .ok body)
    {e : Thrown} (lets : body.LetsThrough e) : v.LetsThrough e := by
  rw [Response.source.eq_def] at made
  split at made
  · cases made
    exact absurd lets (Value.not_letsThrough_bytes [] e)
  · cases made
  · split at made
    · next packed =>
      cases made
      obtain ⟨x, emits, brings⟩ := lets
      exact ⟨x, .packed packed emits, brings⟩
    · cases made
      exact lets
    · split at made
      · cases made
        exact absurd lets (Value.not_letsThrough_bytes _ e)
      · cases made

theorem ends_negotiate [Interpreter] (v : Value) :
    Ends (Response.negotiate v) w fun r w' => w.Quietly w' ∧ match r with
      | .ok (body, _) => Response.source v = .ok body
      | .error e => e.IsPlain ∨ v.LetsThrough e := by
  refine Ends.ofExcept_bind (fun body made => ?_) (fun e failed => ?_)
  · refine (ends_contentType v _).bind (fun t w' h => ?_) (fun e w' h => ?_)
    · exact ⟨h.1, made⟩
    · exact ⟨h.1, .inr ((h.2 e).1 rfl).letsThrough⟩
  · exact ⟨.refl w, .inl (plainly_source v e failed)⟩

/-- A release that fails is only logged, if its error can be. -/
theorem ends_release [Interpreter] (v : Value) : Ends (Response.release v) w fun r w' =>
      w.Quietly w' ∧ ∀ e, r = .error e ↔ v.FailsToClose e := by
  rw [Response.release.eq_def]
  split
  · exact ⟨.note w rfl, by simp [Value.FailsToClose]⟩
  · exact ⟨.note w rfl, by simp [Value.FailsToClose]⟩
  · next o =>
    split
    · next returns => exact ⟨.note w rfl, by simp [Value.failsToClose_custom_iff, returns]⟩
    · next x raises =>
      refine Ends.note_bind ((ends_passOver x (Response.unreleased x)).mono fun r w' h => ?_)
      refine ⟨(Quietly.note w rfl).trans h.1, fun e => ?_⟩
      simpa [Value.failsToClose_custom_iff, raises] using h.2 e
    · next nothing => exact ⟨.refl w, by simp [Value.failsToClose_custom_iff, nothing]⟩
    · next a _ no_method =>
      -- The error of calling what is no method is plain, so it is passed over.
      obtain ⟨t, shown⟩ := (Thrown.isPlain_builtin "TypeError"
        ("'" ++ a.plainTypeName ++ "' object is not callable")).display
      refine (ends_passOver (Response.notCallable a) _).mono fun r w' h => ⟨h.1, fun e => ?_⟩
      rw [h.2 e]
      refine iff_of_false (Thrown.not_pierces rfl shown e) ?_
      simp [Value.failsToClose_custom_iff, no_method]
    · next none_own _ => exact ⟨.note w rfl, by simp [Value.failsToClose_custom_iff, none_own]⟩
    · next none_own _ => exact ⟨.note w rfl, by simp [Value.failsToClose_custom_iff, none_own]⟩
    · next none_own _ _ => exact ⟨.refl w, by simp [Value.failsToClose_custom_iff, none_own]⟩
  · next other => exact ⟨.refl w, fun e => iff_of_false nofun (Value.not_failsToClose other e)⟩

/-- A result is encoded as itself or as something that raises nothing. -/
theorem ends_encode [Interpreter] (v : Value) :
    Ends (Response.encode v) w fun r w' => w.Quietly w' ∧ match r with
      | .ok v' => ∀ e, v'.LetsThrough e → v.LetsThrough e
      | .error e => e.IsPlain ∨ v.LetsThrough e := by
  rw [Response.encode]
  split
  · exact ⟨.refl w, fun _ lets => lets⟩
  · refine Ends.ofExcept_bind (fun body _ => ?_) (fun e failed => ?_)
    · split
      · refine (ends_contentType v _).bind (fun t w' h => ⟨h.1, ?_⟩) (fun e w' h => ?_)
        · rintro e ⟨x, emits, brings⟩
          cases emits with
          | encoding failed => cases failed
          | packed same emits =>
            cases same
            exact absurd emits.letsThrough (Value.not_letsThrough_bytes _ x)
        · exact ⟨h.1, .inr ((h.2 e).1 rfl).letsThrough⟩
      · exact ⟨.refl w, fun e lets => absurd lets (Value.not_letsThrough_bytes _ e)⟩
    · exact ⟨.refl w, letsThrough_of_jsonOf failed⟩

/-! ## What a payload leaves -/

theorem Value.left_of_text? [Interpreter] {v : Value} {t : Text} (isText : v.text? = some t)
    (depth : Nat) : v.left depth = v := by
  rw [Value.text?.eq_def] at isText
  split at isText
  · rfl
  · rfl
  · cases isText

/-- What is left of anything but a text is no text. -/
theorem Value.text?_left [Interpreter] (v : Value) (depth : Nat) :
    (v.left depth).text? = v.text? := by
  cases v with
  | custom o =>
    obtain ⟨name, core, own⟩ := o
    cases core with
    | typed body mediaType => cases depth <;> rfl
    | custom o => cases o; rfl
    | _ => rfl
  | typed body mediaType => cases depth <;> rfl
  | _ => rfl

namespace Frame

/-- A path that is no text counts for nothing. -/
theorem unlisted_of_text? {f : Frame} {given : Value} (gives : f.givenPath = .ok given)
    (other : given.text? = none) :
    f.path? = none ∧ f.pathFault? = none ∧ ∀ path, f.pathAs? path = none := by
  refine ⟨?_, ?_, fun path => ?_⟩
  · rw [path?, gives]
    exact other
  · rw [pathFault?, gives]
    split
    · next eq => cases eq
    · next eq =>
      cases eq
      cases other
    · rfl
  · rw [pathAs?, gives]
    exact if_neg (by simp [other])

/-- What is left of a frame has the same path, as far as that is a text. -/
theorem path_left [Interpreter] (f : Frame) :
    f.left.path? = f.path? ∧ f.left.pathFault? = f.pathFault? ∧
      ∀ path, f.left.pathAs? path = f.pathAs? path := by
  have same_of_given : f.left.givenPath = f.givenPath → f.left.path? = f.path? ∧
      f.left.pathFault? = f.pathFault? ∧ ∀ path, f.left.pathAs? path = f.pathAs? path := by
    intro same
    refine ⟨?_, ?_, fun path => ?_⟩
    · rw [path?, path?, same]
    · rw [pathFault?, pathFault?, same]
    · rw [pathAs?, pathAs?, same]
  cases f with
  | other v => exact same_of_given rfl
  | pathed path v => exact same_of_given (by cases path <;> rfl)
  | site path line label =>
    cases isText : path.text? with
    | some t =>
      refine same_of_given ?_
      rw [left]
      simp only [givenPath, Value.left_of_text? isText]
    | none =>
      obtain ⟨path_eq, fault_eq, as_eq⟩ := unlisted_of_text? (f := .site path line label) rfl isText
      obtain ⟨path_eq', fault_eq', as_eq'⟩ :=
        unlisted_of_text? (f := (Frame.site path line label).left) rfl
          ((Value.text?_left path _).trans isText)
      exact ⟨path_eq'.trans path_eq.symm, fault_eq'.trans fault_eq.symm,
        fun path => (as_eq' path).trans (as_eq path).symm⟩

theorem filterMap_lefts [Interpreter] {α : Type} {key : Frame → Option α}
    (same : ∀ f, key f.left = key f) (fs : List Frame) :
    (lefts fs).filterMap key = fs.filterMap key := by
  induction fs with
  | nil => rfl
  | cons f fs ih =>
    rw [lefts, List.filterMap_cons, List.filterMap_cons, same f]
    split
    · split
      · exact ih
      · rfl
    · split
      · rw [ih]
      · rfl

end Frame

namespace Report

variable [Interpreter]

theorem filterMap_left {α : Type} {key : Frame → Option α} (same : ∀ f, key f.left = key f)
    (r : Report) : r.left.frames.filterMap key = r.frames.filterMap key := by
  obtain ⟨errorType, message, stack, shouldExit⟩ := r
  dsimp only [left, frames]
  split
  · cases stack with
    | none => rfl
    | some fs => exact Frame.filterMap_lefts same fs
  · rfl

/-- The trace document lists the paths that the report had in the beginning. -/
theorem paths_left (r : Report) : r.left.paths = r.paths := by
  rw [paths, filterMap_left (fun f => f.path_left.1), paths]

theorem checkPaths_left (r : Report) : r.left.checkPaths = r.checkPaths := by
  have listed_left : ∀ path, r.left.listed path = r.listed path := by
    intro path
    rw [listed, listed, ← List.head?_filterMap, ← List.head?_filterMap,
      filterMap_left (fun f => f.path_left.2.2 path)]
  rw [checkPaths, checkPaths, paths_left, ← List.head?_filterMap, ← List.head?_filterMap,
    filterMap_left (fun f => f.path_left.2.1)]
  simp only [listed_left]

end Report

/-! ## Trace documents -/

namespace Report

/-- The paths of the frames of a report can be listed. -/
def ListsPaths (r : Report) : Prop :=
  r.checkPaths = .ok ()

/-- A frame of a report raises an error when its path is looked at. -/
def Emits (r : Report) (e : Thrown) : Prop :=
  ∃ f ∈ r.frames, f.pathFault? = some e

/-- The paths of places are texts. -/
theorem listsPaths_of_sites {r : Report} {sites : List Site}
    (frames : r.frames = sites.map Site.frame) : r.ListsPaths := by
  have faultless : r.frames.findSome? Frame.pathFault? = none := by
    rw [frames, List.findSome?_eq_none_iff, List.forall_mem_map]
    exact fun _ _ => rfl
  have listed_text : ∀ path, r.listed path = .text path := by
    intro path
    rw [listed, frames]
    cases found : (sites.map Site.frame).findSome? fun f => f.pathAs? path with
    | none => rfl
    | some given =>
      obtain ⟨f, mem, same⟩ := List.exists_of_findSome?_eq_some found
      obtain ⟨s, -, rfl⟩ := List.mem_map.1 mem
      obtain ⟨isText, given_eq⟩ := Option.ite_none_right_eq_some.1 same
      rw [← given_eq, Option.some.inj isText]
      rfl
  rw [ListsPaths, checkPaths, faultless]
  dsimp only
  rw [if_pos]
  rw [List.isEmpty_iff, List.filterMap_eq_nil_iff]
  rintro ⟨path, n⟩ -
  dsimp only
  rw [listed_text]
  rfl

theorem listsPaths_of_frames {r : Report} (none : r.frames = []) : r.ListsPaths :=
  have no_sites : r.frames = ([] : List Site).map Site.frame := none
  listsPaths_of_sites no_sites

theorem emits_of_checkPaths {r : Report} {e : Thrown} (failed : r.checkPaths = .error e) :
    e.IsPlain ∨ r.Emits e := by
  rw [checkPaths] at failed
  split at failed
  · next x fault =>
    cases failed
    exact .inr (List.exists_of_findSome?_eq_some fault)
  · dsimp only at failed
    split at failed
    · cases failed
    · cases failed
      exact .inl (Thrown.isPlain_validation _)

end Report

/-- Paths that cannot be listed are the only thing that fails here. -/
theorem ends_traceDocument [Interpreter] (r : Report) :
    Ends (Run.traceDocument r) w fun s w' => w.Quietly w' ∧
      match r.checkPaths with
      | .error e => s = .error e
      | .ok () => ∃ cause, s = .ok cause := by
  refine Ends.ofExcept_bind (fun _ lists => Ends.get_bind ?_) fun e unlisted => ?_
  · rw [lists]
    split
    · exact ⟨.refl w, _, rfl⟩
    · exact ⟨.log w _, _, rfl⟩
  · rw [unlisted]
    exact ⟨.refl w, rfl⟩

/-- The paths can be listed if those that the report had before it was sent can be. -/
theorem Report.ListsPaths.ends_traceDocument [Interpreter] {r : Report} (lists : r.ListsPaths) :
    Ends (Run.traceDocument r.left) w fun s w' => w.Quietly w' ∧ ∃ cause, s = .ok cause := by
  refine (InvokeWorker.ends_traceDocument r.left).mono fun s w' h => ?_
  rw [checkPaths_left, lists] at h
  exact h

/-! ## Reports -/

/-- A request that reports a body at a URL, and the reply to it. -/
structure Posted (replies : Replies) (url : Text) (body : Value) (r : Request) (reply : Reply) :
    Prop where
  method : r.method = "POST"
  url : ∃ u, Client.normalize url = .ok u ∧ r.url = u.toText ∧ reply = Client.replyTo replies u
  body : ∃ b, Body.of body = .ok b ∧ b.content = .ok r.body

/-- What the reply to a report leads to: only one that is taken to success. -/
inductive Answered [Interpreter] : Reply → Except Thrown Unit → Prop
  | taken : Answered .accepted (.ok ())
  | refused {status : Int} {e : Thrown} : status ≠ Reply.acceptedStatus → e.IsPlain →
    Answered (.status status) (.error e)
  | failed {x e : Thrown} : e.IsPlain ∨ x.Brings e → Answered (.failure x) (.error e)

/-- An invoke is reported by one request, or the report cannot be sent: that is an error of the
    worker's own, or what is to be reported has let it through. -/
inductive Reported [Interpreter] (Lets : Thrown → Prop) (i : Invoke) (action : Text) (body : Value)
    (w : Worker) : Except Thrown Unit → Worker → Prop
  | unsent {e : Thrown} : e.IsPlain ∨ Lets e → Reported Lets i action body w (.error e) w
  | sent {c : Client} {request : Request} {reply : Reply} {r : Except Thrown Unit} :
    i.client = some c → Posted w.replies (c.invocationUrl i.id action) body request reply →
    Answered reply r → Reported Lets i action body w r (w.note (.request request))

theorem Reported.mono [Interpreter] {Lets Lets' : Thrown → Prop} {i : Invoke} {action : Text}
    {body : Value} {r : Except Thrown Unit} {w' : Worker} (h : Reported Lets i action body w r w')
    (more : ∀ e, Lets e → Lets' e) : Reported Lets' i action body w r w' := by
  cases h with
  | unsent came => exact .unsent (came.imp_right (more _))
  | sent bound posted answered => exact .sent bound posted answered

/-- How a POST ends that was replied to. -/
def Client.afterReply [Interpreter] (url : Text) : Reply → Except Thrown Unit
  | .failure e => .error (transportFailure ("failed to POST to " ++ url) e)
  | .status status =>
    if status = Reply.acceptedStatus then .ok ()
    else .error (unexpectedStatus "POST to " url status)

/-- The request of a POST that can be made. -/
def Client.posting (u : Url) (octets : Bytes) (b : Body) (content : Bytes) (cause : Option Bytes) :
    Request :=
  ⟨"POST", u.toText, some octets, b.length, b.length.isNone, content, userAgent,
    cause.filter fun b => b.length < causeLimit⟩

/-- What is wrong with a POST that cannot be made. -/
def Client.Unmade [Interpreter] (url : Text) (body : Value) (type : Text) (e : Thrown) : Prop :=
  normalize url = .error e ∨ headerOctets type = .error e ∨ Body.of body = .error e ∨
    ∃ b x, Body.of body = .ok b ∧ b.content = .error x ∧
      e = transportFailure ("failed to POST to " ++ url) x

/-- How a POST ends: it cannot be made, or there is one request and it ends as the reply says. -/
inductive Client.Concludes [Interpreter] (url : Text) (body : Value) (type : Text)
    (cause : Option Bytes) (w : Worker) : Except Thrown Unit → Worker → Prop
  | unmade {e : Thrown} : Unmade url body type e → Concludes url body type cause w (.error e) w
  | made {u : Url} {octets content : Bytes} {b : Body} : normalize url = .ok u →
    headerOctets type = .ok octets → Body.of body = .ok b → b.content = .ok content →
    Concludes url body type cause w (afterReply url (replyTo w.replies u))
      (w.note (.request (posting u octets b content cause)))

theorem concludes_post [Interpreter] (url : Text) (body : Value) (type : Text)
    (cause : Option Bytes) :
    Ends (Client.post url body type cause) w (Client.Concludes url body type cause w) := by
  refine Ends.ofExcept_bind (fun u parsed => ?_) fun e failed => .unmade (.inl failed)
  refine Ends.ofExcept_bind (fun octets typed => ?_) fun e failed => .unmade (.inr (.inl failed))
  refine Ends.ofExcept_bind (fun b made => ?_) fun e failed =>
    .unmade (.inr (.inr (.inl failed)))
  refine Ends.ofExcept_bind (fun content read => ?_) fun e failed => ?unread
  case unread =>
    cases content : b.content with
    | ok octets =>
      rw [content] at failed
      cases failed
    | error x =>
      rw [content] at failed
      cases failed
      exact .unmade (.inr (.inr (.inr ⟨b, x, made, content, rfl⟩)))
  replace read : b.content = .ok content := by
    cases eq : b.content with
    | ok octets =>
      rw [eq] at read
      exact congrArg _ (Except.ok.inj read)
    | error x =>
      rw [eq] at read
      cases read
  -- Until now nothing has reached the transport.
  refine Ends.note_bind (Ends.get_bind ?_)
  have conclusion : Client.Concludes url body type cause w _ _ := .made parsed typed made read
  split
  · next x failed =>
    have reply : Client.replyTo w.replies u = .failure x := failed
    rw [reply] at conclusion
    exact conclusion
  · next status answered =>
    have reply : Client.replyTo w.replies u = .status status := answered
    rw [reply, Client.afterReply] at conclusion
    split
    · next other =>
      rw [if_neg other] at conclusion
      exact conclusion
    · next accepted =>
      rw [if_pos (Decidable.not_not.1 accepted)] at conclusion
      exact conclusion

theorem brings_transportFailure [Interpreter] (remark : Text) (x : Thrown) :
    (Client.transportFailure remark x).IsPlain ∨ x.Brings (Client.transportFailure remark x) := by
  rw [Client.transportFailure]
  split
  · split
    · exact .inl (Thrown.isPlain_runtimeApi _ _)
    · next raised unshown => exact .inr (.text .self unshown)
  · exact .inr .self

/-- A failure of the transport that is plain is raised as a plain error. -/
theorem Thrown.IsPlain.transportFailure [Interpreter] {x : Thrown} (plain : x.IsPlain)
    (remark : Text) : (Client.transportFailure remark x).IsPlain := by
  obtain ⟨t, shown⟩ := plain.display
  rw [Client.transportFailure, shown]
  split
  · exact Thrown.isPlain_runtimeApi _ _
  · exact plain

theorem Client.Unmade.came [Interpreter] {url type : Text} {body : Value} {e : Thrown}
    (unmade : Client.Unmade url body type e) : e.IsPlain ∨ body.LetsThrough e := by
  obtain failed | failed | failed | ⟨b, x, made, failed, rfl⟩ := unmade
  · exact .inl (plainly_normalize url e failed)
  · exact .inl (plainly_headerOctets type e failed)
  · exact .inl (plainly_body body e failed)
  · rcases emits_of_content made failed with plain | emits
    · exact .inl (plain.transportFailure _)
    · exact (brings_transportFailure _ x).imp_right fun brings => ⟨x, emits, brings⟩

theorem answered_afterReply [Interpreter] (url : Text) (reply : Reply) :
    Answered reply (Client.afterReply url reply) := by
  cases reply with
  | failure x => exact .failed (brings_transportFailure _ x)
  | status status =>
    rw [Client.afterReply]
    split
    · next accepted =>
      rw [accepted]
      exact .taken
    · next other => exact .refused other (Thrown.isPlain_runtimeApi _ _)

/-- A POST for an invoke reports it. -/
theorem ends_post_of_bound [Interpreter] {i : Invoke} {c : Client} (bound : i.client = some c)
    (action : Text) (body : Value) (contentType : Text) (cause : Option Bytes) :
    Ends (Client.post (c.invocationUrl i.id action) body contentType cause) w
      (Reported body.LetsThrough i action body w) := by
  refine (concludes_post _ body contentType cause).mono ?_
  rintro _ _ (unmade | @⟨u, octets, content, b, parsed, typed, made, read⟩)
  · exact .unsent unmade.came
  · exact .sent bound ⟨rfl, ⟨u, parsed, rfl, rfl⟩, b, made, read⟩ (answered_afterReply _ _)

theorem ends_succeed [Interpreter] (i : Invoke) (body : Value) (contentType : Text) :
    Ends (i.succeed body contentType) w (Reported body.LetsThrough i "response" body w) := by
  rw [Invoke.succeed, Invoke.boundClient]
  split
  · next c bound => exact ends_post_of_bound bound "response" body contentType none
  · exact .unsent (.inl (Thrown.isPlain_builtin _ _))

/-- The report of an error is bytes, which let nothing through. -/
theorem ends_fail [Interpreter] (i : Invoke) (b : Bytes) (contentType : Text)
    (cause : Option Bytes) : Ends (i.fail (.bytes b) contentType cause) w
      (Reported (fun _ => False) i "error" (.bytes b) w) := by
  rw [Invoke.fail, Invoke.boundClient]
  split
  · next c bound =>
    refine (ends_post_of_bound bound "error" (.bytes b) contentType cause).mono ?_
    exact fun _ _ reported => reported.mono fun e => Value.not_letsThrough_bytes b e
  · exact .unsent (.inl (Thrown.isPlain_builtin _ _))

/-- A plain error carries no status code of handler code. -/
theorem Thrown.IsPlain.statusCode {e : Thrown} (plain : e.IsPlain) : ∃ v, e.statusCode = .ok v := by
  rw [Thrown.statusCode]
  cases detail : e.detail with
  | hooks hooks => exact absurd detail (plain.detail hooks)
  | _ => exact ⟨_, rfl⟩

/-- A plain error has a text, and gives way to a plain error. -/
theorem ends_asApiError_of_isPlain [Interpreter] (remark : Text) {e : Thrown} (plain : e.IsPlain) :
    Ends (Run.asApiError remark e) w fun s w' => w' = w ∧ ∃ e', s = .ok e' ∧ e'.IsPlain := by
  obtain ⟨t, shown⟩ := plain.display
  obtain ⟨status, known⟩ := plain.statusCode
  rw [Run.asApiError, shown]
  dsimp only
  rw [known]
  exact ⟨rfl, _, rfl, Thrown.isPlain_runtimeApi _ _⟩

/-- Another error may have no text or no status code; what came up when it was asked for these then
    takes its place. -/
theorem ends_asApiError [Interpreter] (remark : Text) (e : Thrown) :
    Ends (Run.asApiError remark e) w fun s w' =>
      w' = w ∧ ∃ e', s = .ok e' ∧ (e'.IsPlain ∨ e.Brings e') := by
  rw [Run.asApiError]
  split
  · next raised unshown => exact ⟨rfl, _, rfl, .inr (.text .self unshown)⟩
  · split
    · next raised unknown => exact ⟨rfl, _, rfl, .inr (.status .self unknown)⟩
    · exact ⟨rfl, _, rfl, .inl (Thrown.isPlain_runtimeApi _ _)⟩

theorem Answered.ends_asApiError [Interpreter] (remark : Text) {reply : Reply} {e : Thrown}
    (h : Answered reply (.error e)) :
    Ends (Run.asApiError remark e) w fun s w' =>
      w' = w ∧ ∃ e', s = .ok e' ∧ Answered reply (.error e') := by
  cases h with
  | refused other plain =>
    refine (ends_asApiError_of_isPlain remark plain).mono ?_
    rintro _ _ ⟨same, e', rfl, plain'⟩
    exact ⟨same, e', rfl, .refused other plain'⟩
  | failed came =>
    rcases came with plain | brings
    · refine (ends_asApiError_of_isPlain remark plain).mono ?_
      rintro _ _ ⟨same, e', rfl, plain'⟩
      exact ⟨same, e', rfl, .failed (.inl plain')⟩
    · refine (InvokeWorker.ends_asApiError remark e).mono ?_
      rintro _ _ ⟨same, e', rfl, came⟩
      exact ⟨same, e', rfl, .failed (came.imp_right brings.trans)⟩

/-- Saying what could not be done does not change what has been reported. -/
theorem Reported.ends_replacing [Interpreter] {Lets : Thrown → Prop} {i : Invoke} {action : Text}
    {body : Value} {run : Run Unit} (remark : Text)
    (closed : ∀ e e', Lets e → e.Brings e' → Lets e')
    (h : Ends run w (Reported Lets i action body w)) :
    Ends (run.replacing (Run.asApiError remark)) w (Reported Lets i action body w) := by
  refine h.replacing (fun _ _ h => h) fun e w' reported => ?_
  split
  · cases reported with
    | unsent came =>
      rcases came with plain | lets
      · refine (ends_asApiError_of_isPlain remark plain).mono ?_
        rintro _ _ ⟨rfl, e', rfl, plain'⟩
        exact .unsent (.inl plain')
      · refine (ends_asApiError remark e).mono ?_
        rintro _ _ ⟨rfl, e', rfl, came⟩
        exact .unsent (came.imp_right (closed e e' lets))
    | sent bound posted answered =>
      refine (answered.ends_asApiError remark).mono ?_
      rintro _ _ ⟨rfl, e', rfl, answered'⟩
      exact .sent bound posted answered'
  · exact reported

/-- A failure is reported by the document of its report, unless its paths cannot be listed. -/
theorem ends_reportFailure [Interpreter] (i : Invoke) (r : Report) :
    Ends (Run.reportFailure i r) w fun s w' =>
      ∃ w₁, w.Quietly w₁ ∧ Reported r.Emits i "error" (.bytes r.payload) w₁ s w' := by
  refine Ends.log_bind ((ends_traceDocument r.left).bind (fun cause w₁ h => ?_) fun e w' h => ?_)
  · refine (Reported.ends_replacing _ (fun _ _ => False.elim) (ends_fail i _ _ cause)).mono ?_
    intro s w' reported
    exact ⟨w₁, (Quietly.log w _).trans h.1, reported.mono fun _ => False.elim⟩
  · refine ⟨w', (Quietly.log w _).trans h.1, .unsent ?_⟩
    have failed := h.2
    rw [Report.checkPaths_left] at failed
    split at failed
    · next x unlisted =>
      cases failed
      exact Report.emits_of_checkPaths unlisted
    · exact absurd failed nofun

/-- A response is reported by its body, and released afterwards, whatever has come of that; if the
    release raises an error, that counts. -/
theorem ends_sendResponse_exact [Interpreter] {P : Worker → Prop} {response : Value} (i : Invoke)
    (negotiated : Ends (Response.negotiate response) w fun r w₁ => P w₁ ∧ match r with
      | .ok (body, _) => Response.source response = .ok body
      | .error e => e.IsPlain ∨ response.LetsThrough e) :
    Ends (Run.sendResponse i response) w fun r w' => ∃ body w₁ w₂ s released, P w₁ ∧
      Reported response.LetsThrough i "response" body w₁ s w₂ ∧
      Response.release response w₂ = Run.ended released w' ∧ r = released.bind fun _ => s := by
  refine Ends.andFinally (P := fun s w₂ =>
    ∃ body w₁, P w₁ ∧ Reported response.LetsThrough i "response" body w₁ s w₂) ?sent ?released
  case sent =>
    refine negotiated.bind (fun (source, _) w₁ h => ?_) (fun e w₁ h => ?_)
    · have lets : ∀ e, source.LetsThrough e → response.LetsThrough e :=
        fun _ => letsThrough_of_source h.2
      exact (Reported.ends_replacing _ (fun _ _ => .trans) (ends_succeed i _ _)).mono
        fun r w₂ reported => ⟨_, w₁, h.1, reported.mono lets⟩
    · exact ⟨.null, w₁, h.1, .unsent h.2⟩
  case released =>
    rintro s w₂ ⟨body, w₁, holds, reported⟩
    refine (Ends.self (Response.release response) w₂).mono ?_
    rintro (e | ⟨⟩) w' released
    · exact ⟨body, w₁, w₂, s, .error e, holds, reported, released, rfl⟩
    · exact ⟨body, w₁, w₂, s, .ok (), holds, reported, released, rfl⟩

/-- What is done with a response beside that goes unnoticed, unless it raises an error. -/
theorem ends_sendResponse [Interpreter] (i : Invoke) (response : Value) :
    Ends (Run.sendResponse i response) w fun r w' => ∃ body w₁ w₂ s,
      w.Quietly w₁ ∧ Reported response.LetsThrough i "response" body w₁ s w₂ ∧ w₂.Quietly w' ∧
        (r = s ∨ ∃ e, r = .error e ∧ response.LetsThrough e) := by
  refine (ends_sendResponse_exact i (ends_negotiate response)).mono ?_
  rintro r w' ⟨body, w₁, w₂, s, released, quiet, reported, ended, rfl⟩
  obtain ⟨released', w'', ended', quiet', lets⟩ :=
    (ends_release (w := w₂) response).exists_ended
  rw [ended] at ended'
  obtain ⟨rfl, rfl⟩ := Run.ended_inj ended'
  refine ⟨body, w₁, w₂, s, quiet, reported, quiet', ?_⟩
  cases released with
  | ok => exact .inl rfl
  | error e => exact .inr ⟨e, rfl, ((lets e).1 rfl).letsThrough⟩

theorem Reported.scopes [Interpreter] {Lets : Thrown → Prop} {i : Invoke} {action : Text}
    {body : Value} {r : Except Thrown Unit} {w' : Worker} (h : Reported Lets i action body w r w') :
    w'.scopes = w.scopes := by
  cases h with
  | unsent came => rfl
  | sent bound posted answered => rfl

/-- A malformed invoke is reported as one. -/
theorem ends_reject [Interpreter] (i : Invoke) {e : Thrown} (plain : e.IsPlain) :
    Ends (Run.reject i e) w fun s w' =>
      ∃ (r : Report) (w₁ : Worker), w.Quietly w₁ ∧
        Reported (fun _ => False) i "error" (.bytes r.payload) w₁ s w' := by
  refine Ends.ofExcept_bind (fun t _ => ?_) fun e' unshown => ?_
  · refine Ends.log_bind (Ends.ofExcept_bind (fun r made => ?_) fun e' unreported => ?_)
    · refine (ends_reportFailure i r).mono fun s w' ⟨w₁, quiet, reported⟩ => ?_
      refine ⟨r, w₁, (Quietly.log w _).trans quiet, reported.mono ?_⟩
      -- The report of a malformed invoke has no frames that could raise an error.
      rintro x ⟨f, mem, -⟩
      rw [plain.frames_ofError made] at mem
      exact List.not_mem_nil mem
    · obtain ⟨r, report⟩ := plain.ofError []
      simp [report] at unreported
  · obtain ⟨t, shown⟩ := plain.display
    simp [shown] at unshown

/-! ## The context of an invoke -/

theorem ends_publishTrace (header : Text) :
    Ends (Run.publishTrace header) w fun r w' => w.Adds [] w' ∧ w'.scopes = w.scopes ∧
      match Correlation.unpublishable? header with
      | some e => r = .error e
      | none => r = .ok () := by
  have unchanged : w.Adds [] w := ⟨(List.append_nil _).symm, rfl⟩
  have published : w.correlation.publishTrace header =
      match Correlation.unpublishable? header with
      | some e => .error e
      | none => .ok { w.correlation with
          trace := if header.isEmpty then none else some header
          published := some header } := rfl
  refine Ends.get_bind ?_
  rw [published]
  cases Correlation.unpublishable? header with
  | none => exact ⟨⟨unchanged.journal, rfl⟩, rfl, rfl⟩
  | some e => exact ⟨unchanged, rfl, rfl⟩

/-- A context is built in steps that can fail before a scope is created, and after. -/
theorem ends_build (i : Invoke) (base : Context) (settings : Option FunctionSettings) :
    Ends (Context.build i base settings) w fun r w' => w.Adds [] w' ∧
      match Invocation.ofInvoke i settings with
      | .error e => r = .error e ∧ w'.scopes = w.scopes
      | .ok invocation => w'.scopes = (w.derive base invocation.deadline).1.scopes ∧
        match Correlation.unpublishable? invocation.trace with
        | some e => r = .error e
        | none => ∃ c, r = .ok c ∧ c.scope = w.scopes.scopes.length := by
  have unchanged : w.Adds [] w := ⟨(List.append_nil _).symm, rfl⟩
  refine Ends.ofExcept_bind (fun invocation ok => ?_) fun e failed => ?_
  · rw [ok]
    refine Ends.act_bind ((ends_publishTrace invocation.trace).bind ?_ ?_)
    · rintro ⟨⟩ w' ⟨adds, scopes, published⟩
      refine ⟨⟨adds.journal, adds.replies⟩, scopes, ?_⟩
      split at published
      · cases published
      · exact ⟨_, rfl, rfl⟩
    · rintro e w' ⟨adds, scopes, refused⟩
      refine ⟨⟨adds.journal, adds.replies⟩, scopes, ?_⟩
      split at refused
      · cases refused
        rfl
      · cases refused
  · rw [failed]
    exact ⟨unchanged, rfl, rfl⟩

end InvokeWorker
