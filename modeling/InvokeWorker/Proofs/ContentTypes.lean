import InvokeWorker.Proofs.Release
import InvokeWorker.Proofs.Sendable

/-!
# The content types of results

Three places look at what a result is capable of: what encodes it, what decides whether it can be
sent, and what sends it. They have to come to the same answer (`Value.IsSentAs`): what a result is
encoded as can be sent, and it is sent with the content type the result declares.

* `Response.encode_agrees`: they do, and so an adapted handler never returns anything that cannot
  be sent. But a text without an encoding that declares a content type is left as it is, and then
  nothing is sent of it, neither a body nor a type.

A result can also raise an error when it is asked for its type. Whoever asks gets the same error, so
that too is an answer all of them come to.
* `Response.not_forall_negotiates`: there is such a text.
-/

namespace InvokeWorker

open Run (Ends)

namespace Value

/-- This is what comes of asking the value for its content type: that or else the default, or an
    error. -/
def HasType [Interpreter] (v : Value) (t : Except Thrown Text) : Prop :=
  ∀ u, Ends (Response.contentType v ContentType.octets) u fun r _ => r = t

/-- For the value such a body is sent with the content type it has, or there is the error of asking
    for that. -/
def Negotiates [Interpreter] (v body : Value) (t : Except Thrown Text) : Prop :=
  ∀ u, Ends (Response.negotiate v) u fun r _ => r = t.map (body, ·)

/-- The result `v` was encoded as `e`, and all that is asked of the two is answered alike. -/
structure IsSentAs [Interpreter] (v e : Value) : Prop where
  /-- What was made of the result can be sent. -/
  isBody : e.isBody = true
  /-- It is sent with the content type of the result. -/
  type : ∃ t, v.HasType t ∧ e.HasType t ∧ (¬ e.IsIllFormed → ∃ body, e.Negotiates body t)
  /-- A text without an encoding is the result itself, and nothing is sent. -/
  unsent : e.IsIllFormed → e = v ∧ ∃ message, ∀ u, Ends (Response.negotiate e) u fun r u' =>
    r = .error (.builtin "UnicodeEncodeError" message) ∧ u' = u
  /-- The results that are left as they are. -/
  same : e = v ↔ v.isByteArray = true ∨ v.bytes?.isSome = true ∨ v.isReadable = true ∨
    v.declaresContentType = true ∧ v.isBody = true

variable {v e body : Value} {t : Except Thrown Text}

/-- The worker makes no difference to what is passed over. -/
theorem exists_passOver [Interpreter] (x : Thrown) (entry : Text → LogEntry) :
    ∃ r, ∀ u, Ends (Response.passOver x entry) u fun r' _ => r' = r := by
  rw [Response.passOver]
  split
  · cases x.display with
    | ok shown => exact ⟨.ok (), fun _ => rfl⟩
    | error raised => exact ⟨.error raised, fun _ => rfl⟩
  · exact ⟨.error x, fun _ => rfl⟩

theorem exists_hasType [Interpreter] (v : Value) : ∃ t, v.HasType t := by
  cases v with
  | typed b mediaType => exact ⟨_, fun _ => rfl⟩
  | custom o =>
    obtain ⟨name, core, contentType, own⟩ := o
    cases contentType with
    | none => cases core <;> exact ⟨_, fun _ => rfl⟩
    | some member =>
      cases member with
      | raises x =>
        obtain ⟨r, passed⟩ := exists_passOver x Response.undeclared
        refine ⟨r.map fun _ => ContentType.octets, fun u => ?_⟩
        refine Ends.note_bind ((passed _).bind ?_ ?_)
        · rintro _ u' rfl
          rfl
        · rintro e u' rfl
          rfl
      | _ => exact ⟨_, fun _ => rfl⟩
  | _ => exact ⟨_, fun _ => rfl⟩

theorem hasType_of_undeclared [Interpreter] (undeclared : v.declaresContentType = false) :
    v.HasType (.ok ContentType.octets) := by
  intro u
  cases v with
  | typed b mediaType => cases undeclared
  | custom o =>
    obtain ⟨name, core, contentType, own⟩ := o
    cases contentType with
    | none => cases core <;> first | rfl | cases undeclared
    | some member => cases member <;> first | rfl | cases undeclared
  | _ => rfl

/-- Of a body there is something to send, unless it is a text without an encoding or a view that was
    released. -/
theorem exists_source (no_view : v ≠ .releasedView) (well : ¬ v.IsIllFormed) :
    ∃ source, Response.source v = .ok source := by
  by_cases some_value : v = .null
  · subst some_value
    exact ⟨_, rfl⟩
  cases packed : v.packed? with
  | some y => exact ⟨y, source_of_packed packed⟩
  | none =>
    cases is_text : v.text? with
    | none => exact ⟨v, source_of_other some_value no_view packed is_text⟩
    | some t =>
      have scalar : t.hasSurrogate = false :=
        Bool.eq_false_iff.2 fun surrogate => well ⟨t, is_text, surrogate⟩
      refine ⟨.bytes (Utf8.encodeLax t), ?_⟩
      rw [source_of_text is_text, Utf8.encode?, Utf8.unencodable?_eq_none_iff.2 scalar]

theorem HasType.negotiates [Interpreter] (type : v.HasType t)
    (sourced : Response.source v = .ok body) : v.Negotiates body t := by
  intro u
  rw [Response.negotiate, sourced]
  refine (type u).bind ?_ ?_
  · rintro _ u' rfl
    rfl
  · rintro e u' rfl
    rfl

theorem IsIllFormed.ends_negotiate [Interpreter] (ill : v.IsIllFormed) :
    ∃ message, ∀ u, Ends (Response.negotiate v) u fun r u' =>
      r = .error (.builtin "UnicodeEncodeError" message) ∧ u' = u := by
  obtain ⟨message, failed⟩ := ill.source
  refine ⟨message, fun u => ?_⟩
  rw [Response.negotiate, failed]
  exact ⟨rfl, rfl⟩

theorem passesThrough_iff : v.passesThrough = true ↔ v.isByteArray = true ∨
    v.bytes?.isSome = true ∨ v.isReadable = true ∨
    v.declaresContentType = true ∧ v.isBody = true := by
  rw [passesThrough, Bool.or_eq_true, Bool.or_eq_true, Bool.or_eq_true, Bool.and_eq_true, or_assoc,
    or_assoc]

/-- A view that was released is not left as it is. -/
theorem ne_releasedView (passes : v.passesThrough = true) : v ≠ .releasedView := by
  rintro rfl
  cases passes

/-! ## Results that are left as they are, and others -/

theorem isSentAs_self [Interpreter] (passes : v.passesThrough = true) : v.IsSentAs v := by
  have body := isBody_of_passesThrough passes
  obtain ⟨t, type⟩ := v.exists_hasType
  refine ⟨body, ⟨t, type, type, fun well => ?_⟩, fun ill => ⟨rfl, ill.ends_negotiate⟩,
    fun _ => passesThrough_iff.1 passes, fun _ => rfl⟩
  obtain ⟨source, sourced⟩ := exists_source (ne_releasedView passes) well
  exact ⟨source, type.negotiates sourced⟩

/-- A result that was encoded as another value, which is no text. -/
theorem isSentAs_of_encoded [Interpreter] (encoded : v.passesThrough = false)
    (passes : e.passesThrough = true) (no_text : e.text? = none) (type : v.HasType t)
    (type' : e.HasType t) : v.IsSentAs e := by
  have body := isBody_of_passesThrough passes
  have other : e ≠ v := by
    rintro rfl
    cases encoded.symm.trans passes
  have well : ¬ e.IsIllFormed := by
    rintro ⟨t, is_text, -⟩
    cases no_text.symm.trans is_text
  obtain ⟨source, sourced⟩ := exists_source (ne_releasedView passes) well
  refine ⟨body, ⟨t, type, type', fun _ => ⟨source, type'.negotiates sourced⟩⟩,
    fun ill => absurd ill well, fun same => absurd same other, fun passes => ?_⟩
  cases encoded.symm.trans (passesThrough_iff.2 passes)

end Value

/-- What a result is encoded as is sent as the result asks for. -/
theorem ends_encode_isSentAs [Interpreter] (v : Value) (w : Worker) :
    Ends (Response.encode v) w fun r _ => ∀ e, r = .ok e → v.IsSentAs e := by
  cases passes : v.passesThrough with
  | true =>
    rw [encode_of_passesThrough passes]
    rintro _ ⟨⟩
    exact Value.isSentAs_self passes
  | false =>
    rw [Response.encode, if_neg (by simp [passes])]
    refine Ends.ofExcept_bind (fun body _ => ?_) ?_
    · cases declares : v.declaresContentType with
      | false =>
        rintro _ ⟨⟩
        exact Value.isSentAs_of_encoded passes rfl rfl (Value.hasType_of_undeclared declares)
          fun _ => rfl
      | true =>
        obtain ⟨t, type⟩ := v.exists_hasType
        refine (type w).bind ?_ ?_
        · rintro declared w' rfl _ ⟨⟩
          exact Value.isSentAs_of_encoded passes rfl rfl type fun _ => rfl
        · rintro e w' - _ ⟨⟩
    · rintro e - _ ⟨⟩

variable {h : Handler} {base context : Context} {payload : Bytes} {x : Value} {w w' : Worker}

/-- A call with an event ends with a result that was encoded, or with an error. -/
theorem ends_conclude_isBody [Interpreter] (h : Handler) (ending : Ending) (w : Worker) :
    Ends (h.conclude ending) w fun r _ => ∀ x, r = .ok (.returns x) →
      x.isBody = true := by
  rw [Handler.conclude]
  split
  · rintro _ ⟨⟩
  · next v _ =>
    refine (ends_encode_isSentAs v w).outcome_bind fun r _ sent => ?_
    cases r with
    | error e => rintro _ ⟨⟩
    | ok e =>
      rintro _ ⟨⟩
      exact (sent e rfl).isBody

theorem isBody_of_invoke [Interpreter] (adapted : h.style ≠ .raw)
    (invoked : h.invoke base context payload w = .ok (.ok x) w') : x.isBody = true := by
  have ends : Ends (h.run base context payload) w fun r _ => ∀ x, r = .ok (.returns x) →
      x.isBody = true := by
    rw [Handler.run_of_adapted adapted, Handler.runAdapted_eq]
    split
    · rintro _ ⟨⟩
    · refine Ends.act_bind ?_
      exact ends_conclude_isBody _ _ _
  rw [Ends, run_of_invoke invoked] at ends
  exact ends x rfl

namespace Response

/-- A result is encoded as something that can be sent and that declares the same content type. This
    is the result itself exactly if it is a byte sequence, can be read, or is a body and declares a
    content type. It is sent with this type, unless it is a text without an encoding, of which
    nothing can be sent. So the loop sends whatever an adapted handler gives. -/
theorem encode_agrees [Interpreter] (v e : Value) (w w' : Worker)
    (encoded : encode v w = .ok e w') : v.IsSentAs e ∧
    ∀ (options : HandlerOptions) (i : Invoke) (context : Context) (u u' : Worker) (x : Value),
      options.handler.style ≠ .raw →
      options.handler.invoke options.base context i.payload u = .ok (.ok x) u' →
      x.isBody = true ∧ Run.execute i context options u = Run.sendResponse i x u' := by
  have ends := ends_encode_isSentAs v w
  rw [Ends, encoded] at ends
  refine ⟨ends e rfl, fun options i context u u' x adapted invoked => ?_⟩
  have body := isBody_of_invoke adapted invoked
  rw [Run.execute_eq, Run.bind_of_ok invoked, settle_of_isBody body]
  exact ⟨body, rfl⟩

/-- A text of a derived class that declares a content type. -/
def page (t : Text) : Value :=
  .custom ⟨"Page", .text t,
    { Capabilities.none with contentType := some (.returns (.text "text/html")) }⟩

/-- A page is left as it is, also if it is the result of an adapted handler. -/
theorem encode_agrees_page :
    encode (page "a") (.start 0 none) = .ok (page "a") (.start 0 none) ∧
    (page "a").IsSentAs (page "a") ∧
    ∃ context u u', (HandlerOptions.returning (page "a")).handler.style ≠ .raw ∧
      (HandlerOptions.returning (page "a")).handler.invoke (.ofScope 0) context [] u =
        .ok (.ok (page "a")) u' ∧
      Run.execute .bare context (.returning (page "a")) u =
        Run.sendResponse .bare (page "a") u' := by
  have encoded : encode (page "a") (.start 0 none) = .ok (page "a") (.start 0 none) := rfl
  obtain ⟨sent, loop⟩ := encode_agrees (page "a") (page "a") _ _ encoded
  obtain ⟨context, u, u', -, yields⟩ := exists_yields (page "a") (.start 0 none)
  have invoked : (HandlerOptions.returning (page "a")).handler.invoke (.ofScope 0) context [] u =
      .ok (.ok (page "a")) u' := by
    rw [Handler.invoke_eq, Run.bind_of_ok (run_of_yields yields (.inr ⟨nofun, rfl⟩))]
    rfl
  exact ⟨encoded, sent, context, u, u', nofun, invoked,
    (loop (.returning (page "a")) .bare context u u' (page "a") nofun invoked).2⟩

/-- A page may be one of which no body is sent, and no content type. -/
theorem not_forall_negotiates :
    ¬ ∀ (v e : Value) (w w' : Worker) (t : Text), encode v w = .ok e w' → v.HasType (.ok t) →
      ∃ body, e.Negotiates body (.ok t) := by
  intro all
  have encoded : encode (page [0xD800]) (.start 0 none) = .ok (page [0xD800]) (.start 0 none) := rfl
  obtain ⟨body, negotiates⟩ := all _ _ _ _ "text/html" encoded fun _ => rfl
  cases negotiates (.start 0 none)

end Response

end InvokeWorker
