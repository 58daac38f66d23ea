import InvokeWorker.Proofs.LoopErrors
import InvokeWorker.Proofs.Payloads
import InvokeWorker.Proofs.Utf8Codec

/-!
# Results that can be sent

Whether a result is sent is decided by what can be done with it (`Value.isBody`); what is no body is
reported as a failure of the invoke. But the client has its own idea of what the body of a request
can be made from, and the two do not agree on everything.

* `Run.bodies`: what is no body is reported, and the loop goes on. Of the bodies, a request can be
  made of all but four kinds: a text with a surrogate in it, which has no encoding
  (`Value.IsIllFormed`), an object that can be read but not iterated over (`Value.IsMereReader`),
  a body with a content type of which handler code has made one that holds no body
  (`Value.IsMispacked`), and a view that was released. These end the loop, and nothing is reported.
* `Value.not_forall_sendable`: there are such bodies.

A result can also raise an error when it is asked for its content type or closed, and this error may
be such that it is not passed over (`Value.FailsToDeclare`, `Value.FailsToClose`).
-/

namespace InvokeWorker

open Run (Ends ended Reaches)

/-! ## Kinds of bodies -/

namespace Value

/-- A text that has no encoding, since there is a surrogate in it. -/
def IsIllFormed (x : Value) : Prop :=
  ∃ t, x.text? = some t ∧ t.hasSurrogate = true

/-- An object that can be read, and that is all: it is neither text nor bytes of any kind, and it
    cannot be iterated over, unless as a mapping. -/
structure IsMereReader (x : Value) : Prop where
  readable : x.isReadable = true
  unpacked : x.packed? = none
  no_text : x.text? = none
  no_bytes : x.bytes? = none
  no_items : (x.isIterable && !Body.isMapping x) = false

/-- The client makes no body of this: it is a text without an encoding, or neither text nor bytes
    nor anything that can be iterated over, unless as a mapping. -/
inductive IsRefused (y : Value) : Prop
  | text : y.IsIllFormed → IsRefused y
  | other : y ≠ .null → y.text? = none → y.bytes? = none →
    (y.isIterable && !Body.isMapping y) = false → IsRefused y

/-- A body with its content type that handler code has made of something that is refused. -/
def IsMispacked (x : Value) : Prop :=
  ∃ y, x.packed? = some y ∧ y.IsRefused

variable {x y : Value}

theorem isContainer_of_isMapping (mapping : Body.isMapping x = true) : x.isContainer = true := by
  fun_induction Body.isMapping x with
  | case1 => rfl
  | case2 => rfl
  | case3 name core own ih => exact ih mapping
  | case4 => cases mapping

theorem unpacked_of_text {t : Text} (is_text : x.text? = some t) : x.packed? = none := by
  rw [packed?.eq_def]
  split <;> first | rfl | cases is_text

/-- What is sent for a value that is packed: what it holds. -/
theorem source_of_packed (packed : x.packed? = some y) : Response.source x = .ok y := by
  rw [Response.source.eq_def]
  split
  · cases packed
  · cases packed
  · rw [packed]

/-- What is sent for a text: its encoding, if there is one. -/
theorem source_of_text {t : Text} (is_text : x.text? = some t) :
    Response.source x = match Utf8.encode? t with
      | .ok b => .ok (.bytes b)
      | .error fault => .error (.builtin "UnicodeEncodeError" fault.message) := by
  rw [Response.source.eq_def]
  split
  · cases is_text
  · cases is_text
  · rewrite [unpacked_of_text is_text, is_text]
    rfl

/-- Any other value is sent itself. -/
theorem source_of_other (some_value : x ≠ .null) (no_view : x ≠ .releasedView)
    (unpacked : x.packed? = none) (no_text : x.text? = none) : Response.source x = .ok x := by
  rw [Response.source.eq_def]
  split
  · exact absurd rfl some_value
  · exact absurd rfl no_view
  · rw [unpacked, no_text]

theorem body_of_bytes {b : Bytes} (is_bytes : x.bytes? = some b) :
    Body.of x = .ok (Body.ofBytes b) := by
  rw [Body.of.eq_def, is_bytes]
  generalize x.text? = t
  split
  · cases is_bytes
  · next h =>
    cases h
    rfl
  · next h => cases h
  · next h => cases h

/-- The client asks whether such a value can be iterated over and is no mapping. -/
theorem body_of_other (some_value : x ≠ .null) (no_text : x.text? = none)
    (no_bytes : x.bytes? = none) : Body.of x =
      if x.isIterable && !Body.isMapping x then
        .ok ⟨(Body.stream? x).map Content.length, Body.read x⟩
      else .error (.typeError ("Unexpected type for 'content', " ++ x.typeShown)) := by
  rw [Body.of.eq_def, no_bytes, no_text]
  split
  · exact absurd rfl some_value
  · next h => cases h
  · next h => cases h
  · rfl

theorem bytes?_of_text {t : Text} (is_text : x.text? = some t) : x.bytes? = none := by
  rw [bytes?.eq_def]
  split <;> first | rfl | cases is_text

/-- An ill-formed text has no encoding. -/
theorem IsIllFormed.unencodable (ill : x.IsIllFormed) :
    ∃ t fault, x.text? = some t ∧ Utf8.encode? t = .error fault := by
  obtain ⟨t, is_text, surrogate⟩ := ill
  refine ⟨t, ?_⟩
  rw [Utf8.encode?]
  cases fault : Utf8.unencodable? t with
  | some _ => exact ⟨_, is_text, rfl⟩
  | none =>
    rw [Utf8.unencodable?_eq_none_iff.1 fault] at surrogate
    cases surrogate

theorem IsIllFormed.source (ill : x.IsIllFormed) :
    ∃ message, Response.source x = .error (.builtin "UnicodeEncodeError" message) := by
  obtain ⟨t, fault, is_text, failed⟩ := ill.unencodable
  exact ⟨fault.message, by rw [source_of_text is_text, failed]⟩

/-- What is refused is so by an ordinary error of the client. -/
theorem IsRefused.body (refused : y.IsRefused) :
    ∃ e, Body.of y = .error e ∧ e.IsPlain ∧ e.isOrdinary = true := by
  cases refused with
  | text ill =>
    obtain ⟨t, fault, is_text, failed⟩ := ill.unencodable
    refine ⟨.builtin "UnicodeEncodeError" fault.message, ?_, Thrown.isPlain_builtin _ _, rfl⟩
    rw [Body.of.eq_def, bytes?_of_text is_text, is_text]
    split
    · cases is_text
    · next h => cases h
    · next h =>
      cases h
      rw [failed]
    · next h => cases h
  | other some_value no_text no_bytes no_items =>
    refine ⟨.typeError ("Unexpected type for 'content', " ++ y.typeShown), ?_,
      Thrown.isPlain_builtin _ _, rfl⟩
    rw [body_of_other some_value no_text no_bytes, no_items]
    rfl

/-- Nothing else is refused. -/
theorem exists_body_of_not_isRefused (fits : ¬ y.IsRefused) : ∃ b, Body.of y = .ok b := by
  by_cases some_value : y = .null
  · subst some_value
    exact ⟨_, rfl⟩
  cases is_bytes : y.bytes? with
  | some b => exact ⟨_, body_of_bytes is_bytes⟩
  | none =>
    cases is_text : y.text? with
    | some t =>
      have scalar : t.hasSurrogate = false :=
        Bool.eq_false_iff.2 fun surrogate => fits (.text ⟨t, is_text, surrogate⟩)
      refine ⟨Body.ofBytes (Utf8.encodeLax t), ?_⟩
      rw [Body.of.eq_def, is_bytes, is_text]
      split
      · exact absurd rfl some_value
      · next h => cases h
      · next h =>
        cases h
        rw [Utf8.encode?, Utf8.unencodable?_eq_none_iff.2 scalar]
      · next h => cases h
    | none =>
      have items : (y.isIterable && !Body.isMapping y) = true :=
        Bool.not_eq_false _ ▸ fun no_items => fits (.other some_value is_text is_bytes no_items)
      exact ⟨_, (body_of_other some_value is_text is_bytes).trans (if_pos items)⟩

/-- A mere reader is sent itself, and refused. -/
theorem IsMereReader.source_refused (mere : x.IsMereReader) :
    Response.source x = .ok x ∧ x.IsRefused := by
  have some_value : x ≠ .null := by
    rintro rfl
    cases mere.readable
  have no_view : x ≠ .releasedView := by
    rintro rfl
    cases mere.readable
  exact ⟨source_of_other some_value no_view mere.unpacked mere.no_text,
    .other some_value mere.no_text mere.no_bytes mere.no_items⟩

/-- A body that is refused is sent if it is a mere reader or mispacked. -/
theorem exists_refused (kind : x.IsMereReader ∨ x.IsMispacked) :
    ∃ y, Response.source x = .ok y ∧ y.IsRefused := by
  rcases kind with mere | ⟨y, packed, refused⟩
  · exact ⟨x, mere.source_refused⟩
  · exact ⟨y, source_of_packed packed, refused⟩

/-- A body that has nothing else to it can be read. -/
theorem isMereReader_of_isBody (body : x.isBody = true) (some_value : x ≠ .null)
    (unpacked : x.packed? = none) (no_text : x.text? = none) (no_bytes : x.bytes? = none)
    (no_items : (x.isIterable && !Body.isMapping x) = false) : x.IsMereReader := by
  have no_chunks : (x.isIterable && !x.isContainer) = false := by
    cases mapping : Body.isMapping x with
    | true => simp [isContainer_of_isMapping mapping]
    | false => simp_all
  rw [isBody.eq_def] at body
  split at body
  · exact absurd rfl some_value
  · rw [unpacked, no_text, no_bytes, no_chunks] at body
    exact ⟨by simpa using body, unpacked, no_text, no_bytes, no_items⟩

/-- Of any other body the body of a request is made. -/
theorem exists_body (body : x.isBody = true) (no_view : x ≠ .releasedView)
    (well : ¬ x.IsIllFormed) (rich : ¬ x.IsMereReader) (packs : ¬ x.IsMispacked) :
    ∃ source b, Response.source x = .ok source ∧ Body.of source = .ok b := by
  by_cases some_value : x = .null
  · subst some_value
    exact ⟨_, _, rfl, rfl⟩
  cases packed : x.packed? with
  | some y =>
    obtain ⟨b, made⟩ := exists_body_of_not_isRefused fun refused => packs ⟨y, packed, refused⟩
    exact ⟨y, b, source_of_packed packed, made⟩
  | none =>
    cases is_text : x.text? with
    | some t =>
      have scalar : t.hasSurrogate = false :=
        Bool.eq_false_iff.2 fun surrogate => well ⟨t, is_text, surrogate⟩
      refine ⟨.bytes (Utf8.encodeLax t), _, ?_, rfl⟩
      rw [source_of_text is_text, Utf8.encode?, Utf8.unencodable?_eq_none_iff.2 scalar]
    | none =>
      have fits : ¬ x.IsRefused := by
        rintro (ill | ⟨-, -, no_bytes, no_items⟩)
        · exact well ill
        · exact rich (isMereReader_of_isBody body some_value packed is_text no_bytes no_items)
      obtain ⟨b, made⟩ := exists_body_of_not_isRefused fits
      exact ⟨x, b, source_of_other some_value no_view packed is_text, made⟩

end Value

variable {c : Client} {api : Text} {options : HandlerOptions} {delivery : Delivery}
  {deliveries rest : List Delivery} {i : Invoke} {x y source : Value} {b : Body}
  {w v v' : Worker}

/-! ## Sending a body -/

/-- What is done with a response before it is released. -/
def Run.transmit [Interpreter] (i : Invoke) (response : Value) : Run Unit := do
  let (body, contentType) ← Response.negotiate response
  (i.succeed body contentType).replacing
    (asApiError "unexpected error occurred when sending the function functionResponse to the API")

theorem sendResponse_eq [Interpreter] (i : Invoke) (x : Value) :
    Run.sendResponse i x = (Run.transmit i x).andFinally (Response.release x) :=
  rfl

/-- How a response is sent that there is something to send of: by a POST of that, unless the result
    fails to declare a content type. -/
theorem ends_transmit_of_source [Interpreter] {Q : Except Thrown Unit → Worker → Prop}
    (bound : i.client = some c) (sourced : Response.source x = .ok source)
    (sent : ∀ type u remark, Response.contentType x ContentType.octets v = .ok type u →
      v.Quietly u → (∀ e, ¬ x.FailsToDeclare e) →
      Ends (Run.replacing (Client.post (c.invocationUrl i.id "response") source type none)
        (Run.asApiError remark)) u Q)
    (undeclared : ∀ e u, x.FailsToDeclare e → v.Quietly u → Q (.error e) u) :
    Ends (Run.transmit i x) v Q := by
  rw [Run.transmit, Response.negotiate, sourced]
  refine Ends.bind (P := fun r u => v.Quietly u ∧ match r with
    | .ok (body, type) => body = source ∧ (∀ e, ¬ x.FailsToDeclare e) ∧
        Response.contentType x ContentType.octets v = .ok type u
    | .error e => x.FailsToDeclare e) ?negotiated ?declared ?failed
  case negotiated =>
    refine ((ends_contentType x _).and (.self _ v)).bind ?_ ?_
    · rintro type u ⟨⟨quietly, fails⟩, declared⟩
      exact ⟨quietly, rfl, fun e failed => (nomatch (fails e).2 failed), declared⟩
    · rintro e u ⟨⟨quietly, fails⟩, -⟩
      exact ⟨quietly, (fails e).1 rfl⟩
  case declared =>
    rintro ⟨body, type⟩ u ⟨quietly, rfl, declares, declared⟩
    dsimp only
    rw [Invoke.succeed, Invoke.boundClient, bound]
    exact sent type u _ declared quietly declares
  case failed => exact fun e u h => undeclared e u h.2 h.1

/-- A response ends as its transmission, unless the result fails to close. -/
theorem ends_sendResponse_of_transmit [Interpreter] {Q Q' : Except Thrown Unit → Worker → Prop}
    (transmitted : Ends (Run.transmit i x) v Q)
    (closed : ∀ r u w', Q r u → u.Quietly w' → (∀ e, ¬ x.FailsToClose e) → Q' r w')
    (unclosed : ∀ r u e w', Q r u → u.Quietly w' → x.FailsToClose e → Q' (.error e) w') :
    Ends (Run.sendResponse i x) v Q' := by
  rw [sendResponse_eq]
  refine transmitted.andFinally fun r u holds => (ends_release x).mono ?_
  rintro (e | ⟨⟩) w' ⟨quietly, fails⟩
  · exact unclosed r u e w' holds quietly ((fails e).1 rfl)
  · exact closed r u w' holds quietly fun e failed => nomatch (fails e).2 failed

/-- An error is one of the first kind, if there is such an error, and else one of the second. -/
def FirstOf (Q P : Thrown → Prop) (e : Thrown) : Prop :=
  Q e ∨ (∀ e', ¬ Q e') ∧ P e

/-- Where the transmission fails without a request, the response does so. -/
theorem ends_sendResponse_of_failing [Interpreter] {P : Thrown → Prop}
    (failing : Ends (Run.transmit i x) v fun r u => (∃ e, r = .error e ∧ P e) ∧ v.Quietly u) :
    Ends (Run.sendResponse i x) v fun r w' =>
      (∃ e, r = .error e ∧ FirstOf x.FailsToClose P e) ∧ v.Quietly w' := by
  refine ends_sendResponse_of_transmit failing ?_ ?_
  · rintro _ u w' ⟨⟨e, rfl, holds⟩, quietly⟩ quietly' closes
    exact ⟨⟨e, rfl, .inr ⟨closes, holds⟩⟩, quietly.trans quietly'⟩
  · rintro _ u e w' ⟨-, quietly⟩ quietly' fails
    exact ⟨⟨e, rfl, .inl fails⟩, quietly.trans quietly'⟩

/-- The error of a text that has no encoding stays what it is, and nothing is sent. -/
theorem Value.IsIllFormed.ends_sendResponse [Interpreter] (ill : x.IsIllFormed) (i : Invoke)
    (v : Worker) : Ends (Run.sendResponse i x) v fun r w' =>
      (∃ e, r = .error e ∧ FirstOf x.FailsToClose
        (fun e => ∃ message, e = .builtin "UnicodeEncodeError" message) e) ∧ v.Quietly w' := by
  obtain ⟨message, failed⟩ := ill.source
  refine ends_sendResponse_of_failing ?_
  rw [Run.transmit, Response.negotiate, failed]
  exact ⟨⟨_, rfl, message, rfl⟩, .refl v⟩

/-- A value that is refused is not sent. -/
theorem Value.IsRefused.ends_post [Interpreter] (refused : y.IsRefused) (url type : Text)
    (cause : Option Bytes) : Ends (Client.post url y type cause) w fun r w' =>
      w' = w ∧ ∃ e, r = .error e ∧ e.IsPlain ∧ e.isOrdinary = true := by
  obtain ⟨e', no_body, plain, ordinary⟩ := refused.body
  refine (concludes_post url y type cause).mono fun r w' concluded => ?_
  cases concluded with
  | @unmade e unmade =>
    refine ⟨rfl, e, rfl, ?_⟩
    obtain failed | failed | failed | ⟨b, x, made, -⟩ := unmade
    · exact ⟨plainly_normalize url e failed, isOrdinary_of_normalize failed⟩
    · exact ⟨plainly_headerOctets type e failed, isOrdinary_of_headerOctets failed⟩
    · cases no_body.symm.trans failed
      exact ⟨plain, ordinary⟩
    · cases no_body.symm.trans made
  | made _ _ made _ => cases no_body.symm.trans made

/-- What is refused is given to the client, which sends nothing. -/
theorem Value.ends_sendResponse_of_refused [Interpreter] (kind : x.IsMereReader ∨ x.IsMispacked)
    (bound : i.client = some c) (v : Worker) : Ends (Run.sendResponse i x) v fun r w' =>
      (∃ e, r = .error e ∧
        FirstOf x.FailsToClose (FirstOf x.FailsToDeclare Thrown.IsApiError) e) ∧ v.Quietly w' := by
  obtain ⟨y, sourced, refused⟩ := exists_refused kind
  refine ends_sendResponse_of_failing (ends_transmit_of_source bound sourced ?_ ?_)
  · intro type u remark _ quietly declares
    refine (refused.ends_post _ type none).replacing (fun _ _ h => nomatch h.2) ?_
    rintro _ _ ⟨rfl, e, ⟨⟩, plain, ordinary⟩
    obtain ⟨t, shown⟩ := plain.display
    obtain ⟨status, known⟩ := plain.statusCode
    rw [if_pos ordinary, Run.asApiError, shown]
    dsimp only
    rw [known]
    exact ⟨⟨_, rfl, .inr ⟨declares, _, _, rfl⟩⟩, quietly⟩
  · exact fun e u fails quietly => ⟨⟨e, rfl, .inl fails⟩, quietly⟩

/-- Nothing but a body can keep a response from being taken: it can be read, the content type of the
    result can be asked for and is a header, what is sent to the address of the responses is
    accepted, and to close the result raises no error but one that is passed over. -/
structure Client.Welcomes [Interpreter] (c : Client) (i : Invoke) (x : Value) (b : Body)
    (v : Worker) : Prop where
  declares : ∀ e, ¬ x.FailsToDeclare e
  closes : ∀ e, ¬ x.FailsToClose e
  content : ∃ content, b.content = .ok content
  contentType : ∀ type u, Response.contentType x ContentType.octets v = .ok type u →
    ∃ octets, Client.headerOctets type = .ok octets
  reply : ∃ u, Client.normalize (c.invocationUrl i.id "response") = .ok u ∧
    Client.replyTo v.replies u = .accepted

/-- A response that a body is made of is sent. -/
theorem ends_sendResponse_of_welcomes [Interpreter] (bound : i.client = some c)
    (sourced : Response.source x = .ok source) (made : Body.of source = .ok b)
    (welcomes : c.Welcomes i x b v) : Ends (Run.sendResponse i x) v fun r _ => r = .ok () := by
  obtain ⟨declares, closes, ⟨content, read⟩, typed, url, parsed, accepted⟩ := welcomes
  refine ends_sendResponse_of_transmit (Q := fun r _ => r = .ok ())
    (ends_transmit_of_source bound sourced ?_ ?_) ?_ ?_
  · intro type u remark declared quietly _
    obtain ⟨octets, typed⟩ := typed type u declared
    obtain ⟨events, adds, -⟩ := quietly.adds
    have posted : Ends (Client.post (c.invocationUrl i.id "response") source type none) u
        fun r _ => r = .ok () := by
      refine (concludes_post _ source type none).mono fun r u' concluded => ?_
      cases concluded with
      | unmade unmade =>
        obtain failed | failed | failed | ⟨b', x, made', failed, -⟩ := unmade
        · cases parsed.symm.trans failed
        · cases typed.symm.trans failed
        · cases made.symm.trans failed
        · cases made.symm.trans made'
          cases read.symm.trans failed
      | made parsed' _ _ _ =>
        cases parsed.symm.trans parsed'
        rw [adds.replies, accepted]
        rfl
    exact posted.replacing (fun _ _ _ => rfl) fun _ _ h => nomatch h
  · exact fun e u fails _ => absurd fails (declares e)
  · rintro _ u w' rfl - -
    rfl
  · exact fun _ u e w' _ _ fails => absurd fails (closes e)

/-! ## From the handler to the loop -/

/-- The report of a result that is no body. -/
def Value.unsendable (x : Value) : Report :=
  .of "Runtime.MarshalError" ("Unable to send response of type " ++ x.typeName) [] false

/-- The loop asks for an invoke in the state `v`, and is given `i`; on this one the handler returns
    `x`, when the state is `v'`. -/
inductive Returning [Interpreter] (c : Client) (options : HandlerOptions) (delivery : Delivery)
    (v : Worker) (i : Invoke) (x : Value) (v' : Worker) : Prop
  | intro {context : Context} {v₁ v₂ : Worker} : c.next delivery v = .ok i v₁ →
    Context.build i options.base options.settings (v₁.naming i) = .ok context v₂ →
    options.handler.invoke options.base context i.payload v₂ = .ok (.ok x) v' →
    Returning c options delivery v i x v'

theorem run_of_invoke [Interpreter] {h : Handler} {base context : Context} {payload : Bytes}
    (invoked : h.invoke base context payload v = .ok (.ok x) v') :
    h.run base context payload v = .ok (.returns x) v' := by
  rw [Handler.invoke_eq] at invoked
  cases ran : h.run base context payload v with
  | error e u =>
    rw [Run.bind_of_error ran] at invoked
    cases invoked
  | ok ending u =>
    rw [Run.bind_of_ok ran] at invoked
    cases ending with
    | returns y =>
      cases invoked
      rfl
    | raises e trace =>
      rw [Handler.outcome] at invoked
      cases made : Report.ofFailure e trace with
      | ok r =>
        rw [made] at invoked
        cases invoked
      | error raised =>
        rw [made] at invoked
        cases invoked

namespace Returning

variable [Interpreter]

theorem stored (returns : Returning c options delivery v i x v') :
    v'.replies = delivery.replies := by
  obtain ⟨delivered, built, invoked⟩ := returns
  exact Failing.stored delivered built (run_of_invoke invoked)

theorem bound (returns : Returning c options delivery v i x v') : i.client = some c := by
  obtain ⟨delivered, -, -⟩ := returns
  exact (delivers_of_next delivered).1.client

/-- The invoke ends as what is done with the result. -/
theorem ends_handleInvoke {Q : Except Thrown Unit → Worker → Prop}
    (returns : Returning c options delivery v i x v')
    (settled : Ends (Run.settle i (.ok x)) v' Q) : ∃ v₁, c.next delivery v = .ok i v₁ ∧
      Ends (Run.handleInvoke i options) v₁ fun r w' => ∃ u, Q r u ∧ w'.journal = u.journal := by
  obtain @⟨context, v₁, v₂, delivered, built, invoked⟩ := returns
  have executed : Ends (Run.execute i context options) v₂ Q := by
    rw [Ends, Run.execute_eq, Run.bind_of_ok invoked]
    exact settled
  refine ⟨v₁, delivered, ends_handleInvoke_of_build (r := .ok context) built ?_⟩
  refine executed.andFinally fun r u holds => ?_
  cases r <;> exact ⟨u, holds, rfl⟩

/-- If nothing is wrong with the result, the loop goes on. -/
theorem goes_on (returns : Returning c options delivery v i x v')
    (reached : Reaches c api options deliveries w (delivery :: rest) v)
    (settled : Ends (Run.settle i (.ok x)) v' fun r _ => r = .ok ()) :
    ∃ v₃, Reaches c api options deliveries w rest v₃ := by
  obtain ⟨v₁, delivered, ends⟩ := returns.ends_handleInvoke settled
  obtain ⟨_, v₂, handled, u, rfl, -⟩ := ends.exists_ended
  exact reached.goes_on delivered handled

/-- If nothing comes of the result but an error, the loop ends with this error, and without another
    request. -/
theorem stops {P : Thrown → Prop} (returns : Returning c options delivery v i x v')
    (reached : Reaches c api options deliveries w (delivery :: rest) v)
    (settled : Ends (Run.settle i (.ok x)) v' fun r u => (∃ e, r = .error e ∧ P e) ∧ v'.Quietly u) :
    ∃ e v₃, Run.loop c api options deliveries w = .error e v₃ ∧ P e ∧
      v'.Grows (·.isLoud = false) v₃ := by
  obtain ⟨v₁, delivered, ends⟩ := returns.ends_handleInvoke settled
  obtain ⟨_, v₂, handled, u, ⟨⟨e, rfl, holds⟩, quietly⟩, journal⟩ := ends.exists_ended
  obtain ⟨events, adds, quiet⟩ := quietly.adds
  exact ⟨e, v₂, reached.stops delivered handled, holds, events, journal.trans adds.journal, quiet⟩

end Returning

theorem settle_of_isBody [Interpreter] (body : x.isBody = true) :
    Run.settle i (.ok x) = Run.sendResponse i x := by
  rw [Run.settle, if_pos body]

theorem settle_of_no_body [Interpreter] (no_body : x.isBody = false) :
    Run.settle i (.ok x) = Run.reportAndStopIfFatal i x.unsendable := by
  rw [Run.settle, if_neg (by simp [no_body])]
  rfl

/-- Once the report of a result that is no body was taken, the invoke is done. -/
theorem ends_settle_of_no_body [Interpreter] (no_body : x.isBody = false)
    (bound : i.client = some c) (takes : c.Takes v.replies i) :
    Ends (Run.settle i (.ok x)) v fun r _ => r = .ok () := by
  rw [settle_of_no_body no_body]
  have lists : x.unsendable.ListsPaths := rfl
  refine (ends_reportFailure_of_takes bound lists takes).bind ?_ fun _ _ h => nomatch h.1
  rintro ⟨⟩ u -
  exact rfl

namespace Run

/-- A result of the handler that is no body is reported as one that cannot be sent, and once the
    report was taken the loop goes on. Of a body there is something to send, a body of a request is
    made of that, and if nothing else stands against the response, the loop goes on; but this holds
    with four exceptions. A text without an encoding and a view that was released end the loop by an
    error that is not caught, a mere reader and what is mispacked by one of the Runtime API, unless
    the result itself raises another error, and no request is made after the result was returned:
    neither a response is sent nor a report. -/
theorem bodies [Interpreter] (c : Client) (api : Text) (options : HandlerOptions)
    (deliveries : List Delivery) (w : Worker) (delivery : Delivery) (rest : List Delivery)
    (v : Worker) (reached : Reaches c api options deliveries w (delivery :: rest) v) (i : Invoke)
    (x : Value) (v' : Worker) (returns : Returning c options delivery v i x v') :
    (x.isBody = false →
      (∃ v₁, c.next delivery v = .ok i v₁ ∧
        Ends (handleInvoke i options) v₁ (Refused i x.unsendable v')) ∧
      (c.Takes delivery.replies i → ∃ v₃, Reaches c api options deliveries w rest v₃)) ∧
    (x.isBody = true → x ≠ .releasedView → ¬ x.IsIllFormed → ¬ x.IsMereReader →
      ¬ x.IsMispacked → ∃ source b, Response.source x = .ok source ∧ Body.of source = .ok b ∧
        (c.Welcomes i x b v' → ∃ v₃, Reaches c api options deliveries w rest v₃)) ∧
    (x.isBody = true → x.IsIllFormed → ∃ e v₃,
      loop c api options deliveries w = .error e v₃ ∧
        FirstOf x.FailsToClose (fun e => ∃ message, e = .builtin "UnicodeEncodeError" message) e ∧
        v'.Grows (·.isLoud = false) v₃) ∧
    (x = .releasedView → ∃ v₃, loop c api options deliveries w = .error .releasedView v₃ ∧
      v'.Grows (·.isLoud = false) v₃) ∧
    (x.isBody = true → x.IsMereReader ∨ x.IsMispacked → ∃ e v₃,
      loop c api options deliveries w = .error e v₃ ∧
        FirstOf x.FailsToClose (FirstOf x.FailsToDeclare Thrown.IsApiError) e ∧
        v'.Grows (·.isLoud = false) v₃) := by
  refine ⟨fun no_body => ⟨?_, fun takes => ?_⟩, fun body seen well rich packs => ?_,
    fun body ill => ?_, fun view => ?_, fun body kind => ?_⟩
  · have frames : x.unsendable.frames = ([] : List Site).map Site.frame := rfl
    have settled : Ends (settle i (.ok x)) v' (Refused i x.unsendable v') := by
      rw [settle_of_no_body no_body]
      exact refused_reportAndStopIfFatal i frames v'
    obtain ⟨v₁, delivered, ends⟩ := returns.ends_handleInvoke settled
    refine ⟨v₁, delivered, ends.mono ?_⟩
    rintro r v₂ ⟨u, ⟨w₁, w₂, s, before, reported, same, ending⟩, journal⟩
    exact ⟨w₁, w₂, s, before, reported, journal.trans same, ending⟩
  · exact returns.goes_on reached
      (ends_settle_of_no_body no_body returns.bound (returns.stored ▸ takes))
  · obtain ⟨source, b, sourced, made⟩ := Value.exists_body body seen well rich packs
    refine ⟨source, b, sourced, made, fun welcomes => returns.goes_on reached ?_⟩
    rw [settle_of_isBody body]
    exact ends_sendResponse_of_welcomes returns.bound sourced made welcomes
  · refine returns.stops reached ?_
    rw [settle_of_isBody body]
    exact ill.ends_sendResponse i v'
  · -- There is nothing to close, so the error stays what it is.
    subst view
    have settled : Ends (settle i (.ok .releasedView)) v' fun r u =>
        (∃ e, r = .error e ∧ e = .releasedView) ∧ v'.Quietly u :=
      ⟨⟨_, rfl, rfl⟩, .refl v'⟩
    obtain ⟨_, v₃, ended, rfl, quiet⟩ := returns.stops reached settled
    exact ⟨v₃, ended, quiet⟩
  · refine returns.stops reached ?_
    rw [settle_of_isBody body]
    exact Value.ends_sendResponse_of_refused kind returns.bound v'

end Run

/-! ## Bodies that cannot be sent -/

/-- An object that can be read, and no more. -/
def Value.reader : Value :=
  .custom ⟨"Reader", .bare, { Capabilities.none with read := some (.method ⟨[], none⟩) }⟩

/-- A handler that is called with the payload and does nothing but return a value, below the first
    root there is. -/
def HandlerOptions.handing (x : Value) : HandlerOptions :=
  ⟨.of .raw fun _ _ => ⟨[], .returns x⟩, .ofScope 0, none⟩

theorem exists_returning [Interpreter] (x : Value) (v : Worker) :
    ∃ i v', Returning ⟨"h"⟩ (.handing x) (.bare (.traced "a" "")) v i x v' := by
  obtain ⟨url, parsed⟩ : ∃ url, Client.normalize (Client.nextUrl ⟨"h"⟩) = .ok url := ⟨_, rfl⟩
  have delivers : Delivers ⟨"h"⟩ (.bare (.traced "a" "")) ⟨"a", [], .traced "a" "", some ⟨"h"⟩⟩ :=
    ⟨_, _, rfl, by decide +kernel⟩
  exact ⟨⟨"a", [], .traced "a" "", some ⟨"h"⟩⟩, _,
    .intro (next_of_delivers delivers parsed v) rfl rfl⟩

/-- A mere reader in the only invoke ends the loop, and nothing is reported. -/
theorem Run.bodies_of_reader :
    Value.reader.isBody = true ∧ Value.reader.IsMereReader ∧ ∃ v i v',
      Reaches ⟨"h"⟩ "h" (.handing .reader) [.bare (.traced "a" "")] (.start 0 none)
        [.bare (.traced "a" "")] v ∧
      Returning ⟨"h"⟩ (.handing .reader) (.bare (.traced "a" "")) v i .reader v' ∧
      ∃ e v₃, loop ⟨"h"⟩ "h" (.handing .reader) [.bare (.traced "a" "")] (.start 0 none) =
        .error e v₃ ∧ e.IsApiError ∧ v'.Grows (·.isLoud = false) v₃ := by
  have mere : Value.reader.IsMereReader := ⟨rfl, rfl, rfl, rfl, rfl⟩
  have reached : Reaches ⟨"h"⟩ "h" (.handing .reader) [.bare (.traced "a" "")] (.start 0 none)
    [.bare (.traced "a" "")] _ := .start
  obtain ⟨i, v', returns⟩ := exists_returning .reader _
  obtain ⟨-, -, -, -, stops⟩ := bodies _ _ _ _ _ _ _ _ reached i _ v' returns
  obtain ⟨e, v₃, ended, came, quiet⟩ := stops rfl (.inl mere)
  -- There is neither a content type to be asked for nor anything to close.
  have api : e.IsApiError := by
    rcases came with ⟨_, x, ⟨⟩, raises, -⟩ | ⟨-, ⟨_, x, ⟨⟩, raises, -⟩ | ⟨-, api⟩⟩
    · cases raises
    · cases raises
    · exact api
  exact ⟨rfl, mere, _, i, v', reached, returns, e, v₃, ended, api, quiet⟩

/-- There is a body of which nothing can be sent. -/
theorem Value.not_forall_sendable :
    ¬ ∀ x : Value, x.isBody = true →
      ∃ source b, Response.source x = .ok source ∧ Body.of source = .ok b := by
  intro all
  obtain ⟨source, b, sourced, -⟩ := all (.text [0xD800]) rfl
  cases sourced

end InvokeWorker
