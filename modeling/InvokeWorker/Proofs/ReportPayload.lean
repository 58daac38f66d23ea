import InvokeWorker.Log.Failure
import InvokeWorker.Proofs.PayloadText
import InvokeWorker.Proofs.WireText
import InvokeWorker.Response.Capability

/-!
# What the payload of a report says

Whatever is in a report, its payload is JSON that says three things, in this order: a type, a
message and a list of frames. They do not depend on whether the process must exit. If the fields of
the report have their declared types and no surrogate is in their texts, then the payload says just
what they are, and no other such report has the same payload (`Report.payload_fields`).

But a valid text may have a lone surrogate in it, and such a report is replaced by one that says so
(`Report.not_forall_told`).
-/

namespace InvokeWorker

open Text

/-! ## Fields of a payload -/

/-- What is said of a failure. -/
def Report.fields (type message : Document) (frames : List Document) : Document :=
  .object [("errorType", type), ("errorMessage", message), ("stackTrace", .array frames)]

namespace Report

section Legible

variable {style : JsonStyle} {number : Double → Document} {text : Text → Text}
  (names : text "errorType" = "errorType" ∧ text "errorMessage" = "errorMessage" ∧
    text "stackTrace" = "stackTrace")

include names

theorem echo_fields (type message : Document) (frames : List Document) :
    (fields type message frames).echo number text = fields (type.echo number text)
      (message.echo number text) (Document.echoItems number text frames) := by
  rw [fields, Document.echo, Document.echoMembers, Document.echoMembers, Document.echoMembers,
    Document.echoMembers, names.1, names.2.1, names.2.2, Document.echo]
  have distinct : [("errorType" : Text), "errorMessage", "stackTrace"].Nodup := by decide
  exact congrArg Document.object (Document.mergeMembers_of_nodup distinct)

variable [Interpreter] (legible : style.Legible Payload.rules number text)

include legible

/-- The fields are read in their order, each as its echo. -/
theorem decode_fields {type message : Document} {frames : List Document}
    (made : (fields type message frames).MadeOf (fun _ => True) Json.Short Payload.nestingLimit)
    (shown : ((fields type message frames).render style).Shown) :
    Payload.decode (Utf8.encodeLax ((fields type message frames).render style)) =
      .ok (fields (type.echo number text) (message.echo number text)
        (Document.echoItems number text frames)) := by
  have first : ∀ c ∈ ((fields type message frames).render style).head?, c.isVisible = true := by
    rw [Document.render_eq]
    rintro _ ⟨⟩
    rfl
  rw [Payload.decode_render legible made shown first, echo_fields names]

end Legible

theorem exists_fields_of_document? [Interpreter] {r : Report} {d : Document}
    (made : r.document? = .ok d) : ∃ type message frames, d = fields type message frames := by
  rw [document?] at made
  obtain ⟨t, -, made⟩ := exists_of_bind_eq_ok made
  obtain ⟨m, -, made⟩ := exists_of_bind_eq_ok made
  obtain ⟨ds, -, made⟩ := exists_of_bind_eq_ok made
  cases made
  exact ⟨t, m, ds, rfl⟩

/-- A report that has no place on the wire is replaced. -/
theorem exists_decode_of_fault [Interpreter] {r : Report} {fault : WireFault}
    (failed : r.document? = .error fault) :
    ∃ message, Payload.decode r.payload = .ok (fields (.text serializationError) message []) := by
  obtain ⟨number, legible⟩ :=
    JsonStyle.legible_spaced (show Payload.rules.loneSurrogates = true from rfl)
  have two_levels : (fallback fault).MadeOf (fun _ => True) Json.Short 2 :=
    ⟨trivial, trivial, trivial, trivial, trivial, trivial, trivial⟩
  have made :=
    two_levels.mono (fun _ => id) (fun _ => id) _ (Payload.le_nestingLimit (by decide))
  have visible : ((fallback fault).render .spaced).Visible :=
    Document.only_render JsonStyle.spares_spaced made
  rw [payload, payloadText, failed]
  exact ⟨_, decode_fields (by decide) legible made visible.shown⟩

section Made

variable [Interpreter] {r : Report} (short : ∀ n ∈ r.integers, Json.Short n)

include short

/-- The fields of a report that has a place on the wire are read, numbers as they are read. -/
theorem exists_decode_of_made {type message : Document} {frames : List Document}
    (made : r.document? = .ok (fields type message frames)) :
    ∃ number, Payload.decode r.payload = .ok (fields (type.echo number id) (message.echo number id)
      (Document.echoItems number id frames)) := by
  obtain ⟨number, legible⟩ := JsonStyle.legible_wire Payload.rules
  have clean := r.clean_document? short _ made
  have shown : ((fields type message frames).render .wire).Shown :=
    Document.only_render JsonStyle.spares_wire clean
  rw [payload, payloadText, made]
  exact ⟨number, decode_fields ⟨rfl, rfl, rfl⟩ legible
    (clean.mono (fun _ _ => trivial) (fun _ => id) _
      (Payload.le_nestingLimit (by decide))) shown⟩

/-- Whatever is in a report, its payload has the three fields. -/
theorem exists_decode_payload :
    ∃ type message frames, Payload.decode r.payload = .ok (fields type message frames) := by
  cases made : r.document? with
  | ok d =>
    obtain ⟨t, m, ds, rfl⟩ := exists_fields_of_document? made
    obtain ⟨number, decoded⟩ := exists_decode_of_made short made
    exact ⟨_, _, _, decoded⟩
  | error fault =>
    obtain ⟨message, decoded⟩ := exists_decode_of_fault made
    exact ⟨_, _, _, decoded⟩

end Made

end Report

/-- The texts of a frame. -/
def Frame.texts : Frame → List Text
  | .site path _ label => path.text?.toList ++ label.text?.toList
  | .other _ => []
  | .pathed _ _ => []

/-- The texts of a report. -/
def Report.texts (r : Report) : List Text :=
  r.errorType.text?.toList ++ (r.message.text?.toList ++ r.frames.flatMap Frame.texts)

/-! ## Reports of the declared types -/

namespace Site

theorem texts_frame (s : Site) : s.frame.texts = [s.path, s.label] := rfl

/-- What is said of it. -/
def document (s : Site) : Document :=
  .object [("path", .text s.path), ("line", .int s.line), ("label", .text s.label)]

theorem document_inj {s s' : Site} (same : s.document = s'.document) : s = s' := by
  simp only [document, Document.object.injEq, List.cons.injEq, Prod.mk.injEq, Document.text.injEq,
    Document.int.injEq, true_and, and_true] at same
  obtain ⟨path, line, label⟩ := same
  cases s
  cases s'
  congr

theorem echo_document (number : Double → Document) (s : Site) :
    s.document.echo number id = s.document := by
  have distinct : [("path" : Text), "line", "label"].Nodup := by decide
  exact congrArg Document.object (Document.mergeMembers_of_nodup distinct)

theorem echoItems_documents (number : Double → Document) (sites : List Site) :
    Document.echoItems number id (sites.map document) = sites.map document := by
  induction sites with
  | nil => rfl
  | cons s sites ih => rw [List.map_cons, Document.echoItems, echo_document, ih]

end Site

theorem Frame.exists_site {f : Frame} (valid : f.isValid = true) : ∃ s : Site, f = s.frame := by
  unfold isValid at valid
  split at valid
  · next path line label => exact ⟨⟨path, line, label⟩, rfl⟩
  · cases valid

theorem Frame.exists_sites {fs : List Frame} (valid : fs.all Frame.isValid = true) :
    ∃ sites : List Site, fs = sites.map Site.frame := by
  induction fs with
  | nil => exact ⟨[], rfl⟩
  | cons f fs ih =>
    rw [List.all_cons, Bool.and_eq_true] at valid
    obtain ⟨s, rfl⟩ := exists_site valid.1
    obtain ⟨sites, rfl⟩ := ih valid.2
    exact ⟨s :: sites, rfl⟩

namespace Report

theorem exists_of_isValid {r : Report} (valid : r.isValid = true) :
    ∃ (type message : Text) (sites : List Site) (exit : Bool),
      r = .of type message (sites.map Site.frame) exit := by
  unfold isValid at valid
  split at valid
  · next type message stack exit =>
    obtain ⟨sites, rfl⟩ := Frame.exists_sites valid
    exact ⟨type, message, sites, exit, rfl⟩
  · cases valid

/-- What is said of a failure with such fields. -/
def told (type message : Text) (sites : List Site) : Document :=
  fields (.text type) (.text message) (sites.map Site.document)

theorem told_inj {type type' message message' : Text} {sites sites' : List Site}
    (same : told type message sites = told type' message' sites') :
    type = type' ∧ message = message' ∧ sites = sites' := by
  simp only [told, fields, Document.object.injEq, List.cons.injEq, Prod.mk.injEq,
    Document.text.injEq, Document.array.injEq, true_and, and_true] at same
  obtain ⟨same_type, same_message, same_stack⟩ := same
  have injective : Function.Injective Site.document := fun _ _ => Site.document_inj
  exact ⟨same_type, same_message, List.map_injective_iff.2 injective same_stack⟩

theorem wire_text [Interpreter] {t : Text} (scalar : t.Scalar) (depth : Nat) :
    (Value.text t).wire depth = .ok (.text t) := by
  have well : Wire.text t = .ok t := by
    rw [Wire.text, Utf8.unencodable?_eq_none_iff.2 (scalar_iff.1 scalar)]
  exact congrArg (Except.map Document.text) well

section Told

variable [Interpreter] {type message : Text} {sites : List Site} {exit : Bool}

theorem wiresOnto_frames (scalar : ∀ t ∈ (sites.map Site.frame).flatMap Frame.texts, t.Scalar)
    (made : List Document) :
    Frame.wiresOnto made (sites.map Site.frame) =
      .ok (made.reverse ++ sites.map Site.document) := by
  induction sites generalizing made with
  | nil => rw [List.map_nil, Frame.wiresOnto, List.map_nil, List.append_nil]
  | cons s sites ih =>
    rw [List.map_cons, List.flatMap_cons, Site.texts_frame, List.forall_mem_append,
      List.forall_mem_cons, List.forall_mem_singleton] at scalar
    obtain ⟨⟨path, label⟩, rest⟩ := scalar
    have first : s.frame.wire = .ok s.document := by
      rw [Site.frame, Frame.of, Frame.wire, wire_text path, wire_text label]
      rfl
    rw [List.map_cons, Frame.wiresOnto, first]
    dsimp only
    rw [ih rest, List.map_cons, List.reverse_cons, List.append_assoc, List.singleton_append]

variable (scalar : ∀ t ∈ (of type message (sites.map Site.frame) exit).texts, t.Scalar)

include scalar

theorem document?_of :
    (of type message (sites.map Site.frame) exit).document? = .ok (told type message sites) := by
  have texts_eq : (of type message (sites.map Site.frame) exit).texts =
      type :: message :: (sites.map Site.frame).flatMap Frame.texts := rfl
  rw [texts_eq, List.forall_mem_cons, List.forall_mem_cons] at scalar
  obtain ⟨in_type, in_message, in_stack⟩ := scalar
  have stack : Frame.wires (of type message (sites.map Site.frame) exit).frames =
    .ok (sites.map Site.document) := wiresOnto_frames in_stack []
  rw [document?, stack, of, wire_text in_type, wire_text in_message]
  rfl

/-- The payload says just what the fields are. -/
theorem decode_payload_of
    (short : ∀ n ∈ (of type message (sites.map Site.frame) exit).integers, Json.Short n) :
    Payload.decode (of type message (sites.map Site.frame) exit).payload =
      .ok (told type message sites) := by
  obtain ⟨number, decoded⟩ := exists_decode_of_made short (document?_of scalar)
  rw [decoded, Site.echoItems_documents]
  rfl

end Told

/-- Whatever is in a report, its payload can be read, has just the three fields, in this order, and
    does not depend on whether the process must exit. If the fields have their declared types and no
    surrogate is in their texts, the payload says what they are, and another such report with the
    same payload has the same fields. -/
theorem payload_fields [Interpreter] (r : Report) (short : ∀ n ∈ r.integers, Json.Short n) :
    (∃ type message frames, Payload.decode r.payload = .ok (fields type message frames)) ∧
    (∀ exit, Report.payload { r with shouldExit := exit } = r.payload) ∧
    (r.isValid = true → (∀ t ∈ r.texts, t.Scalar) →
      (∃ type message sites, r.errorType = .text type ∧ r.message = .text message ∧
        r.stack = some (sites.map Site.frame) ∧
        Payload.decode r.payload = .ok (told type message sites)) ∧
      ∀ r' : Report, (∀ n ∈ r'.integers, Json.Short n) → r'.isValid = true →
        (∀ t ∈ r'.texts, t.Scalar) → r'.payload = r.payload →
          r'.errorType = r.errorType ∧ r'.message = r.message ∧ r'.stack = r.stack) := by
  refine ⟨exists_decode_payload short, fun exit => rfl, fun valid scalar => ?_⟩
  obtain ⟨type, message, sites, exit, rfl⟩ := exists_of_isValid valid
  have decoded := decode_payload_of scalar short
  refine ⟨⟨type, message, sites, rfl, rfl, rfl, decoded⟩, fun r' short' valid' scalar' same => ?_⟩
  obtain ⟨type', message', sites', exit', rfl⟩ := exists_of_isValid valid'
  have decoded' := decode_payload_of scalar' short'
  -- From one payload one document is read.
  rw [same, decoded] at decoded'
  obtain ⟨rfl, rfl, rfl⟩ := told_inj (Except.ok.inj decoded')
  exact ⟨rfl, rfl, rfl⟩

/-- A report with quotes, a backslash, a line break and characters beyond ASCII in its message. -/
def quoting : Report :=
  of "ValueError" [34, 92, 10, 233, 0x1F600] [Site.frame ⟨"/var/task/app.py", 7, "handle"⟩] true

/-- Its payload says what is in it, and not that the process must exit. -/
theorem payload_fields_quoting : (∀ n ∈ quoting.integers, Json.Short n) ∧ quoting.isValid = true ∧
    (∀ t ∈ quoting.texts, t.Scalar) ∧ ∃ type message sites,
      quoting.errorType = .text type ∧ quoting.message = .text message ∧
      quoting.stack = some (sites.map Site.frame) ∧
      Payload.decode quoting.payload = .ok (told type message sites) := by
  have short : ∀ n ∈ quoting.integers, Json.Short n := by
    have seven : quoting.integers = [7] := rfl
    rw [seven, List.forall_mem_singleton]
    exact Json.short_of_lt_ten (by decide)
  have scalar : ∀ t ∈ quoting.texts, t.Scalar := by
    simp only [scalar_iff]
    decide
  have valid : quoting.isValid = true := rfl
  exact ⟨short, valid, scalar, ((payload_fields quoting short).2.2 valid scalar).1⟩

/-- A valid report is not always sent: a surrogate in its message has no place on the wire. -/
theorem not_forall_told : ¬ ∀ r : Report, (∀ n ∈ r.integers, Json.Short n) → r.isValid = true →
    ∃ type message sites, r.errorType = .text type ∧ r.message = .text message ∧
      r.stack = some (sites.map Site.frame) ∧
      Payload.decode r.payload = .ok (told type message sites) := by
  intro all
  have failed : ∃ fault, (of "T" [0xD800] [] false).document? = .error fault := ⟨_, rfl⟩
  obtain ⟨fault, failed⟩ := failed
  obtain ⟨type, message, sites, is_type, -, -, decoded⟩ := all (of "T" [0xD800] [] false) nofun rfl
  obtain ⟨message', replaced⟩ := exists_decode_of_fault failed
  rw [replaced] at decoded
  -- The type that is said is that of the fallback.
  simp only [told, fields, Except.ok.injEq, Document.object.injEq, List.cons.injEq, Prod.mk.injEq,
    Document.text.injEq, true_and] at decoded
  obtain ⟨rfl, -⟩ := decoded
  cases is_type

end Report

end InvokeWorker
