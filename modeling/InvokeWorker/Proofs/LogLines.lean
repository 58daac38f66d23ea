import InvokeWorker.Proofs.DoubleText
import InvokeWorker.Proofs.JsonNames
import InvokeWorker.Log.Record

/-!
# Log lines

The line of a record is one JSON object without a control character, from which what the record
says can be read again (`LogRecord.line_shows`): its own level, logger and message, the trace id and
the request id of the record or else of the invoke, the failure, and every other attachment that is
to be shown, none of which can take the place of the others.

A record has no line if an integer in its attachments has too many digits, or if they are nested
too deeply (`LogRecord.not_forall_line`).
-/

namespace InvokeWorker

/-! ## Documents as values and back -/

namespace Document

theorem itemValues_eq (made : List Value) (ds : List Document) :
    itemValues made ds = made.reverse ++ ds.map toValue := by
  induction ds generalizing made with
  | nil => exact (List.append_nil _).symm
  | cons d ds ih => rw [itemValues, ih, List.reverse_cons, List.append_assoc]; rfl

theorem memberValues_eq (made : List (Value × Value)) (ms : List (Text × Document)) :
    memberValues made ms = made.reverse ++ ms.map fun m => (.text m.1, m.2.toValue) := by
  induction ms generalizing made with
  | nil => exact (List.append_nil _).symm
  | cons m ms ih => rw [memberValues, ih, List.reverse_cons, List.append_assoc]; rfl

theorem membersMadeOf_iff {P : Text → Prop} {Q : Int → Prop} {depth : Nat}
    {ms : List (Text × Document)} :
    MembersMadeOf P Q depth ms ↔ ∀ m ∈ ms, P m.1 ∧ m.2.MadeOf P Q depth := by
  induction ms with
  | nil => simp [MembersMadeOf]
  | cons m ms ih => simp [MembersMadeOf, ih, and_assoc]

theorem madeOf_object_iff {P : Text → Prop} {Q : Int → Prop} {depth : Nat}
    {ms : List (Text × Document)} (some_level : 0 < depth) :
    (object ms).MadeOf P Q depth ↔ ∀ m ∈ ms, P m.1 ∧ m.2.MadeOf P Q (depth - 1) := by
  obtain ⟨depth, rfl⟩ := Nat.exists_eq_add_one.2 some_level
  exact membersMadeOf_iff

theorem membersFloatsIn_iff {P : Double → Prop} {ms : List (Text × Document)} :
    MembersFloatsIn P ms ↔ ∀ m ∈ ms, m.2.FloatsIn P := by
  induction ms with
  | nil => simp [MembersFloatsIn]
  | cons m ms ih => simp [MembersFloatsIn, ih]

variable (fallback : Value → Except EncodeFault Document)

mutual

/-- The document of what a document stands for is that document, if its integers are not too long
    and it is not nested too deeply. -/
theorem document?_toValue : (d : Document) → {depth : Nat} →
    d.MadeOf (fun _ => True) Json.Short depth → d.toValue.document? fallback depth = .ok d
  | .null, _, _ => rfl
  | .bool _, _, _ => rfl
  | .int n, _, short => by
    rw [toValue, Value.document?]
    exact if_pos short
  | .float _, _, _ => rfl
  | .text _, _, _ => rfl
  | .array ds, depth + 1, made => by
    rw [toValue, itemValues_eq, List.reverse_nil, List.nil_append, Value.document?]
    exact congrArg (Except.map array) (documents?_toValue ds made [])
  | .object ms, depth + 1, made => by
    rw [toValue, memberValues_eq, List.reverse_nil, List.nil_append, Value.document?]
    exact congrArg (Except.map object) (members?_toValue ms made [])
termination_by structural d => d

theorem documents?_toValue : (ds : List Document) → {depth : Nat} →
    ItemsMadeOf (fun _ => True) Json.Short depth ds → (made : List Document) →
      Value.documents? fallback depth made (ds.map toValue) = .ok (made.reverse ++ ds)
  | [], _, _, made => by rw [List.append_nil]; rfl
  | d :: ds, _, all, made => by
    rw [List.map_cons, Value.documents?, document?_toValue d all.1]
    dsimp only
    rw [documents?_toValue ds all.2, List.reverse_cons, List.append_assoc]
    rfl
termination_by structural ds => ds

theorem members?_toValue : (ms : List (Text × Document)) → {depth : Nat} →
    MembersMadeOf (fun _ => True) Json.Short depth ms → (made : List (Text × Document)) →
      Value.members? fallback depth made (ms.map fun m => (.text m.1, m.2.toValue)) =
        .ok (made.reverse ++ ms)
  | [], _, _, made => by rw [List.append_nil]; rfl
  | (name, d) :: ms, _, all, made => by
    rw [List.map_cons, Value.members?.eq_def]
    dsimp only [Value.keyText?]
    rw [document?_toValue d all.2.1]
    dsimp only
    rw [members?_toValue ms all.2.2, List.reverse_cons, List.append_assoc]
    rfl
termination_by structural ms => ms

end

end Document

/-! ## The style of log lines -/

namespace JsonStyle

/-- As log lines are written, every text is read as it was, and so is every finite number. -/
theorem legible_readable (rules : JsonRules) : ∃ number : Double → Document,
    (∀ d, d.Canonical → number d = .float d) ∧ readable.Legible rules number id := by
  have each : ∀ d, ∃ e, (d.Canonical → e = .float d) ∧ Json.Reads rules (readable.number d) e := by
    intro d
    by_cases canonical : d.Canonical
    · exact ⟨.float d, fun _ => rfl, Json.reads_named rules canonical⟩
    · obtain ⟨e, reads⟩ := Json.exists_reads_named rules d
      exact ⟨e, fun other => absurd other canonical, reads⟩
  obtain ⟨number, known⟩ := Classical.axiomOfChoice each
  exact ⟨number, fun d => (known d).1, ⟨[32], rfl, by simp [Json.isSpace]⟩,
    ⟨[32], rfl, by simp [Json.isSpace]⟩, fun d => (known d).2, fun t start fuel rest enough =>
      Json.readText_quoted t (fun _ _ ascii => absurd ascii Bool.false_ne_true) enough rest⟩

/-- Whatever is in a log line, it has no control character. -/
theorem spares_readable : readable.Spares (fun _ => True) fun c => 32 ≤ c.val where
  visible := fun _ visible c mem => (Text.isVisible_iff.1 (visible c mem)).1
  comma := Text.visible_iff.2 rfl
  colon := Text.visible_iff.2 rfl
  number := Double.visible_toText (Text.visible_iff.2 rfl) (Text.visible_iff.2 rfl)
    (Text.visible_iff.2 rfl)
  quoted := fun _ _ => only_quoted
    (fun _ visible c mem => (Text.isVisible_iff.1 (visible c mem)).1) (.inr fun _ _ => id)

end JsonStyle

namespace LogRecord

/-! ## What a line shows -/

/-- Documents as attachments. -/
def values (ms : List (Text × Document)) : List (Text × Value) :=
  ms.map fun m => (m.1, m.2.toValue)

/-- The attachments of a record are the members of an object with distinct names and finite numbers;
    if there is a trace header among them, it is a text. -/
structure Attaches (r : LogRecord) (ms : List (Text × Document)) : Prop where
  extras : r.extras = values ms
  distinct : (Document.object ms).Distinct
  finite : (Document.object ms).FloatsIn Double.Canonical
  trace : ∀ d, (Document.object ms).member? "trace_id" = some d → ∃ t, d = .text t

/-- A field shows the record's own attachment, if that counts as true, or else what is known of the
    invoke, unless that is empty. If neither is shown, it is the attachment, if there is one. -/
structure Identifies (own : Option Document) (known : Option Text) (shown : Document → Document)
    (field : Option Document) : Prop where
  of_own : ∀ d, own = some d → d.toValue.isTrue = true → field = some (shown d)
  of_known : (∀ d, own = some d → d.toValue.isTrue = false) →
    ∀ t, known = some t → t ≠ [] → field = some (shown (.text t))
  of_neither : (∀ d, own = some d → d.toValue.isTrue = false) → (∀ t, known = some t → t = []) →
    field = own

/-- A trace header is shown by its root, or as it is if it names none. -/
def traced : Document → Document
  | .text t => .text (Correlation.shownTrace t)
  | d => d

/-- The names of the fields that no attachment takes the place of. -/
def ownNames : List Text :=
  ["_time", "level", "logger", "message", "trace_id", "aws_request_id"]

/-- A document shows a record with these attachments, this time and this message. -/
structure Shows (c : Correlation) (r : LogRecord) (ms : List (Text × Document))
    (stamp message : Text) (line : Document) : Prop where
  object : ∃ fields, line = .object fields
  time : line.member? "_time" = some (.text stamp)
  level : line.member? "level" = some (.text r.level)
  logger : line.member? "logger" = some (.text r.logger)
  message : line.member? "message" = some (.text message)
  trace : Identifies ((Document.object ms).member? "trace_id") c.trace traced
    (line.member? "trace_id")
  request : Identifies ((Document.object ms).member? "aws_request_id") c.request id
    (line.member? "aws_request_id")
  failure : ∀ f, r.failure = some f → line.member? failureField = some (.text f)
  others : ∀ name, isShown name = true → name ∉ ownNames →
    (name = failureField → r.failure = none) →
      line.member? name = (Document.object ms).member? name
  hidden : ∀ name, isShown name = false → name ∉ ownNames → line.member? name = none

variable {r : LogRecord} {c : Correlation} {ms fields : List (Text × Document)} {name : Text}

/-! ## Attachments -/

theorem lookup_values (ms : List (Text × Document)) (name : Text) :
    (values ms).lookup name = (ms.lookup name).map Document.toValue :=
  lookup_map (fun _ => Document.toValue) ms name

/-- An attachment is added unless it is hidden or its name is taken. -/
def addField (fields : List (Text × Document)) (m : Text × Document) : List (Text × Document) :=
  if !isShown m.1 || (fields.lookup m.1).isSome then fields else fields ++ [m]

/-- Documents are added as they are, if they can be written. -/
theorem addExtras_values [Interpreter]
    (made : ∀ m ∈ ms, m.2.MadeOf (fun _ => True) Json.Short (nestingLimit - 1)) :
    addExtras (values ms) fields = .ok (ms.foldl addField fields) := by
  induction ms generalizing fields with
  | nil => rfl
  | cons m ms ih =>
    have rest := fun fields => @ih fields fun m mem => made m (List.mem_cons_of_mem _ mem)
    rw [values, List.map_cons, addExtras, List.foldl_cons, addField]
    split
    · exact rest fields
    · rw [extraDocument, Document.document?_toValue _ m.2 (made m List.mem_cons_self)]
      exact rest (fields ++ [m])

theorem lookup_addField (fields : List (Text × Document)) (m : Text × Document) (name : Text) :
    (addField fields m).lookup name =
      (fields.lookup name).or (if isShown name then [m].lookup name else none) := by
  rw [addField, List.lookup_cons, List.lookup_nil]
  cases same : name == m.1 with
  | false =>
    have other : ([m] : List (Text × Document)).lookup name = none := by
      rw [List.lookup_cons, same]
      rfl
    split
    · simp
    · rw [List.lookup_append, other]
      simp
  | true =>
    obtain rfl := eq_of_beq same
    have added : ([m] : List (Text × Document)).lookup m.1 = some m.2 := by
      rw [List.lookup_cons, same]
    cases shown : isShown m.1 with
    | false => simp
    | true =>
      cases taken : fields.lookup m.1 with
      | none => simp [List.lookup_append, taken, added]
      | some d => simp [taken]

/-- What is there stays, and behind it the first attachment of each name is added that is shown. -/
theorem lookup_foldl_addField (ms fields : List (Text × Document)) (name : Text) :
    (ms.foldl addField fields).lookup name =
      (fields.lookup name).or (if isShown name then ms.lookup name else none) := by
  induction ms generalizing fields with
  | nil => simp
  | cons m ms ih =>
    rw [List.foldl_cons, ih, lookup_addField, Option.or_assoc]
    congr 1
    split
    · rw [← List.lookup_append, List.singleton_append]
    · rfl

theorem mem_foldl_addField {m : Text × Document} (mem : m ∈ ms.foldl addField fields) :
    m ∈ fields ∨ m ∈ ms := by
  induction ms generalizing fields with
  | nil => exact .inl mem
  | cons m' ms ih =>
    rcases ih mem with mem | mem
    · rw [addField] at mem
      split at mem
      · exact .inl mem
      · rcases List.mem_append.1 mem with mem | mem
        · exact .inl mem
        · exact .inr (List.mem_cons.2 (.inl (List.mem_singleton.1 mem)))
    · exact .inr (List.mem_cons_of_mem _ mem)

theorem nodup_foldl_addField (nodup : (fields.map Prod.fst).Nodup) :
    ((ms.foldl addField fields).map Prod.fst).Nodup := by
  induction ms generalizing fields with
  | nil => exact nodup
  | cons m ms ih =>
    refine ih ?_
    rw [addField]
    split
    · exact nodup
    · next free =>
      have new : m.1 ∉ fields.map Prod.fst := fun old => by
        obtain ⟨m', mem, same⟩ := List.mem_map.1 old
        have taken := List.lookup_isSome_iff.2 ⟨m', mem, beq_of_eq same.symm⟩
        exact free (by rw [taken, Bool.or_true])
      rw [List.map_append]
      exact nodup.append (List.nodup_singleton m.1) (List.disjoint_singleton.2 new)

/-- The attachments with the failure among them. -/
theorem exists_allExtras (extras : r.extras = values ms) :
    ∃ all, r.allExtras = values all ∧ (∀ name, all.lookup name =
        if name = failureField then (r.failure.map .text).or (ms.lookup name)
        else ms.lookup name) ∧
      ∀ m ∈ all, m ∈ ms ∨ ∃ t, m = (failureField, .text t) := by
  cases failed : r.failure with
  | none =>
    refine ⟨ms, ?_, fun name => ?_, fun m => .inl⟩
    · rw [allExtras, failed, extras]
    · split <;> rfl
  | some f =>
    -- The failure takes the place of an attachment of its name, or else it comes last.
    by_cases there : (r.extras.lookup failureField).isSome
    · refine ⟨ms.map fun m => (m.1, if m.1 = failureField then .text f else m.2),
        ?_, fun name => ?_, fun m mem => ?_⟩
      · rw [allExtras, failed]
        dsimp only
        rw [if_pos there, extras, values, values, List.map_map, List.map_map]
        refine List.map_congr_left fun m _ => ?_
        dsimp only [Function.comp]
        split
        · next same => rw [same]; rfl
        · rfl
      · rw [extras, lookup_values, Option.isSome_map] at there
        rw [lookup_map fun name d => if name = failureField then Document.text f else d]
        split
        · next same =>
          obtain ⟨d, found⟩ := Option.isSome_iff_exists.1 there
          rw [same, found]
          rfl
        · exact Option.map_id'
      · obtain ⟨m', mem', rfl⟩ := List.mem_map.1 mem
        split
        · next same => exact .inr ⟨_, by rw [same]⟩
        · exact .inl mem'
    · refine ⟨ms ++ [(failureField, .text f)], ?_, fun name => ?_, fun m mem => ?_⟩
      · rw [allExtras, failed]
        dsimp only
        rw [if_neg there, extras, values, values, List.map_append]
        rfl
      · rw [extras, lookup_values, Option.isSome_map, Option.not_isSome_iff_eq_none] at there
        rw [List.lookup_append]
        split
        · next same =>
          rw [same, there]
          rfl
        · next other =>
          rw [List.lookup_cons, beq_false_of_ne other]
          exact Option.or_none
      · exact (List.mem_append.1 mem).imp_right fun mem => ⟨_, List.mem_singleton.1 mem⟩

/-! ## For which invoke -/

/-- The document of what a line is about. -/
def about (ms : List (Text × Document)) (name : Text) (known : Option Text) : Option Document :=
  ((ms.lookup name).filter fun d => d.toValue.isTrue).or
    ((known.filter fun t => !t.isEmpty).map .text)

theorem about?_eq (extras : r.extras = values ms) (name : Text) (known : Option Text) :
    about? r name known = (about ms name known).map Document.toValue := by
  have own : ownValue? r name =
      ((ms.lookup name).filter fun d => d.toValue.isTrue).map Document.toValue := by
    rw [ownValue?, extras, lookup_values]
    cases ms.lookup name with
    | none => rfl
    | some d =>
      rw [Option.map_some, Option.filter_some]
      dsimp only
      split <;> rfl
  rw [about?, own, about, Option.map_or, Option.map_map]
  rfl

theorem mem_of_about {known : Option Text} {d : Document} (about : about ms name known = some d) :
    ms.lookup name = some d ∨ ∃ t, d = .text t := by
  rw [LogRecord.about, Option.or_eq_some_iff] at about
  rcases about with own | ⟨-, known⟩
  · exact .inl (Option.filter_eq_some_iff.1 own).1
  · obtain ⟨t, -, same⟩ := Option.map_eq_some_iff.1 known
    exact .inr ⟨t, same.symm⟩

theorem filter_isTrue_eq_none {own : Option Document}
    (no_own : ∀ d, own = some d → d.toValue.isTrue = false) :
    (own.filter fun d => d.toValue.isTrue) = none :=
  Option.filter_eq_none_iff.2 fun d known => by simp [no_own d known]

theorem identifies_about (ms : List (Text × Document)) (name : Text) (known : Option Text)
    (shown : Document → Document) : Identifies (ms.lookup name) known shown
      (((about ms name known).map shown).or (ms.lookup name)) where
  of_own := fun d own truth => by
    rw [about, own, Option.filter_some, if_pos truth]
    rfl
  of_known := fun no_own t known some_text => by
    have some_text : (!t.isEmpty) = true := by simpa using some_text
    rw [about, filter_isTrue_eq_none no_own, known, Option.filter_some, if_pos some_text]
    rfl
  of_neither := fun no_own no_text => by
    have no_text : (known.filter fun t => !t.isEmpty) = none :=
      Option.filter_eq_none_iff.2 fun t known => by simp [no_text t known]
    rw [about, filter_isTrue_eq_none no_own, no_text]
    rfl

/-! ## The fields of a line -/

/-- The field of this name, if anything is shown. -/
def field (name : Text) (shown : Option Document) : List (Text × Document) :=
  (shown.map fun d => (name, d)).toList

theorem lookup_field (name name' : Text) (shown : Option Document) :
    (field name shown).lookup name' = if name' = name then shown else none := by
  cases shown with
  | none => simp [field]
  | some d =>
    rw [field, Option.map_some, Option.toList_some, List.lookup_cons]
    split
    · next same => rw [if_pos (eq_of_beq same)]
    · next other => rw [if_neg (ne_of_beq_false other)]; rfl

theorem map_field (name : Text) (shown : Option Document) :
    List.Sublist ((field name shown).map Prod.fst) [name] := by
  cases shown with
  | none => exact List.nil_sublist _
  | some d => exact List.Sublist.refl _

theorem eq_of_mem_field {m : Text × Document} {shown : Option Document}
    (mem : m ∈ field name shown) : shown = some m.2 := by
  obtain ⟨d, found, rfl⟩ := Option.map_eq_some_iff.1 (Option.mem_toList.1 mem)
  exact found

/-- The fields of what a record always says. -/
def start (r : LogRecord) (stamp message : Text) : List (Text × Document) :=
  [("_time", .text stamp), ("level", .text r.level), ("logger", .text r.logger),
    ("message", .text message)]

/-- The fields that are there before the attachments are added. -/
def ownFields (c : Correlation) (r : LogRecord) (ms : List (Text × Document))
    (stamp message : Text) : List (Text × Document) :=
  start r stamp message ++ field "trace_id" ((about ms "trace_id" c.trace).map traced) ++
    field "aws_request_id" (about ms "aws_request_id" c.request)

variable {stamp message : Text}

theorem ownFields_names :
    List.Sublist ((ownFields c r ms stamp message).map Prod.fst) ownNames := by
  rw [ownFields, List.map_append, List.map_append]
  exact ((List.Sublist.refl _).append (map_field _ _)).append (map_field _ _)

theorem lookup_ownFields (c : Correlation) (r : LogRecord) (ms : List (Text × Document))
    (stamp message name : Text) : (ownFields c r ms stamp message).lookup name =
      ((start r stamp message).lookup name).or
        ((if name = "trace_id" then (about ms "trace_id" c.trace).map traced else none).or
          (if name = "aws_request_id" then about ms "aws_request_id" c.request else none)) := by
  rw [ownFields, List.lookup_append, List.lookup_append, lookup_field, lookup_field,
    Option.or_assoc]

theorem lookup_ownFields_of_other (other : name ∉ ownNames) :
    (ownFields c r ms stamp message).lookup name = none := by
  refine List.lookup_eq_none_iff.2 fun m mem => bne_iff_ne.2 ?_
  rintro rfl
  exact other (ownFields_names.subset (List.mem_map_of_mem mem))

/-- What is looked up in the fields of a line shows the record. -/
theorem shows_fields {all : List (Text × Document)} (lookup_all : ∀ name, all.lookup name =
      if name = failureField then (r.failure.map .text).or (ms.lookup name)
      else ms.lookup name) :
    r.Shows c ms stamp message
      (.object (all.foldl addField (ownFields c r ms stamp message))) := by
  have lookup : ∀ name, (Document.object (all.foldl addField
      (ownFields c r ms stamp message))).member? name = _ := lookup_foldl_addField all _
  -- What a record always says is found first, so no attachment can hide it.
  have always : ∀ name d, (start r stamp message).lookup name = some d →
      (Document.object (all.foldl addField (ownFields c r ms stamp message))).member? name =
        some d := fun name d found => by
    rw [lookup, lookup_ownFields, found, Option.some_or, Option.some_or]
  have attached : ∀ name, isShown name = true → name ≠ failureField →
      (if isShown name = true then all.lookup name else none) = ms.lookup name :=
    fun name shown other => by rw [if_pos shown, lookup_all, if_neg other]
  refine ⟨⟨_, rfl⟩, always _ _ rfl, always _ _ rfl, always _ _ rfl, always _ _ rfl, ?_, ?_,
    fun f failed => ?_, fun name shown other no_failure => ?_, fun name hidden other => ?_⟩
  · have none : (start r stamp message).lookup ("trace_id" : Text) = none := rfl
    rw [lookup, lookup_ownFields, none, if_pos rfl, if_neg (by decide), attached _ rfl (by decide),
      Option.none_or, Option.or_none]
    exact identifies_about ms "trace_id" c.trace traced
  · have none : (start r stamp message).lookup ("aws_request_id" : Text) = none := rfl
    have same := identifies_about ms "aws_request_id" c.request id
    rw [Option.map_id_fun, id] at same
    rw [lookup, lookup_ownFields, none, if_neg (by decide), if_pos rfl, attached _ rfl (by decide),
      Option.none_or, Option.none_or]
    exact same
  · have shown : isShown failureField = true := rfl
    rw [lookup, lookup_ownFields_of_other (by decide), if_pos shown, lookup_all, if_pos rfl, failed]
    rfl
  · rw [lookup, lookup_ownFields_of_other other, if_pos shown, lookup_all, Option.none_or]
    split
    · next same =>
      rw [no_failure same]
      rfl
    · rfl
  · rw [lookup, lookup_ownFields_of_other other, hidden]
    rfl

/-- A document that can be written in a line and read again. -/
structure Readable [Interpreter] (d : Document) : Prop where
  made : d.MadeOf (fun _ => True) Json.Short (nestingLimit - 1)
  distinct : d.Distinct
  finite : d.FloatsIn Double.Canonical

theorem readable_text [Interpreter] (t : Text) : Readable (.text t) :=
  ⟨trivial, trivial, trivial⟩

theorem readable_of_about [Interpreter] {known : Option Text} {d : Document}
    (readable : ∀ m ∈ ms, Readable m.2) (about : about ms name known = some d) : Readable d := by
  rcases mem_of_about about with own | ⟨t, rfl⟩
  · obtain ⟨before, behind, parts, -⟩ := List.lookup_eq_some_iff.1 own
    exact readable (name, d) (by rw [parts]; simp)
  · exact readable_text t

/-- What is known of the trace header is a text. -/
theorem Attaches.header (attaches : r.Attaches ms) {known : Option Text} {d : Document}
    (about : about ms "trace_id" known = some d) : ∃ t, d = .text t :=
  (mem_of_about about).elim (attaches.trace d) id

theorem readable_ownFields [Interpreter] (attaches : r.Attaches ms)
    (readable : ∀ m ∈ ms, Readable m.2) {m : Text × Document}
    (mem : m ∈ ownFields c r ms stamp message) : Readable m.2 := by
  rcases List.mem_append.1 mem with mem | mem
  · rcases List.mem_append.1 mem with mem | mem
    · obtain ⟨t, same⟩ : ∃ t, m.2 = .text t := by
        simp only [start, List.mem_cons, List.not_mem_nil, or_false] at mem
        obtain rfl | rfl | rfl | rfl := mem <;> exact ⟨_, rfl⟩
      exact same ▸ readable_text t
    · obtain ⟨d, about, shown⟩ := Option.map_eq_some_iff.1 (eq_of_mem_field mem)
      obtain ⟨t, rfl⟩ := attaches.header about
      exact shown ▸ readable_text _
  · exact readable_of_about readable (eq_of_mem_field mem)

/-- The record's own fields are made first, and then the attachments are added. -/
theorem fields_eq [Interpreter] (c : Correlation) (attaches : r.Attaches ms)
    (readable : ∀ m ∈ ms, Readable m.2) (text : r.text = .ok message)
    (time : LogRecord.time r.created = .ok stamp) :
    LogRecord.fields c r = addExtras r.allExtras (ownFields c r ms stamp message) := by
  have encoded : ∀ d, about ms "aws_request_id" c.request = some d →
      extraDocument d.toValue = .ok d := fun d about => by
    rw [extraDocument, Document.document?_toValue _ d (readable_of_about readable about).made]
  rw [LogRecord.fields, text, time, trace?, request?, about?_eq attaches.extras,
    about?_eq attaches.extras, ownFields]
  -- What is shown of the trace header and of the request id, or nothing, makes a field each.
  cases trace : about ms "trace_id" c.trace with
  | none =>
    cases request : about ms "aws_request_id" c.request with
    | none => rfl
    | some d =>
      dsimp only [Option.map_some]
      rw [encoded d request]
      rfl
  | some d =>
    obtain ⟨t, rfl⟩ := attaches.header trace
    cases request : about ms "aws_request_id" c.request with
    | none => rfl
    | some d =>
      dsimp only [Option.map_some]
      rw [encoded d request]
      rfl

/-- The fields of a line have distinct names, can be read, and show the record. -/
theorem exists_fields [Interpreter] (c : Correlation) (attaches : r.Attaches ms)
    (readable : ∀ m ∈ ms, Readable m.2) (text : r.text = .ok message)
    (time : LogRecord.time r.created = .ok stamp) :
    ∃ fields, LogRecord.fields c r = .ok fields ∧ (fields.map Prod.fst).Nodup ∧
      (∀ m ∈ fields, Readable m.2) ∧ r.Shows c ms stamp message (.object fields) := by
  obtain ⟨all, allExtras, lookup, known⟩ := exists_allExtras attaches.extras
  have all_readable : ∀ m ∈ all, Readable m.2 := fun m mem => by
    rcases known m mem with mem | ⟨t, rfl⟩
    · exact readable m mem
    · exact readable_text t
  have eq : LogRecord.fields c r =
      .ok (all.foldl addField (ownFields c r ms stamp message)) := by
    rw [fields_eq c attaches readable text time, allExtras]
    exact addExtras_values fun m mem => (all_readable m mem).made
  refine ⟨_, eq, nodup_foldl_addField (ownFields_names.nodup (by decide)), fun m mem => ?_,
    shows_fields lookup⟩
  rcases mem_foldl_addField mem with mem | mem
  · exact readable_ownFields attaches readable mem
  · exact all_readable m mem

/-- The line of a record whose message and time can be written has no control character, and it is a
    JSON object that shows the record. -/
theorem line_shows [Interpreter] (c : Correlation) (r : LogRecord) (ms : List (Text × Document))
    (attaches : r.Attaches ms)
    (made : (Document.object ms).MadeOf (fun _ => True) Json.Short nestingLimit)
    (message stamp : Text) (text : r.text = .ok message)
    (time : LogRecord.time r.created = .ok stamp) :
    ∃ t d, r.line c = .ok t ∧ t.Only (fun c => 32 ≤ c.val) ∧
      (∀ rules : JsonRules, nestingLimit ≤ rules.depth → Json.read rules t = .ok d) ∧
      r.Shows c ms stamp message d := by
  have some_level : 0 < nestingLimit := le_nestingLimit (by decide)
  have readable : ∀ m ∈ ms, Readable m.2 := fun m mem =>
    ⟨((Document.madeOf_object_iff some_level).1 made m mem).2,
      Document.membersDistinct_iff.1 attaches.distinct.2 m mem,
      Document.membersFloatsIn_iff.1 attaches.finite m mem⟩
  obtain ⟨fields, eq, nodup, all_readable, shows⟩ := exists_fields c attaches readable text time
  have line_made : (Document.object fields).MadeOf (fun _ => True) Json.Short nestingLimit :=
    (Document.madeOf_object_iff some_level).2 fun m mem => ⟨trivial, (all_readable m mem).made⟩
  have distinct : (Document.object fields).Distinct :=
    ⟨nodup, Document.membersDistinct_iff.2 fun m mem => (all_readable m mem).distinct⟩
  have finite : (Document.object fields).FloatsIn Double.Canonical :=
    Document.membersFloatsIn_iff.2 fun m mem => (all_readable m mem).finite
  refine ⟨_, _, by rw [line, eq]; rfl, Document.only_render JsonStyle.spares_readable line_made,
    fun rules deep => ?_, shows⟩
  obtain ⟨number, numbers, legible⟩ := JsonStyle.legible_readable rules
  exact Json.read_render_self legible numbers
    (line_made.mono (fun _ => id) (fun _ => id) _ deep) distinct finite

/-! ### A record with a failure -/

theorem exists_time (created : Double)
    (in_calendar : (LogRecord.time created).toOption.isSome = true) :
    ∃ stamp, LogRecord.time created = .ok stamp := by
  cases found : LogRecord.time created with
  | ok stamp => exact ⟨stamp, rfl⟩
  | error e =>
    rw [found] at in_calendar
    cases in_calendar

/-- Attachments one of which has a name of its own to take, one a trace header, one a request id
    that counts as false, and one a name that is not shown. -/
def mixed : List (Text × Document) :=
  [("level", .text "DEBUG"), ("trace_id", .text "Root=1-5e1b4151-5ac6;Sampled=1"),
    ("aws_request_id", .object []), ("tags", .array [.float (.finite false (2 ^ 52) (-53)),
      .text [0xD800, 0, 34], .int (-7)]), ("_task", .null)]

/-- A record with these attachments, a message of two lines, and a failure. -/
def failing [Interpreter] : LogRecord where
  logger := "runtime.test"
  level := "ERROR"
  message := .text "first\nsecond"
  args := []
  created := .finite false (2 ^ 52) (-22)
  extras := values mixed
  failure := some (Failure.text ⟨.valueError "no value", []⟩)

theorem attaches_mixed : failing.Attaches mixed where
  extras := rfl
  distinct := ⟨by decide, trivial, trivial, ⟨List.nodup_nil, trivial⟩,
    ⟨trivial, trivial, trivial, trivial⟩, trivial, trivial⟩
  finite := by
    have half : Double.Canonical (.finite false (2 ^ 52) (-53)) :=
      ⟨Nat.pow_lt_pow_right one_lt_two (by decide), by decide, by decide, .inr (Nat.le_refl _)⟩
    exact ⟨trivial, trivial, trivial, ⟨half, trivial, trivial, trivial⟩, trivial, trivial⟩
  trace := fun d found => by
    injection found with same
    exact ⟨_, same.symm⟩

/-- Its line shows its own level, the root of its own trace header, and the request id of the
    invoke. -/
theorem line_shows_failing : ∃ t d message stamp,
    failing.text = .ok message ∧ LogRecord.time failing.created = .ok stamp ∧
    failing.line ⟨some "Root=2", some "r-1", none⟩ = .ok t ∧ t.Only (fun c => 32 ≤ c.val) ∧
    Json.read ⟨nestingLimit, true⟩ t = .ok d ∧
    d.member? "level" = some (.text "ERROR") ∧
    d.member? "trace_id" = some (.text "1-5e1b4151-5ac6") ∧
    d.member? "aws_request_id" = some (.text "r-1") ∧
    d.member? "exception" = some (.text "ValueError: no value") ∧
    d.member? "_task" = none := by
  have made : (Document.object mixed).MadeOf (fun _ => True) Json.Short nestingLimit :=
    ⟨trivial, trivial, trivial, trivial, trivial, trivial, trivial,
      ⟨trivial, trivial, Json.short_of_lt_ten (by decide), trivial⟩, trivial, trivial, trivial⟩
  obtain ⟨stamp, time⟩ := exists_time failing.created (by decide +kernel)
  have text : failing.text = .ok (Text.ofString "first\nsecond") := by
    rw [LogRecord.text]
    rfl
  obtain ⟨t, d, line, shown, read, shows⟩ := line_shows ⟨some "Root=2", some "r-1", none⟩ failing
    mixed attaches_mixed made _ stamp text time
  refine ⟨t, d, _, stamp, text, time, line, shown, ?_, ?_, ?_, ?_, ?_, ?_⟩
  · exact read ⟨nestingLimit, true⟩ (Nat.le_refl _)
  · exact shows.level
  · exact shows.trace.of_own _ rfl rfl
  · refine shows.request.of_known (fun d own => ?_) _ rfl (by decide)
    have object : (Document.object mixed).member? "aws_request_id" = some (.object []) := rfl
    obtain rfl := Option.some.inj (object.symm.trans own)
    rfl
  · have formatted : Failure.text ⟨.valueError "no value", []⟩ = "ValueError: no value" := by
      decide +kernel
    rw [← formatted]
    exact shows.failure _ rfl
  · exact shows.hidden _ rfl (by decide)

/-! ### Attachments that are not written -/

/-- A record with this document attached. -/
def attaching (d : Document) : LogRecord where
  logger := "runtime.test"
  level := "INFO"
  message := .text "m"
  args := []
  created := .zero false
  extras := values [("n", d)]
  failure := none

theorem text_attaching [Interpreter] (d : Document) :
    (attaching d).text = .ok (Text.ofString "m") := by
  rw [LogRecord.text]
  rfl

theorem time_attaching (d : Document) :
    ∃ stamp, LogRecord.time (attaching d).created = .ok stamp :=
  exists_time (.zero false) (by decide +kernel)

/-- If the document is not written, no line is. -/
theorem line_attaching [Interpreter] {d : Document} {e : Thrown}
    (failed : extraDocument d.toValue = .error e) : (attaching d).line .empty = .error e := by
  obtain ⟨stamp, time⟩ := time_attaching d
  have no_trace : trace? .empty (attaching d) = none := rfl
  have no_request : request? .empty (attaching d) = none := rfl
  have added : ∀ fields, fields.lookup ("n" : Text) = none →
      addExtras (attaching d).allExtras fields = .error e := fun fields free => by
    show addExtras [("n", d.toValue)] fields = _
    rw [addExtras, free, failed]
    rfl
  have failed : LogRecord.fields .empty (attaching d) = .error e := by
    rw [LogRecord.fields, text_attaching, time, no_trace, no_request]
    dsimp only [bind, Except.bind, pure, Except.pure]
    rw [added _ rfl]
  rw [line, failed]
  rfl

theorem extraDocument_of_long [Interpreter] {n : Int} (long : ¬ Json.Short n) :
    extraDocument (Document.int n).toValue = .error .tooManyDigits := by
  rw [extraDocument, Document.toValue, Value.document?, if_neg (by exact long)]
  rfl

/-- So many arrays around `null`. -/
def nested : Nat → Document
  | 0 => .null
  | n + 1 => .array [nested n]

theorem document?_nested (fallback : Value → Except EncodeFault Document) (n depth : Nat)
    (deep : depth < n) : (nested n).toValue.document? fallback depth = .error .tooDeep := by
  induction n generalizing depth with
  | zero => exact absurd deep (Nat.not_lt_zero _)
  | succ n ih =>
    have list : (nested (n + 1)).toValue = .list [(nested n).toValue] := rfl
    cases depth with
    | zero => rfl
    | succ depth =>
      rw [list, Value.document?, Value.documents?, ih depth (Nat.lt_of_succ_lt_succ deep)]
      rfl

/-- Without surrogates, with a message and a time that can be written, and with attachments that are
    JSON, with such integers and nested so deeply. -/
structure IsPlain [Interpreter] (Q : Int → Prop) (depth : Nat) (r : LogRecord)
    (ms : List (Text × Document)) : Prop where
  attaches : r.Attaches ms
  level : r.level.Scalar
  logger : r.logger.Scalar
  made : (Document.object ms).MadeOf Text.Scalar Q depth
  message : ∃ message, r.text = .ok message ∧ message.Scalar
  time : ∃ stamp, LogRecord.time r.created = .ok stamp

theorem isPlain_attaching [Interpreter] {Q : Int → Prop} {depth : Nat} {d : Document}
    (distinct : d.Distinct) (finite : d.FloatsIn Double.Canonical)
    (made : d.MadeOf Text.Scalar Q depth) : IsPlain Q (depth + 1) (attaching d) [("n", d)] where
  attaches := ⟨rfl, ⟨List.nodup_singleton _, distinct, trivial⟩, ⟨finite, trivial⟩, nofun⟩
  level := Text.scalar_iff.2 rfl
  logger := Text.scalar_iff.2 rfl
  made := ⟨Text.scalar_iff.2 rfl, made, trivial⟩
  message := ⟨_, text_attaching d, Text.scalar_iff.2 rfl⟩
  time := time_attaching d

theorem plain_nested (n : Nat) : (nested n).Distinct ∧ (nested n).FloatsIn Double.Canonical ∧
    (nested n).MadeOf Text.Scalar Json.Short n := by
  induction n with
  | zero => exact ⟨trivial, trivial, trivial⟩
  | succ n ih => exact ⟨⟨ih.1, trivial⟩, ⟨ih.2.1, trivial⟩, ⟨ih.2.2, trivial⟩⟩

/-- It is not true that every such record has a line: not if an integer has too many digits, and not
    if attachments are nested too deeply. -/
theorem not_forall_line :
    (¬ ∀ (c : Correlation) (r : LogRecord) (ms : List (Text × Document)),
      r.IsPlain (fun _ => True) nestingLimit ms → ∃ t, r.line c = .ok t) ∧
    ¬ ∀ (c : Correlation) (r : LogRecord) (ms : List (Text × Document)),
      r.IsPlain Json.Short (nestingLimit + 1) ms → ∃ t, r.line c = .ok t := by
  constructor
  · intro all_written
    have long : ¬ Json.Short (10 ^ Text.maxDigits) := by
      have ten : (10 : Int).natAbs = 10 := rfl
      rw [Json.Short, Int.natAbs_pow, ten]
      exact Nat.lt_irrefl _
    obtain ⟨t, written⟩ := all_written .empty _ _ (isPlain_attaching
      (d := .int (10 ^ Text.maxDigits)) trivial trivial trivial)
    rw [line_attaching (extraDocument_of_long long)] at written
    cases written
  · intro all_written
    obtain ⟨distinct, finite, made⟩ := plain_nested nestingLimit
    have deep : extraDocument (nested nestingLimit).toValue =
        .error (EncodeFault.toThrown .tooDeep) := by
      rw [extraDocument, document?_nested _ nestingLimit (nestingLimit - 1) (by decide)]
    obtain ⟨t, written⟩ := all_written .empty _ _ (isPlain_attaching distinct finite made)
    rw [line_attaching deep] at written
    cases written

end LogRecord

end InvokeWorker
