import InvokeWorker.Invoke.HeaderDocument
import InvokeWorker.Proofs.JsonNames

/-!
# Left out or `null`

In the documents of headers a `null` stands for a field that is left out, and in an object of texts
for an empty text. Here this is said without the reader: what a document may say of a field
(`HeaderDocument.Allows`), and what it then does say (`HeaderDocument.States`), if the names of the
members of an object are distinct. The reader sees to that, since of members of one name it keeps
one (`Json.distinct_of_read`).

* `HeaderDocument.parse_without_nulls`: a header is read as it is without its `null`s, and is taken
  just if its document is `null`, or an object whose known fields are `null` or of their types.
-/

namespace InvokeWorker

/-! ## What a document says

A field may be known by several names. It is left out if there is no member of these names, or if
there is one that is `null`. -/

namespace HeaderDocument

variable {α : Type}

/-- The members of these names are such, or `null`. -/
def Allows (ms : List (Text × Document)) (names : List Text) (Shape : Document → Prop) : Prop :=
  ∀ name ∈ names, ∀ d, (name, d) ∈ ms → d = .null ∨ Shape d

/-- What the members say of the field with these names: what one of them means, or else that the
    field is left out. -/
def States (ms : List (Text × Document)) (names : List Text) (Means : Document → α → Prop)
    (empty a : α) : Prop :=
  (∃ name ∈ names, ∃ d, (name, d) ∈ ms ∧ d ≠ .null ∧ Means d a) ∨
    (a = empty ∧ ∀ name ∈ names, ∀ d, (name, d) ∈ ms → d = .null)

/-- There are no two members with different ones of these names. -/
def NamedOnce (names : List Text) (ms : List (Text × Document)) : Prop :=
  ∀ name ∈ names, ∀ name' ∈ names, name ∈ ms.map Prod.fst → name' ∈ ms.map Prod.fst → name = name'

/-- The document is a text. -/
def TextShaped (d : Document) : Prop :=
  ∃ t, d = .text t

/-- The document is this text. -/
def MeansText (d : Document) (t : Text) : Prop :=
  d = .text t

/-- The document is an object of texts, some of which may be `null`. -/
def TextsShaped (d : Document) : Prop :=
  ∃ es, d = .object es ∧ ∀ e ∈ es, e.2 = .null ∨ TextShaped e.2

/-- The document is an object of these texts; an empty one may be `null`. -/
def MeansTexts (d : Document) (ts : List (Text × Text)) : Prop :=
  ∃ es, d = .object es ∧ List.Forall₂ (fun e entry => e.1 = entry.1 ∧
    (e.2 = .text entry.2 ∨ (e.2 = .null ∧ entry.2 = []))) es ts

/-- The document is an object with the fields of an application. -/
def ApplicationShaped (d : Document) : Prop :=
  ∃ ms, d = .object ms ∧ Allows ms ["installation_id"] TextShaped ∧
    Allows ms ["app_title"] TextShaped ∧ Allows ms ["app_version_code"] TextShaped ∧
    Allows ms ["app_package_name"] TextShaped

/-- The document is an object that describes the application. -/
def MeansApplication (d : Document) (a : ClientApplication) : Prop :=
  ∃ ms, d = .object ms ∧ States ms ["installation_id"] MeansText [] a.installationId ∧
    States ms ["app_title"] MeansText [] a.appTitle ∧
    States ms ["app_version_code"] MeansText [] a.appVersionCode ∧
    States ms ["app_package_name"] MeansText [] a.appPackageName

/-- The document is `null`, or an object with the fields of a client. -/
def ClientShaped (d : Document) : Prop :=
  d = .null ∨ ∃ ms, d = .object ms ∧ Allows ms ["client"] ApplicationShaped ∧
    Allows ms ["env"] TextsShaped ∧ Allows ms ["custom"] TextsShaped

/-- What the document says of the client. -/
def MeansClient (d : Document) (c : ClientContext) : Prop :=
  (d = .null ∧ c = .unknown) ∨ ∃ ms, d = .object ms ∧
    States ms ["client"] MeansApplication .unknown c.client ∧
    States ms ["env"] MeansTexts [] c.env ∧ States ms ["custom"] MeansTexts [] c.custom

/-- The names of an identity. -/
def idNames : List Text := ["cognitoIdentityId", "cognito_identity_id"]

/-- The names of the pool of an identity. -/
def poolNames : List Text := ["cognitoIdentityPoolId", "cognito_identity_pool_id"]

/-- The document is `null`, or an object with the fields of an identity. -/
def IdentityShaped (d : Document) : Prop :=
  d = .null ∨ ∃ ms, d = .object ms ∧ Allows ms idNames TextShaped ∧ Allows ms poolNames TextShaped

/-- What the document says of the identity. -/
def MeansIdentity (d : Document) (i : Identity) : Prop :=
  (d = .null ∧ i = .unknown) ∨ ∃ ms, d = .object ms ∧ States ms idNames MeansText [] i.id ∧
    States ms poolNames MeansText [] i.poolId

/-! ## The fields of an object -/

/-- No fault is found just if the shape is right, and then what was read is meant. -/
def Outcome.Tells (o : Outcome α) (Shape : Prop) (Means : α → Prop) : Prop :=
  (o.1 = [] ↔ Shape) ∧ (Shape → Means o.2)

/-- The document is `null`. -/
def isNull : Document → Bool
  | .null => true
  | _ => false

theorem isNull_iff {d : Document} : isNull d = true ↔ d = .null := by
  cases d <;> simp [isNull]

/-- The members that are not `null`. -/
def stripped (ms : List (Text × Document)) : List (Text × Document) :=
  ms.filter fun m => !isNull m.2

theorem mem_stripped {ms : List (Text × Document)} {name : Text} {d : Document} :
    (name, d) ∈ stripped ms ↔ (name, d) ∈ ms ∧ d ≠ .null := by
  rw [stripped, List.mem_filter, Bool.not_eq_true', ← Bool.not_eq_true, isNull_iff]

/-- Reads a member. -/
def given (empty : α) (read : Text → Document → Outcome α) (m : Text × Document) : Outcome α :=
  if isNull m.2 then ([], empty) else read m.1 m.2

/-- Reads the field with these names. -/
def member (empty : α) (read : Text → Document → Outcome α) (names : List Text)
    (ms : List (Text × Document)) : Outcome α :=
  match names.findSome? fun name => (ms.lookup name).map fun d => (name, d) with
  | none => ([], empty)
  | some m => given empty read m

section Member

variable {ms : List (Text × Document)} {names : List Text} {name : Text} {d : Document}
  {empty : α} {read : Text → Document → Outcome α}

theorem lookup_eq_some_iff (distinct : (ms.map Prod.fst).Nodup) :
    ms.lookup name = some d ↔ (name, d) ∈ ms := by
  induction ms with
  | nil => simp
  | cons m ms ih =>
    rw [List.map_cons, List.nodup_cons] at distinct
    rw [List.lookup_cons, List.mem_cons]
    split
    · next same =>
      refine ⟨fun eq => .inl ?_, fun mem => ?_⟩
      · cases eq
        rw [eq_of_beq same]
      · rcases mem with first | mem
        · rw [← first]
        · exact absurd (eq_of_beq same ▸ List.mem_map_of_mem mem) distinct.1
    · next other =>
      rw [ih distinct.2]
      refine ⟨.inr, fun mem => mem.resolve_left fun first => ?_⟩
      rw [← first, beq_self_eq_true] at other
      cases other

/-- The first member with one of the names is the only one. -/
theorem member_cases (distinct : (ms.map Prod.fst).Nodup) (once : NamedOnce names ms)
    (empty : α) (read : Text → Document → Outcome α) :
    (member empty read names ms = ([], empty) ∧ ∀ name ∈ names, ∀ d, (name, d) ∉ ms) ∨
    ∃ name ∈ names, ∃ d, (name, d) ∈ ms ∧
      (∀ name' ∈ names, ∀ d', (name', d') ∈ ms → d' = d) ∧
      member empty read names ms = given empty read (name, d) := by
  rw [member]
  cases found : names.findSome? fun name => (ms.lookup name).map fun d => (name, d) with
  | none =>
    refine .inl ⟨rfl, fun name known d mem => ?_⟩
    have absent := List.findSome?_eq_none_iff.1 found name known
    rw [(lookup_eq_some_iff distinct).2 mem] at absent
    cases absent
  | some m =>
    obtain ⟨name, known, found⟩ := List.exists_of_findSome?_eq_some found
    obtain ⟨d, read, rfl⟩ := Option.map_eq_some_iff.1 found
    have mem := (lookup_eq_some_iff distinct).1 read
    refine .inr ⟨name, known, d, mem, fun name' known' d' mem' => ?_, rfl⟩
    obtain rfl := once name known name' known' (List.mem_map_of_mem mem) (List.mem_map_of_mem mem')
    exact Option.some.inj (((lookup_eq_some_iff distinct).2 mem').symm.trans read)

/-- A field is read as what it means, if its member is. -/
theorem tells_member (empty : α) {Shape : Document → Prop} {Means : Document → α → Prop}
    (distinct : (ms.map Prod.fst).Nodup) (once : NamedOnce names ms)
    (tells : ∀ name d, (name, d) ∈ ms → (read name d).Tells (Shape d) (Means d)) :
    (member empty read names ms).Tells (Allows ms names Shape) (States ms names Means empty) := by
  rcases member_cases distinct once empty read with ⟨eq, none⟩ | ⟨name, known, d, mem, only, eq⟩
  · rw [eq]
    exact ⟨⟨fun _ name known d mem => absurd mem (none name known d), fun _ => rfl⟩,
      fun _ => .inr ⟨rfl, fun name known d mem => absurd mem (none name known d)⟩⟩
  · rw [eq, given]
    split
    · next null =>
      have nulls : ∀ name ∈ names, ∀ d', (name, d') ∈ ms → d' = .null := fun name' known' d' mem' =>
        (only name' known' d' mem').trans (isNull_iff.1 null)
      exact ⟨⟨fun _ name known d mem => .inl (nulls name known d mem), fun _ => rfl⟩,
        fun _ => .inr ⟨rfl, nulls⟩⟩
    · next some =>
      have some : d ≠ .null := fun null => some (isNull_iff.2 null)
      obtain ⟨iff, means⟩ := tells name d mem
      refine ⟨iff.trans ⟨fun shape name' known' d' mem' => ?_, fun allows => ?_⟩, fun allows => ?_⟩
      · exact .inr (only name' known' d' mem' ▸ shape)
      · exact (allows name known d mem).resolve_left some
      · exact .inl ⟨name, known, d, mem, some, means ((allows name known d mem).resolve_left some)⟩

/-- It makes no difference to a field if members that are `null` are left out. -/
theorem member_stripped (distinct : (ms.map Prod.fst).Nodup) (once : NamedOnce names ms) :
    member empty read names (stripped ms) = member empty read names ms := by
  have fewer : (stripped ms).Sublist ms := List.filter_sublist
  have once' : NamedOnce names (stripped ms) := fun name known name' known' mem mem' =>
    once name known name' known' ((fewer.map _).mem mem) ((fewer.map _).mem mem')
  have distinct' := (fewer.map Prod.fst).nodup distinct
  rcases member_cases distinct once empty read with ⟨eq, none⟩ | ⟨name, known, d, mem, only, eq⟩ <;>
    rcases member_cases distinct' once' empty read with
      ⟨eq', none'⟩ | ⟨name', known', d', mem', -, eq'⟩
  · rw [eq, eq']
  · exact absurd (mem_stripped.1 mem').1 (none name' known' d')
  · have null : d = .null := by
      by_contra some
      exact none' name known d (mem_stripped.2 ⟨mem, some⟩)
    rw [eq, eq', given, if_pos (isNull_iff.2 null)]
  · have in_ms := (mem_stripped.1 mem').1
    obtain rfl := only name' known' d' in_ms
    obtain rfl := once name known name' known' (List.mem_map_of_mem mem) (List.mem_map_of_mem in_ms)
    rw [eq, eq']

/-- It makes no difference to a field if members are changed to others that are read alike. -/
theorem member_map (change : Text → Document → Document)
    (alike : ∀ name ∈ names, ∀ d, (name, d) ∈ ms →
      given empty read (name, change name d) = given empty read (name, d)) :
    member empty read names (ms.map fun m => (m.1, change m.1 m.2)) =
      member empty read names ms := by
  have changed : (names.findSome? fun name =>
        ((ms.map fun m => (m.1, change m.1 m.2)).lookup name).map fun d => (name, d)) =
      (names.findSome? fun name => (ms.lookup name).map fun d => (name, d)).map
        fun m => (m.1, change m.1 m.2) := by
    rw [List.map_findSome?]
    congr 1
    funext name
    rw [lookup_map, Option.map_map, Function.comp_apply, Option.map_map]
    rfl
  rw [member, member, changed]
  cases found : names.findSome? fun name => (ms.lookup name).map fun d => (name, d) with
  | none => rfl
  | some m =>
    obtain ⟨name, known, found⟩ := List.exists_of_findSome?_eq_some found
    obtain ⟨d, read, rfl⟩ := Option.map_eq_some_iff.1 found
    obtain ⟨before, behind, parts, -⟩ := List.lookup_eq_some_iff.1 read
    exact alike name known d (parts ▸ List.mem_append_right _ List.mem_cons_self)

end Member

theorem namedOnce_singleton (name : Text) (ms : List (Text × Document)) : NamedOnce [name] ms := by
  intro n known n' known' _ _
  rw [List.mem_singleton.1 known, List.mem_singleton.1 known']

/-! ## The readers of fields -/

theorem textMember_eq (place : List Text) (names : List Text) (ms : List (Text × Document)) :
    textMember place names ms =
      member [] (fun name d => text (place ++ [name]) (field d)) names ms := by
  rw [textMember, member]
  cases names.findSome? fun name => (ms.lookup name).map fun d => (name, d) with
  | none => rfl
  | some m =>
    obtain ⟨name, d⟩ := m
    cases d <;> rfl

theorem textsMember_eq (name : Text) (ms : List (Text × Document)) :
    textsMember name ms = member [] (fun name d => texts [name] (field d)) [name] ms := by
  rw [textsMember, member, List.findSome?_singleton]
  cases ms.lookup name with
  | none => rfl
  | some d => cases d <;> rfl

theorem applicationMember_eq (ms : List (Text × Document)) :
    applicationMember ms =
      member .unknown (fun name d => application [name] (field d)) ["client"] ms := by
  rw [applicationMember, member, List.findSome?_singleton]
  cases ms.lookup ("client" : Text) with
  | none => rfl
  | some d => cases d <;> rfl

theorem tells_text (place : List Text) (d : Document) :
    (text place (field d)).Tells (TextShaped d) (MeansText d) := by
  cases d with
  | text t => exact ⟨⟨fun _ => ⟨t, rfl⟩, fun _ => rfl⟩, fun _ => rfl⟩
  | _ => exact ⟨⟨nofun, nofun⟩, nofun⟩

theorem tells_texts (place : List Text) (d : Document) :
    (texts place (field d)).Tells (TextsShaped d) (MeansTexts d) := by
  cases d with
  | object es =>
    have item : ∀ e ∈ es, (text (place ++ [e.1]) (match e.2 with
        | .null => .text []
        | d => d)).Tells (e.2 = .null ∨ TextShaped e.2)
          fun t => e.2 = .text t ∨ (e.2 = .null ∧ t = []) := by
      rintro ⟨name, d⟩ -
      cases d with
      | null => exact ⟨⟨fun _ => .inl rfl, fun _ => rfl⟩, fun _ => .inr ⟨rfl, rfl⟩⟩
      | text t => exact ⟨⟨fun _ => .inr ⟨t, rfl⟩, fun _ => rfl⟩, fun _ => .inl rfl⟩
      | _ => exact ⟨⟨nofun, by rintro (⟨⟨⟩⟩ | ⟨_, ⟨⟩⟩)⟩, by rintro (⟨⟨⟩⟩ | ⟨_, ⟨⟩⟩)⟩
    refine ⟨⟨fun fits => ⟨es, rfl, fun e mem => (item e mem).1.1 ?_⟩, ?_⟩, ?_⟩
    · simp only [field, texts, withoutNull, List.map_map, List.flatMap_map,
        List.flatMap_eq_nil_iff] at fits
      exact fits e mem
    · rintro ⟨_, ⟨⟩, shaped⟩
      simp only [field, texts, withoutNull, List.map_map, List.flatMap_map,
        List.flatMap_eq_nil_iff]
      exact fun e mem => (item e mem).1.2 (shaped e mem)
    · rintro ⟨_, ⟨⟩, shaped⟩
      refine ⟨es, rfl, ?_⟩
      simp only [field, texts, withoutNull, List.map_map]
      rw [List.forall₂_map_right_iff, List.forall₂_same]
      exact fun e mem => ⟨rfl, (item e mem).2 (shaped e mem)⟩
  | _ => exact ⟨⟨nofun, nofun⟩, nofun⟩

/-- A text within an object that is `null` is read as if it was left out. -/
theorem textMember_withoutNull (place : List Text) (names : List Text)
    (ms : List (Text × Document)) :
    textMember place names (withoutNull ms) = textMember place names ms := by
  rw [textMember_eq, textMember_eq]
  refine member_map (fun _ d => match d with
    | .null => .text []
    | d => d) fun name _ d _ => ?_
  cases d <;> rfl

theorem tells_textMember (place : List Text) {names : List Text} {ms : List (Text × Document)}
    (distinct : (ms.map Prod.fst).Nodup) (once : NamedOnce names ms) :
    (textMember place names ms).Tells (Allows ms names TextShaped)
      (States ms names MeansText []) := by
  rw [textMember_eq]
  exact tells_member [] distinct once fun name d _ => tells_text _ d

theorem tells_application (place : List Text) {d : Document} (distinct : d.Distinct) :
    (application place (field d)).Tells (ApplicationShaped d) (MeansApplication d) := by
  cases d with
  | object ms =>
    have tells := fun name => tells_textMember place distinct.1 (namedOnce_singleton name ms)
    simp only [field, application, textMember_withoutNull]
    refine ⟨?_, ?_⟩
    · simp only [List.append_eq_nil_iff, (tells _).1, ApplicationShaped, Document.object.injEq,
        exists_eq_left', and_assoc]
    · rintro ⟨_, ⟨⟩, id, title, version, package⟩
      exact ⟨ms, rfl, (tells _).2 id, (tells _).2 title, (tells _).2 version, (tells _).2 package⟩
  | _ => exact ⟨⟨nofun, nofun⟩, nofun⟩

/-! ## The two documents -/

theorem tells_clientContext {d : Document} (distinct : d.Distinct) :
    (clientContext d).Tells (ClientShaped d) (MeansClient d) := by
  cases d with
  | null => exact ⟨⟨fun _ => .inl rfl, fun _ => rfl⟩, fun _ => .inl ⟨rfl, rfl⟩⟩
  | object ms =>
    have inside := Document.membersDistinct_iff.1 distinct.2
    have client := tells_member .unknown distinct.1 (namedOnce_singleton "client" ms)
      fun name d mem => tells_application [name] (d := d) (inside (name, d) mem)
    have texts := fun name => tells_member [] distinct.1 (namedOnce_singleton name ms)
      fun name d _ => tells_texts [name] d
    simp only [← applicationMember_eq, ← textsMember_eq] at client texts
    refine ⟨?_, ?_⟩
    · simp only [clientContext, List.append_eq_nil_iff, client.1, (texts _).1, ClientShaped,
        Document.object.injEq, exists_eq_left', and_assoc, reduceCtorEq, false_or]
    · rintro (⟨⟨⟩⟩ | ⟨_, ⟨⟩, application, env, custom⟩)
      exact .inr ⟨ms, rfl, client.2 application, (texts _).2 env, (texts _).2 custom⟩
  | _ => exact ⟨⟨nofun, by rintro (⟨⟨⟩⟩ | ⟨_, ⟨⟩, -⟩)⟩, by rintro (⟨⟨⟩⟩ | ⟨_, ⟨⟩, -⟩)⟩

theorem tells_identity {d : Document} (distinct : d.Distinct)
    (once : ∀ ms, d = .object ms → NamedOnce idNames ms ∧ NamedOnce poolNames ms) :
    (identity d).Tells (IdentityShaped d) (MeansIdentity d) := by
  cases d with
  | null => exact ⟨⟨fun _ => .inl rfl, fun _ => rfl⟩, fun _ => .inl ⟨rfl, rfl⟩⟩
  | object ms =>
    have id := tells_textMember [] distinct.1 (once ms rfl).1
    have pool := tells_textMember [] distinct.1 (once ms rfl).2
    refine ⟨?_, ?_⟩
    · simp only [identity, List.append_eq_nil_iff, IdentityShaped, Document.object.injEq,
        exists_eq_left', reduceCtorEq, false_or]
      exact and_congr id.1 pool.1
    · rintro (⟨⟨⟩⟩ | ⟨_, ⟨⟩, shaped, pool_shaped⟩)
      exact .inr ⟨ms, rfl, id.2 shaped, pool.2 pool_shaped⟩
  | _ => exact ⟨⟨nofun, by rintro (⟨⟨⟩⟩ | ⟨_, ⟨⟩, -⟩)⟩, by rintro (⟨⟨⟩⟩ | ⟨_, ⟨⟩, -⟩)⟩

/-- A member of the document of a client without what is `null` in it. -/
def explicit (name : Text) : Document → Document
  | .object es =>
    if name = "client" then .object (stripped es)
    else if name = "env" ∨ name = "custom" then .object (withoutNull es)
    else .object es
  | d => d

/-- The document of a client without what is `null` in it: fields are left out, texts are empty. -/
def clientWithoutNulls : Document → Document
  | .object ms => .object ((stripped ms).map fun m => (m.1, explicit m.1 m.2))
  | d => d

/-- The document of an identity without the fields that are `null`. -/
def identityWithoutNulls : Document → Document
  | .object ms => .object (stripped ms)
  | d => d

theorem withoutNull_withoutNull (es : List (Text × Document)) :
    withoutNull (withoutNull es) = withoutNull es := by
  rw [withoutNull, withoutNull, List.map_map]
  refine List.map_congr_left fun e _ => ?_
  obtain ⟨name, d⟩ := e
  cases d <;> rfl

theorem application_stripped (place : List Text) {es : List (Text × Document)}
    (distinct : (es.map Prod.fst).Nodup) :
    application place (field (.object (stripped es))) = application place (field (.object es)) := by
  have same : ∀ name, textMember place [name] (stripped es) = textMember place [name] es :=
    fun name => by
      rw [textMember_eq, textMember_eq, member_stripped distinct (namedOnce_singleton name es)]
  simp only [field, application, textMember_withoutNull, same]

/-- What is known about a client is read alike without the `null`s. -/
theorem clientContext_withoutNulls {d : Document} (distinct : d.Distinct) :
    clientContext (clientWithoutNulls d) = clientContext d := by
  cases d with
  | object ms =>
    have inside := Document.membersDistinct_iff.1 distinct.2
    have client : applicationMember ((stripped ms).map fun m => (m.1, explicit m.1 m.2)) =
        applicationMember ms := by
      rw [applicationMember_eq, applicationMember_eq,
        ← member_stripped distinct.1 (namedOnce_singleton _ ms)]
      refine member_map explicit fun name known d mem => ?_
      obtain rfl := List.mem_singleton.1 known
      cases d with
      | object es =>
        have names : (es.map Prod.fst).Nodup := (inside _ (mem_stripped.1 mem).1).1
        exact application_stripped ["client"] names
      | _ => rfl
    have texts : ∀ name : Text, (name = "env" ∨ name = "custom") →
        textsMember name ((stripped ms).map fun m => (m.1, explicit m.1 m.2)) =
          textsMember name ms := by
      intro name known
      rw [textsMember_eq, textsMember_eq, ← member_stripped distinct.1 (namedOnce_singleton _ ms)]
      refine member_map explicit fun name' known' d mem => ?_
      obtain rfl := List.mem_singleton.1 known'
      cases d with
      | object es =>
        have other : name' ≠ "client" := by
          rintro rfl
          exact absurd known (by decide)
        have same : explicit name' (.object es) = .object (withoutNull es) := by
          rw [explicit, if_neg other, if_pos known]
        have twice : field (.object (withoutNull es)) = field (.object es) :=
          congrArg Document.object (withoutNull_withoutNull es)
        rw [same]
        exact congrArg (texts [name']) twice
      | _ => rfl
    simp only [clientWithoutNulls, clientContext, client, texts "env" (.inl rfl),
      texts "custom" (.inr rfl)]
  | _ => rfl

theorem identity_withoutNulls {d : Document} (distinct : d.Distinct)
    (once : ∀ ms, d = .object ms → NamedOnce idNames ms ∧ NamedOnce poolNames ms) :
    identity (identityWithoutNulls d) = identity d := by
  cases d with
  | object ms =>
    have same : ∀ {names}, NamedOnce names ms →
        textMember [] names (stripped ms) = textMember [] names ms := fun once => by
      rw [textMember_eq, textMember_eq, member_stripped distinct.1 once]
    have id := same (once ms rfl).1
    have pool := same (once ms rfl).2
    rw [idNames] at id
    rw [poolNames] at pool
    simp only [identityWithoutNulls, identity, id, pool]
  | _ => rfl

/-! ## Headers -/

/-- The header states the document; it is absent if that is `null`. -/
def Spells (t : Text) (d : Document) : Prop :=
  (d = .null ∧ t = []) ∨ (d ≠ .null ∧ Json.read rules t = .ok d)

/-- How it ends to read two headers of which one is taken just if the other one is: both are taken,
    as what is meant, if the shape is right; otherwise both are refused as malformed. -/
inductive Alike (Shape : Prop) (Means : α → Prop) : Except Thrown α → Except Thrown α → Prop
  | taken {a : α} : Shape → Means a → Alike Shape Means (.ok a) (.ok a)
  | refused {message message' : Text} : ¬ Shape →
    Alike Shape Means (.error (.malformedInvoke message)) (.error (.malformedInvoke message'))

theorem Alike.eq_ok {Shape : Prop} {Means : α → Prop} {a : α} {outcome : Except Thrown α}
    (alike : Alike Shape Means (.ok a) outcome) : outcome = .ok a := by
  cases alike with
  | taken => rfl

section Parse

variable {remark : Text} {absent : α} {read : Document → Outcome α} {t t' : Text}
  {d d' : Document} {Shape : Prop} {Means : α → Prop}

theorem parse_eq (stated : Json.read rules t = .ok d) :
    parse remark absent read t = match read d with
      | ([], value) => .ok value
      | (faults, _) => .error (.malformedInvoke (remark ++ message faults)) := by
  obtain ⟨c, u, rfl⟩ := Json.exists_cons_of_read stated
  rw [parse, stated]
  rfl

theorem parse_of_spells (null : read .null = ([], absent)) (spells : Spells t d) :
    parse remark absent read t = match read d with
      | ([], value) => .ok value
      | (faults, _) => .error (.malformedInvoke (remark ++ message faults)) := by
  obtain ⟨rfl, rfl⟩ | ⟨-, stated⟩ := spells
  · rw [null]
    rfl
  · exact parse_eq stated

theorem alike_parse (null : read .null = ([], absent)) (tells : (read d).Tells Shape Means)
    (same : read d' = read d) (stated : Json.read rules t = .ok d) (spells : Spells t' d') :
    Alike Shape Means (parse remark absent read t) (parse remark absent read t') := by
  rw [parse_eq stated, parse_of_spells null spells, same]
  obtain ⟨iff, means⟩ := tells
  split
  · next value eq =>
    rw [eq] at iff means
    exact .taken (iff.1 rfl) (means (iff.1 rfl))
  · next faults value some eq =>
    refine .refused fun shaped => ?_
    rw [eq] at iff
    obtain rfl := iff.2 shaped
    exact some rfl

end Parse

/-- A header is read alike without its `null`s: both headers are taken, as what the known fields of
    the document mean, just if these fields are `null` or have their types, and otherwise both are
    refused. -/
theorem parse_without_nulls (t : Text) (d : Document) (stated : Json.read rules t = .ok d) :
    (∀ t', Spells t' (clientWithoutNulls d) →
      Alike (ClientShaped d) (MeansClient d) (ClientContext.parse t) (ClientContext.parse t')) ∧
    ((∀ ms, d = .object ms → NamedOnce idNames ms ∧ NamedOnce poolNames ms) →
      ∀ t', Spells t' (identityWithoutNulls d) →
        Alike (IdentityShaped d) (MeansIdentity d) (Identity.parse t) (Identity.parse t')) := by
  have distinct := Json.distinct_of_read stated
  refine ⟨fun t' spells => ?_, fun once t' spells => ?_⟩
  · exact alike_parse rfl (tells_clientContext distinct) (clientContext_withoutNulls distinct)
      stated spells
  · exact alike_parse rfl (tells_identity distinct once) (identity_withoutNulls distinct once)
      stated spells

/-- A document in which every kind of field is `null` somewhere. -/
def sparse : Document :=
  .object [("client", .object [("app_title", .text "a"), ("app_version_code", .null)]),
    ("env", .object [("k", .null)]), ("custom", .null), ("cognitoIdentityId", .null),
    ("cognito_identity_pool_id", .text "p"), ("other", .array [.null])]

/-- It without the `null`s a client is read without. -/
def sparseClient : Document :=
  .object [("client", .object [("app_title", .text "a")]), ("env", .object [("k", .text [])]),
    ("cognito_identity_pool_id", .text "p"), ("other", .array [.null])]

/-- It without the `null`s an identity is read without. -/
def sparseIdentity : Document :=
  .object [("client", .object [("app_title", .text "a"), ("app_version_code", .null)]),
    ("env", .object [("k", .null)]), ("cognito_identity_pool_id", .text "p"),
    ("other", .array [.null])]

theorem read_sparse :
    ∀ d ∈ [sparse, sparseClient, sparseIdentity], Json.read rules (d.render .wire) = .ok d := by
  intro d mem
  obtain ⟨made, distinct, floatless⟩ : d.MadeOf (fun _ => True) (fun _ => False) 3 ∧ d.Distinct ∧
      d.FloatsIn (fun _ => False) := by
    simp only [List.mem_cons, List.not_mem_nil, or_false] at mem
    obtain rfl | rfl | rfl := mem <;>
    · simp only [sparse, sparseClient, sparseIdentity, Document.MadeOf, Document.MembersMadeOf,
        Document.ItemsMadeOf, Document.Distinct, Document.MembersDistinct, Document.ItemsDistinct,
        Document.FloatsIn, Document.MembersFloatsIn, Document.ItemsFloatsIn]
      decide
  obtain ⟨number, legible⟩ := JsonStyle.legible_wire rules
  have made : d.MadeOf (fun _ => True) Json.Short rules.depth :=
    made.mono (fun _ => id) (fun _ => False.elim) _ (by decide)
  exact Json.read_render_self legible (fun _ => False.elim) made distinct floatless

/-- It is read with the `null`s and without them, and what else is in it is found. -/
theorem parse_without_nulls_sparse : ∃ t t' t'' : Text, Json.read rules t = .ok sparse ∧
    Spells t' (clientWithoutNulls sparse) ∧ Spells t'' (identityWithoutNulls sparse) ∧
    (∀ ms, sparse = .object ms → NamedOnce idNames ms ∧ NamedOnce poolNames ms) ∧
    ClientContext.parse t = .ok ⟨⟨[], "a", [], []⟩, [("k", [])], []⟩ ∧
    ClientContext.parse t' = .ok ⟨⟨[], "a", [], []⟩, [("k", [])], []⟩ ∧
    Identity.parse t = .ok ⟨[], "p"⟩ ∧ Identity.parse t'' = .ok ⟨[], "p"⟩ := by
  have stated := read_sparse sparse (by simp)
  have spells : Spells (sparseClient.render .wire) (clientWithoutNulls sparse) := by
    have bare : clientWithoutNulls sparse = sparseClient := rfl
    rw [bare]
    exact .inr ⟨Document.noConfusion, read_sparse _ (by simp)⟩
  have spells' : Spells (sparseIdentity.render .wire) (identityWithoutNulls sparse) := by
    have bare : identityWithoutNulls sparse = sparseIdentity := rfl
    rw [bare]
    exact .inr ⟨Document.noConfusion, read_sparse _ (by simp)⟩
  have once : ∀ ms, sparse = .object ms → NamedOnce idNames ms ∧ NamedOnce poolNames ms := by
    rintro _ ⟨⟩
    constructor <;> · unfold NamedOnce; decide
  obtain ⟨client, identity⟩ := parse_without_nulls _ _ stated
  have client := client _ spells
  have identity := identity once _ spells'
  have client_eq : ClientContext.parse (sparse.render .wire) =
      .ok ⟨⟨[], "a", [], []⟩, [("k", [])], []⟩ := by
    rw [ClientContext.parse, parse_eq stated]
    rfl
  have identity_eq : Identity.parse (sparse.render .wire) = .ok ⟨[], "p"⟩ := by
    rw [Identity.parse, parse_eq stated]
    rfl
  rw [client_eq] at client
  rw [identity_eq] at identity
  exact ⟨_, _, _, stated, spells, spells', once, client_eq, client.eq_ok, identity_eq,
    identity.eq_ok⟩

end HeaderDocument

end InvokeWorker
