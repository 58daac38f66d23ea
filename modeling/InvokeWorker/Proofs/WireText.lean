import InvokeWorker.Proofs.DocumentText
import InvokeWorker.Report.Wire

/-!
# What is written on the wire

Reports may hold anything, lone surrogates included, but a text with a surrogate in it has no place
on the wire, and octets stand for no such text either (`scalar_of_decode?`). So there is no
surrogate in any text of a document that is made of a value, whose integers are those of the value
and which is nested only so deeply (`clean_wire`); nor is there one in the text the document is
written as. The report that takes the place of one that cannot be sent is kept to ASCII.

So what is sent for a report, whatever is in it, is UTF-8, and it stands for the text that is logged
(`Report.text?_payload`).
-/

namespace InvokeWorker

open Text

/-! ## Integers of values -/

mutual

/-- The integers a value has on the wire. Those among the keys of mappings are texts there. -/
def Value.integers : Value → List Int
  | .int n => [n]
  | .list vs => Value.itemIntegers vs
  | .tuple vs => Value.itemIntegers vs
  | .set vs => Value.itemIntegers vs
  | .frozenSet vs => Value.itemIntegers vs
  | .mapping es => Value.entryIntegers es
  | .generator p => p.integers
  | .typed body mediaType => body.integers ++ mediaType.integers
  | .custom o => o.integers
  | _ => []
termination_by structural v => v

/-- The integers of the values of a list. -/
def Value.itemIntegers : List Value → List Int
  | [] => []
  | v :: vs => v.integers ++ Value.itemIntegers vs
termination_by structural vs => vs

/-- The integers of the values of a mapping. -/
def Value.entryIntegers : List (Value × Value) → List Int
  | [] => []
  | (_, v) :: es => v.integers ++ Value.entryIntegers es
termination_by structural es => es

/-- The integers of the items of an iteration. -/
def Pieces.integers : Pieces → List Int
  | ⟨items, _⟩ => Value.itemIntegers items
termination_by structural p => p

/-- The integers of what an object is derived from. -/
def Custom.integers : Custom → List Int
  | ⟨_, core, _⟩ => core.integers
termination_by structural o => o

end

/-- The integers of an item of a stack trace. -/
def Frame.integers : Frame → List Int
  | .site path line label => path.integers ++ (line.integers ++ label.integers)
  | .other v => v.integers
  | .pathed _ v => v.integers

/-- The integers of a report. -/
def Report.integers (r : Report) : List Int :=
  r.errorType.integers ++ (r.message.integers ++ r.frames.flatMap Frame.integers)

variable {t : Text}

/-! ## Values on the wire -/

section Steps

variable {α β : Type} {r : Except WireFault α}

/-- What is made in two steps is made in the second one from what the first one has made. -/
theorem exists_of_bind_eq_ok {f : α → Except WireFault β} {b : β} (made : (r >>= f) = .ok b) :
    ∃ a, r = .ok a ∧ f a = .ok b := by
  cases r with
  | ok a => exact ⟨a, rfl, made⟩
  | error fault => cases made

theorem exists_of_map_eq_ok {f : α → β} {b : β} (made : r.map f = .ok b) :
    ∃ a, r = .ok a ∧ f a = b := by
  cases r with
  | ok a => exact ⟨a, rfl, Except.ok.inj made⟩
  | error fault => cases made

end Steps

namespace Wire

variable {u : Text}

theorem scalar_text (made : text t = .ok u) : u.Scalar := by
  rw [text] at made
  split at made
  · cases made
  · next well =>
    cases made
    exact scalar_iff.2 (Utf8.unencodable?_eq_none_iff.1 well)

theorem scalar_octets {b : Bytes} (made : octets b = .ok u) : u.Scalar := by
  rw [octets] at made
  split at made
  · next decoded =>
    cases made
    exact scalar_iff.2 (Utf8.scalar_of_decode? decoded)
  · cases made

theorem scalar_instant (t : Instant) : (instant t).Scalar := by
  have numbers : ∀ width n, (decimal width n).Scalar :=
    fun width n => (visible_decimal width n).scalar
  have stamp : (t.stamp 84).Scalar := by
    simp only [Scalar, Instant.stamp, only_append, only_cons, numbers, and_true, true_and]
    decide
  simp only [Scalar, instant, only_append]
  refine ⟨⟨stamp, ?_⟩, scalar_iff.2 rfl⟩
  split
  · exact only_nil
  · exact only_append.2 ⟨only_cons.2 ⟨rfl, numbers _ _⟩, scalar_iff.2 rfl⟩

end Wire

/-- A text on the wire, if it is made, has no surrogate in it. -/
def Wire.Sheds (r : Except WireFault Text) : Prop :=
  ∀ t, r = .ok t → t.Scalar

theorem sheds_ok (scalar : t.Scalar) : Wire.Sheds (.ok t) := by
  rintro _ ⟨⟩
  exact scalar

theorem sheds_float (d : Double) : Wire.Sheds (.ok (d.toText .plainExponent "NaN" "inf")) := by
  have plus : Layout.plainExponent.plus.Visible := visible_iff.2 rfl
  exact sheds_ok (Double.visible_toText plus (visible_iff.2 rfl) (visible_iff.2 rfl) d).scalar

theorem sheds_join {r : Except WireFault (List Text)}
    (keys : ∀ ts, r = .ok ts → ∀ t ∈ ts, t.Scalar) : Wire.Sheds (r.map (join ",")) := by
  intro t made
  obtain ⟨ts, keyed, rfl⟩ := exists_of_map_eq_ok made
  exact only_join (scalar_iff.2 rfl) (keys ts keyed)

mutual

theorem sheds_wireKey : (v : Value) → Wire.Sheds v.wireKey
  | .null => sheds_ok (scalar_iff.2 rfl)
  | .bool b => sheds_ok (scalar_iff.2 (by cases b <;> rfl))
  | .int n => sheds_ok (visible_ofInt n).scalar
  | .float d => sheds_float d
  | .text _ => fun _ => Wire.scalar_text
  | .bytes _ => fun _ => Wire.scalar_octets
  | .byteArray _ => fun _ => Wire.scalar_octets
  | .instant t => sheds_ok (Wire.scalar_instant t)
  | .tuple vs => sheds_join (sheds_wireKeys vs)
  | .custom ⟨_, core, _⟩ => match core with
    | .text _ => fun _ => Wire.scalar_text
    | .int n => sheds_ok (visible_ofInt n).scalar
    | .float d => sheds_float d
    | .bytes _ => fun _ => Wire.scalar_octets
    | .tuple vs => sheds_join (sheds_wireKeys vs)
    | .null => nofun
    | .bool _ => nofun
    | .byteArray _ => nofun
    | .instant _ => nofun
    | .list _ => nofun
    | .set _ => nofun
    | .frozenSet _ => nofun
    | .mapping _ => nofun
    | .memoryView _ => nofun
    | .releasedView => nofun
    | .stream _ => nofun
    | .generator _ => nofun
    | .typed _ _ => nofun
    | .bare => nofun
    | .selfList => nofun
    | .selfMapping => nofun
    | .error _ => nofun
    | .custom _ => nofun
  -- The others make no keys.
  | .list _ => nofun
  | .set _ => nofun
  | .frozenSet _ => nofun
  | .mapping _ => nofun
  | .memoryView _ => nofun
  | .releasedView => nofun
  | .stream _ => nofun
  | .generator _ => nofun
  | .typed _ _ => nofun
  | .bare => nofun
  | .selfList => nofun
  | .selfMapping => nofun
  | .error _ => nofun
termination_by structural v => v

theorem sheds_wireKeys : (vs : List Value) → ∀ ts, Value.wireKeys vs = .ok ts → ∀ t ∈ ts, t.Scalar
  | [] => by
    rintro _ ⟨⟩
    nofun
  | v :: vs => fun ts made => by
    rw [Value.wireKeys] at made
    split at made
    · cases made
    · next key made_key =>
      obtain ⟨rest, keys, rfl⟩ := exists_of_map_eq_ok made
      exact List.forall_mem_cons.2 ⟨sheds_wireKey v key made_key, sheds_wireKeys vs rest keys⟩
termination_by structural vs => vs

end

namespace Wire

variable {Q : Int → Prop} {depth : Nat}

/-- The texts of a document on the wire, if it is made, have no surrogate in them, the integers are
    such, and arrays and objects are nested at most `depth` deep. -/
def Clean (Q : Int → Prop) (depth : Nat) (r : Except WireFault Document) : Prop :=
  ∀ d, r = .ok d → d.MadeOf Scalar Q depth

/-- So it is with the documents of items. -/
def AllClean (Q : Int → Prop) (depth : Nat) (r : Except WireFault (List Document)) : Prop :=
  ∀ ds, r = .ok ds → Document.ItemsMadeOf Scalar Q depth ds

/-- So it is with the names and documents of members. -/
def MembersClean (Q : Int → Prop) (depth : Nat)
    (r : Except WireFault (List (Text × Document))) : Prop :=
  ∀ ms, r = .ok ms → Document.MembersMadeOf Scalar Q depth ms

theorem clean_ok {d : Document} (such : d.MadeOf Scalar Q depth) : Clean Q depth (.ok d) := by
  rintro _ ⟨⟩
  exact such

theorem Sheds.text {r : Except WireFault Text} (h : Sheds r) : Clean Q depth (r.map .text) := by
  intro d made
  obtain ⟨t, text, rfl⟩ := exists_of_map_eq_ok made
  exact h t text

theorem AllClean.array {r : Except WireFault (List Document)} (h : AllClean Q depth r) :
    Clean Q (depth + 1) (r.map .array) := by
  intro d made
  obtain ⟨ds, items, rfl⟩ := exists_of_map_eq_ok made
  exact h ds items

theorem MembersClean.object {r : Except WireFault (List (Text × Document))}
    (h : MembersClean Q depth r) : Clean Q (depth + 1) (r.map .object) := by
  intro d made
  obtain ⟨ms, members, rfl⟩ := exists_of_map_eq_ok made
  exact h ms members

end Wire

variable {Q : Int → Prop}

mutual

/-- A value has one level more than may be nested within it. -/
theorem clean_wire [Interpreter] (depth : Nat) : (v : Value) → (∀ n ∈ v.integers, Q n) →
    Wire.Clean Q (depth + 1) (v.wire depth)
  | .null, _ => Wire.clean_ok trivial
  | .bool _, _ => Wire.clean_ok trivial
  | .int n, such => Wire.clean_ok (such n List.mem_cons_self)
  | .float _, _ => Wire.clean_ok trivial
  | .text _, _ => Wire.Sheds.text fun _ => Wire.scalar_text
  | .bytes _, _ => Wire.Sheds.text fun _ => Wire.scalar_octets
  | .byteArray _, _ => Wire.Sheds.text fun _ => Wire.scalar_octets
  | .instant t, _ => Wire.clean_ok (Wire.scalar_instant t)
  | .list vs, such => (clean_wireItems depth vs such).array
  | .tuple vs, such => (clean_wireItems depth vs such).array
  | .set vs, such => (clean_wireItems depth vs such).array
  | .frozenSet vs, such => (clean_wireItems depth vs such).array
  | .mapping es, such => (clean_wireMembers depth es such).object
  | .generator p, such => clean_wire_pieces depth p such
  | .typed body mediaType, such => fun d made => by
    rw [Value.integers, List.forall_mem_append] at such
    rw [Value.wire.eq_def] at made
    dsimp only at made
    split at made
    · cases made
    · next depth =>
      split at made
      · cases made
      · next b body_made =>
        obtain ⟨m, type, rfl⟩ := exists_of_map_eq_ok made
        exact ⟨scalar_iff.2 rfl, clean_wire depth body such.1 b body_made, scalar_iff.2 rfl,
          clean_wire depth mediaType such.2 m type, trivial⟩
  | .custom o, such => clean_wire_custom depth o such
  -- The others have no place on the wire.
  | .selfList, _ => nofun
  | .selfMapping, _ => nofun
  | .memoryView _, _ => nofun
  | .releasedView, _ => nofun
  | .stream _, _ => nofun
  | .bare, _ => nofun
  | .error _, _ => nofun
termination_by structural v => v

theorem clean_wireItems [Interpreter] (depth : Nat) : (vs : List Value) →
    (∀ n ∈ Value.itemIntegers vs, Q n) → Wire.AllClean Q depth (Value.wireItems depth vs)
  | [], _ => by
    rintro _ ⟨⟩
    trivial
  | v :: vs, such => fun ds made => by
    rw [Value.itemIntegers, List.forall_mem_append] at such
    rw [Value.wireItems.eq_def] at made
    dsimp only at made
    split at made
    · cases made
    · next depth =>
      split at made
      · cases made
      · next d first =>
        obtain ⟨rest, others, rfl⟩ := exists_of_map_eq_ok made
        exact ⟨clean_wire depth v such.1 d first,
          clean_wireItems (depth + 1) vs such.2 rest others⟩
termination_by structural vs => vs

theorem clean_wireMembers [Interpreter] (depth : Nat) : (es : List (Value × Value)) →
    (∀ n ∈ Value.entryIntegers es, Q n) → Wire.MembersClean Q depth (Value.wireMembers depth es)
  | [], _ => by
    rintro _ ⟨⟩
    trivial
  | (k, v) :: es, such => fun ms made => by
    rw [Value.entryIntegers, List.forall_mem_append] at such
    rw [Value.wireMembers.eq_def] at made
    dsimp only at made
    split at made
    · cases made
    · next name key =>
      split at made
      · cases made
      · next depth =>
        split at made
        · cases made
        · next d first =>
          obtain ⟨rest, others, rfl⟩ := exists_of_map_eq_ok made
          exact ⟨sheds_wireKey k name key, clean_wire depth v such.1 d first,
            clean_wireMembers (depth + 1) es such.2 rest others⟩
termination_by structural es => es

/-- The items are written as they come; an error behind them takes the place of the document. -/
theorem clean_wire_pieces [Interpreter] (depth : Nat) : (p : Pieces) → (∀ n ∈ p.integers, Q n) →
    Wire.Clean Q (depth + 1) (p.wire depth)
  | ⟨items, _⟩, such => fun d made => by
    rw [Pieces.wire.eq_def] at made
    dsimp only at made
    split at made
    · cases made
    · next ds written =>
      split at made
      · cases made
      · cases made
        exact clean_wireItems depth items such ds written
termination_by structural p => p

theorem clean_wire_custom [Interpreter] (depth : Nat) : (o : Custom) → (∀ n ∈ o.integers, Q n) →
    Wire.Clean Q (depth + 1) (o.wire depth)
  | ⟨_, core, _⟩, such => by
    rw [Custom.wire.eq_def]
    dsimp only
    split
    · exact nofun
    · exact nofun
    · exact clean_wire depth core such
termination_by structural o => o

end

/-! ## Reports -/

namespace Frame

variable [Interpreter]

theorem clean_item (v : Value) (such : ∀ n ∈ v.integers, Q n) :
    Wire.Clean Q (Wire.nestingLimit + 2) (v.wire Wire.nestingLimit) := by
  intro d made
  have clean := InvokeWorker.clean_wire Wire.nestingLimit v such d made
  exact clean.mono (fun _ => id) (fun _ => id) d (Nat.le_succ _)

theorem clean_wire (f : Frame) (such : ∀ n ∈ f.integers, Q n) :
    Wire.Clean Q (Wire.nestingLimit + 2) f.wire := by
  cases f with
  | other v => exact clean_item v such
  | pathed _ v => exact clean_item v such
  | site path line label =>
    intro d made
    rw [integers, List.forall_mem_append, List.forall_mem_append] at such
    rw [wire] at made
    obtain ⟨p, at_path, made⟩ := exists_of_bind_eq_ok made
    obtain ⟨l, at_line, made⟩ := exists_of_bind_eq_ok made
    obtain ⟨b, at_label, made⟩ := exists_of_bind_eq_ok made
    cases made
    exact ⟨scalar_iff.2 rfl, InvokeWorker.clean_wire _ path such.1 p at_path,
      scalar_iff.2 rfl, InvokeWorker.clean_wire _ line such.2.1 l at_line,
      scalar_iff.2 rfl, InvokeWorker.clean_wire _ label such.2.2 b at_label, trivial⟩

theorem allClean_wiresOnto {made : List Document}
    (before : ∀ d ∈ made, d.MadeOf Scalar Q (Wire.nestingLimit + 2)) (fs : List Frame)
    (such : ∀ f ∈ fs, ∀ n ∈ f.integers, Q n) :
    Wire.AllClean Q (Wire.nestingLimit + 2) (wiresOnto made fs) := by
  induction fs generalizing made with
  | nil =>
    rintro _ ⟨⟩
    exact Document.itemsMadeOf_iff.2 fun d mem => before d (List.mem_reverse.1 mem)
  | cons f fs ih =>
    rw [List.forall_mem_cons] at such
    rw [wiresOnto]
    split
    · exact nofun
    · next d first =>
      exact ih (List.forall_mem_cons.2 ⟨f.clean_wire such.1 d first, before⟩) such.2

end Frame

namespace Report

variable [Interpreter]

/-- How deeply arrays and objects are nested in what is sent for a report: there are three levels
    around the values of a frame. -/
def wireLevels : Nat := Wire.nestingLimit + 4

theorem clean_document? (r : Report) (such : ∀ n ∈ r.integers, Q n) :
    Wire.Clean Q wireLevels r.document? := by
  intro d made
  rw [integers, List.forall_mem_append, List.forall_mem_append] at such
  obtain ⟨in_type, in_message, in_stack⟩ := such
  rw [document?] at made
  obtain ⟨t, type, made⟩ := exists_of_bind_eq_ok made
  obtain ⟨m, message, made⟩ := exists_of_bind_eq_ok made
  obtain ⟨ds, stack, made⟩ := exists_of_bind_eq_ok made
  cases made
  have field : ∀ {d : Document}, d.MadeOf Scalar Q (Wire.nestingLimit + 1) →
      d.MadeOf Scalar Q (Wire.nestingLimit + 3) := fun {d} clean =>
    clean.mono (fun _ => id) (fun _ => id) d (Nat.le_add_right _ 2)
  have stack_clean := Frame.allClean_wiresOnto (by simp) r.frames
    (fun f mem n mem_f => in_stack n (List.mem_flatMap.2 ⟨f, mem, mem_f⟩)) ds stack
  exact ⟨scalar_iff.2 rfl, field (clean_wire _ r.errorType in_type t type),
    scalar_iff.2 rfl, field (clean_wire _ r.message in_message m message),
    scalar_iff.2 rfl, stack_clean, trivial⟩

/-- There is neither a surrogate nor a control character in what is sent for a report. -/
theorem shown_payloadText (r : Report) : r.payloadText.Shown := by
  rw [payloadText]
  split
  · next d made =>
    exact Document.only_render JsonStyle.spares_wire
      (r.clean_document? (Q := fun _ => True) (fun _ _ => trivial) d made)
  · next fault _ =>
    have made : (fallback fault).MadeOf (fun _ => True) (fun _ => True) 2 :=
      ⟨trivial, trivial, trivial, trivial, trivial, trivial, trivial⟩
    exact Visible.shown (Document.only_render JsonStyle.spares_spaced made)

/-- The bytes that are sent for a report are UTF-8, and stand for its text. -/
theorem text?_payload (r : Report) : Utf8.text? r.payload = some r.payloadText :=
  Utf8.text?_encodeLax (scalar_iff.1 r.shown_payloadText.scalar)

end Report

end InvokeWorker
