import InvokeWorker.Proofs.PayloadText
import InvokeWorker.Response.Encoding

/-!
# Results that are events again

A result that is plain data (`Value.IsData`) is encoded as ASCII, and the event this stands for as a
payload is the result itself (`Response.decode_encode`). Two such results are never encoded alike.
The one thing a text must not have in it is a pair of surrogates: the escapes of a high surrogate
and of a low one behind it are those of one code point.
-/

namespace InvokeWorker

/-! ## Data -/

mutual

/-- Null, truth values, integers and texts, and lists and mappings of such values that are nested at
    most `levels` deep. Integers are short enough to be written, no text has a pair of surrogates
    in it, and the keys of a mapping are texts that differ. -/
def Value.IsData (levels : Nat) : Value → Prop
  | .null => True
  | .bool _ => True
  | .int n => Json.Short n
  | .text t => t.Unpaired
  | .list vs => match levels with
    | 0 => False
    | levels + 1 => Value.AllData levels vs
  | .mapping es => match levels with
    | 0 => False
    | levels + 1 => (es.map Prod.fst).Nodup ∧ Value.EntriesData levels es
  | _ => False
termination_by structural v => v

/-- All values of a list are such. -/
def Value.AllData (levels : Nat) : List Value → Prop
  | [] => True
  | v :: vs => v.IsData levels ∧ Value.AllData levels vs
termination_by structural vs => vs

/-- All keys and values of a mapping are such. -/
def Value.EntriesData (levels : Nat) : List (Value × Value) → Prop
  | [] => True
  | (k, v) :: es => (∃ t : Text, k = .text t ∧ t.Unpaired) ∧ v.IsData levels ∧
    Value.EntriesData levels es
termination_by structural es => es

end

/-! ## Documents of data -/

/-- A document says just what the value is. -/
structure Value.Says (levels : Nat) (v : Value) (d : Document) : Prop where
  document : ∀ depth, levels ≤ depth → v.document? Value.refuse depth = .ok d
  value : d.toValue = v
  made : d.MadeOf (fun _ => True) Json.Short levels
  echo : ∀ number, d.echo number Text.joined = d

/-- So do the items of an array of the values of a list. -/
structure Value.AllSay (levels : Nat) (vs : List Value) (ds : List Document) : Prop where
  documents : ∀ depth, levels ≤ depth → ∀ made,
    Value.documents? Value.refuse depth made vs = .ok (made.reverse ++ ds)
  values : ∀ made, Document.itemValues made ds = made.reverse ++ vs
  made : Document.ItemsMadeOf (fun _ => True) Json.Short levels ds
  echo : ∀ number, Document.echoItems number Text.joined ds = ds

/-- So do the members of an object of the entries of a mapping. -/
structure Value.EntriesSay (levels : Nat) (es : List (Value × Value))
    (ms : List (Text × Document)) : Prop where
  members : ∀ depth, levels ≤ depth → ∀ made,
    Value.members? Value.refuse depth made es = .ok (made.reverse ++ ms)
  entries : ∀ made, Document.memberValues made ms = made.reverse ++ es
  keys : es.map Prod.fst = ms.map fun m => .text m.1
  made : Document.MembersMadeOf (fun _ => True) Json.Short levels ms
  echo : ∀ number, Document.echoMembers number Text.joined ms = ms

namespace Value

variable {levels : Nat}

/-- Different keys are members of different names. -/
theorem EntriesSay.distinct {es : List (Value × Value)} {ms : List (Text × Document)}
    (say : EntriesSay levels es ms) (distinct : (es.map Prod.fst).Nodup) :
    (ms.map Prod.fst).Nodup := by
  have names : ms.map (fun m => Value.text m.1) = (ms.map Prod.fst).map Value.text := by
    rw [List.map_map]
    rfl
  rw [say.keys, names] at distinct
  exact distinct.of_map _

theorem document?_int {n : Int} (short : Json.Short n) (depth : Nat) :
    (Value.int n).document? refuse depth = .ok (.int n) := by
  rw [document?]
  exact if_pos short

theorem document?_list {vs : List Value} {ds : List Document} {depth : Nat}
    (say : documents? refuse depth [] vs = .ok ds) :
    (Value.list vs).document? refuse (depth + 1) = .ok (.array ds) :=
  congrArg (Except.map Document.array) say

theorem document?_mapping {es : List (Value × Value)} {ms : List (Text × Document)} {depth : Nat}
    (say : members? refuse depth [] es = .ok ms) :
    (Value.mapping es).document? refuse (depth + 1) = .ok (.object ms) :=
  congrArg (Except.map Document.object) say

theorem members?_cons {v : Value} {d : Document} {depth : Nat}
    (say : v.document? refuse depth = .ok d) (made : List (Text × Document)) (t : Text)
    (es : List (Value × Value)) :
    members? refuse depth made ((.text t, v) :: es) =
      members? refuse depth ((t, d) :: made) es := by
  rw [members?.eq_def]
  dsimp only
  rw [say]
  rfl

mutual

theorem exists_said : (v : Value) → {levels : Nat} → v.IsData levels → ∃ d, v.Says levels d
  | .null, _, _ => ⟨.null, fun _ _ => rfl, rfl, trivial, fun _ => rfl⟩
  | .bool b, _, _ => ⟨.bool b, fun _ _ => rfl, rfl, trivial, fun _ => rfl⟩
  | .int n, _, short =>
    ⟨.int n, fun _ _ => document?_int short _, rfl, short, fun _ => rfl⟩
  | .text t, _, unpaired =>
    ⟨.text t, fun _ _ => rfl, rfl, trivial, fun _ => congrArg _ (Text.joined_eq unpaired)⟩
  | .list vs, levels + 1, data => by
    obtain ⟨ds, say⟩ := exists_allSay vs data
    refine ⟨.array ds, fun depth enough => ?_, ?_, say.made, fun number => ?_⟩
    · obtain ⟨depth, rfl⟩ := Nat.exists_eq_add_of_le' enough
      exact document?_list (say.documents (depth + levels) (Nat.le_add_left levels depth) [])
    · rw [Document.toValue, say.values]
      rfl
    · rw [Document.echo, say.echo]
  | .mapping es, levels + 1, data => by
    obtain ⟨ms, say⟩ := exists_entriesSay es data.2
    refine ⟨.object ms, fun depth enough => ?_, ?_, say.made, fun number => ?_⟩
    · obtain ⟨depth, rfl⟩ := Nat.exists_eq_add_of_le' enough
      exact document?_mapping (say.members (depth + levels) (Nat.le_add_left levels depth) [])
    · rw [Document.toValue, say.entries]
      rfl
    · rw [Document.echo, say.echo, Document.mergeMembers_of_nodup (say.distinct data.1)]
termination_by structural v => v

theorem exists_allSay : (vs : List Value) → {levels : Nat} → AllData levels vs →
    ∃ ds, AllSay levels vs ds
  | [], _, _ => ⟨[], fun _ _ made => by rw [documents?, List.append_nil],
      fun made => by rw [Document.itemValues, List.append_nil], trivial, fun _ => rfl⟩
  | v :: vs, levels, data => by
    obtain ⟨d, say⟩ := exists_said v data.1
    obtain ⟨ds, all⟩ := exists_allSay vs data.2
    refine ⟨d :: ds, fun depth enough made => ?_, fun made => ?_, ⟨say.made, all.made⟩,
      fun number => ?_⟩
    · rw [documents?, say.document depth enough]
      dsimp only
      rw [all.documents depth enough, List.reverse_cons, List.append_assoc, List.singleton_append]
    · rw [Document.itemValues, all.values, say.value, List.reverse_cons, List.append_assoc,
        List.singleton_append]
    · rw [Document.echoItems, say.echo, all.echo]
termination_by structural vs => vs

theorem exists_entriesSay : (es : List (Value × Value)) → {levels : Nat} →
    EntriesData levels es → ∃ ms, EntriesSay levels es ms
  | [], _, _ => ⟨[], fun _ _ made => by rw [members?, List.append_nil],
      fun made => by rw [Document.memberValues, List.append_nil], rfl, trivial, fun _ => rfl⟩
  | (k, v) :: es, levels, data => by
    obtain ⟨⟨t, rfl, unpaired⟩, data, rest⟩ := data
    obtain ⟨d, say⟩ := exists_said v data
    obtain ⟨ms, all⟩ := exists_entriesSay es rest
    refine ⟨(t, d) :: ms, fun depth enough made => ?_, fun made => ?_, ?_,
      ⟨trivial, say.made, all.made⟩, fun number => ?_⟩
    · rw [members?_cons (say.document depth enough), all.members depth enough, List.reverse_cons,
        List.append_assoc, List.singleton_append]
    · rw [Document.memberValues, all.entries, say.value, List.reverse_cons, List.append_assoc,
        List.singleton_append]
    · rw [List.map_cons, List.map_cons, all.keys]
    · rw [Document.echoMembers, say.echo, all.echo, Text.joined_eq unpaired]
termination_by structural es => es

end

/-- Data has to be encoded, and is without a type of its own. -/
theorem IsData.encoded : (v : Value) → v.IsData levels →
    v.passesThrough = false ∧ v.declaresContentType = false
  | .null, _ => ⟨rfl, rfl⟩
  | .bool _, _ => ⟨rfl, rfl⟩
  | .int _, _ => ⟨rfl, rfl⟩
  | .text _, _ => ⟨rfl, rfl⟩
  | .list _, _ => ⟨rfl, rfl⟩
  | .mapping _, _ => ⟨rfl, rfl⟩

end Value

namespace Response

variable {levels : Nat} {v : Value} {d : Document}

/-- The result is not sent as it is but as the JSON of its document. -/
theorem encode_of_document [Interpreter] (document : v.document? Value.refuse nestingLimit = .ok d)
    (made : d.MadeOf (fun _ => True) Json.Short levels) (no_body : v.passesThrough = false)
    (untyped : v.declaresContentType = false) (w : Worker) :
    encode v w = .ok (.bytes (Utf8.encodeLax (d.render .compact))) w := by
  have visible : (d.render .compact).Visible := Document.only_render JsonStyle.spares_compact made
  have json : jsonOf v = .ok (Utf8.encodeLax (d.render .compact)) := by
    rw [jsonOf, document, Utf8.encodeLax_of_visible visible]
  rw [encode, no_body, json, untyped]
  rfl

/-- What is encoded is some ASCII, and decoded but for pairs of surrogates. -/
theorem exists_decode [Interpreter]
    (made : d.MadeOf (fun _ => True) Json.Short Payload.nestingLimit) :
    ∃ number, Utf8.encodeLax (d.render .compact) ≠ [] ∧
      (∀ o ∈ Utf8.encodeLax (d.render .compact), o < 0x80) ∧
      Payload.decode (Utf8.encodeLax (d.render .compact)) = .ok (d.echo number Text.joined) := by
  obtain ⟨number, legible⟩ :=
    JsonStyle.legible_compact (show Payload.rules.loneSurrogates = true from rfl)
  have visible : (d.render .compact).Visible := Document.only_render JsonStyle.spares_compact made
  obtain ⟨c, t, first⟩ := Json.exists_cons_of_read (Json.read_render legible made)
  refine ⟨number, ?_, ?_, Payload.decode_render legible made visible.shown fun c mem =>
    visible c (List.mem_of_mem_head? mem)⟩
  · rw [Utf8.encodeLax_of_visible visible, first]
    exact List.cons_ne_nil _ _
  · rw [Utf8.encodeLax_of_visible visible]
    exact Bytes.lt_of_mem_ofAscii visible

theorem encode_of_said [Interpreter] (data : v.IsData levels) (say : v.Says levels d)
    (fewer : levels ≤ nestingLimit) (w : Worker) :
    encode v w = .ok (.bytes (Utf8.encodeLax (d.render .compact))) w :=
  encode_of_document (say.document nestingLimit fewer) say.made data.encoded.1 data.encoded.2 w

theorem decode_of_said [Interpreter] (say : v.Says levels d)
    (fewer : levels ≤ Payload.nestingLimit) : Utf8.encodeLax (d.render .compact) ≠ [] ∧
      (∀ o ∈ Utf8.encodeLax (d.render .compact), o < 0x80) ∧
      Payload.decode (Utf8.encodeLax (d.render .compact)) = .ok d := by
  obtain ⟨number, some_octet, ascii, decoded⟩ :=
    exists_decode (Document.MadeOf.mono (fun _ => id) (fun _ => id) d fewer say.made)
  exact ⟨some_octet, ascii, by rw [decoded, say.echo]⟩

/-- Data that is nested less than 500 levels deep is encoded as ASCII, which as a payload stands for
    the data again; and no other such data is encoded as the same. -/
theorem decode_encode [Interpreter] (v : Value) (levels : Nat) (fewer : levels < 500)
    (data : v.IsData levels) (w : Worker) :
    ∃ b event, encode v w = .ok (.bytes b) w ∧ b ≠ [] ∧ (∀ o ∈ b, o < 0x80) ∧
      Payload.decode b = .ok event ∧ event.toValue = v ∧
      ∀ v' levels' w' w'', levels' < 500 → Value.IsData levels' v' →
        encode v' w' = .ok (.bytes b) w'' → v' = v := by
  have limits : ∀ {n}, n < 500 → n ≤ nestingLimit ∧ n ≤ Payload.nestingLimit := fun less =>
    ⟨le_nestingLimit (Nat.le_of_lt less), Payload.le_nestingLimit (Nat.le_of_lt less)⟩
  obtain ⟨d, say⟩ := Value.exists_said v data
  obtain ⟨some_octet, ascii, decoded⟩ := decode_of_said say (limits fewer).2
  refine ⟨_, d, encode_of_said data say (limits fewer).1 w, some_octet, ascii, decoded, say.value,
    fun v' levels' w' w'' fewer' data' encoded => ?_⟩
  obtain ⟨d', say'⟩ := Value.exists_said v' data'
  obtain ⟨-, -, decoded'⟩ := decode_of_said say' (limits fewer').2
  -- The same octets stand for one event only.
  have same := encoded.symm.trans (encode_of_said data' say' (limits fewer').1 w')
  injection same with same
  injection same with same
  rw [← same, decoded] at decoded'
  injection decoded' with same_document
  rw [← say.value, ← say'.value, same_document]

/-- Data with lone surrogates of both kinds, in a text and in a key. -/
def loneSurrogates : Value :=
  .mapping [(.text "a", .list [.int (-7), .text [0xD83D], .null]), (.text [0xDE00], .bool true)]

/-- It is encoded, and decoded again. -/
theorem decode_encode_loneSurrogates :
    Value.IsData 2 loneSurrogates ∧ ∃ b event,
      encode loneSurrogates (.start 0 none) = .ok (.bytes b) (.start 0 none) ∧
      Payload.decode b = .ok event ∧ event.toValue = loneSurrogates := by
  have data : Value.IsData 2 loneSurrogates :=
    ⟨by simp; decide, ⟨_, rfl, by decide⟩,
      ⟨Json.short_of_lt_ten (by decide), .singleton _, trivial, trivial⟩, ⟨_, rfl, by decide⟩,
      trivial, trivial⟩
  obtain ⟨b, event, encoded, -, -, decoded, same, -⟩ :=
    decode_encode loneSurrogates 2 (by decide) data (.start 0 none)
  exact ⟨data, b, event, encoded, decoded, same⟩

/-- Of a text with pairs of surrogates another one comes back, with each pair one code point. -/
theorem decode_encode_text [Interpreter] (t : Text) (w : Worker) :
    ∃ b, encode (.text t) w = .ok (.bytes b) w ∧
    Payload.decode b = .ok (.text t.joined) ∧ (t.joined = t ↔ t.Unpaired) := by
  obtain ⟨number, -, -, decoded⟩ :=
    exists_decode (show (Document.text t).MadeOf (fun _ => True) Json.Short _ from trivial)
  have made : (Document.text t).MadeOf (fun _ => True) Json.Short 0 := trivial
  exact ⟨_, encode_of_document rfl made rfl rfl w, decoded, Text.joined_eq_iff⟩

end Response

end InvokeWorker
