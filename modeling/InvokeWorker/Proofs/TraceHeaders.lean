import InvokeWorker.Trace
import Mathlib.Data.List.DropRight
import Mathlib.Data.List.Nodup
import Mathlib.Logic.Relation

/-!
# What trace headers say

A header is read part by part, and a part says something only if there is an equals sign in it. What
has been read is written as a header that is read as the same again, but for fields without a value,
which are left out. Read and written once more, a header no longer changes. Only a text that is
taken for a bare root must not have a separator in it, since there would be parts in the root.

If no two fields have the same key, then nothing depends on the order of the parts, on white space
around keys and values, and on parts with other keys (`TraceHeader.Edit`). For what is read of a key
are the fields with that key, and these are the same ones after each edit, up to their order
(`TraceHeader.Edit.perm`).

Both are said in `TraceHeader.parse_stable`.
-/

namespace InvokeWorker

/-! ## Parts of a text -/

namespace Text

variable {separator : CodePoint} {a b t u : Text}

theorem splitOn_eq (separator : CodePoint) (t : Text) :
    splitOn separator t = List.splitOn separator t := by
  induction t with
  | nil => rfl
  | cons c t ih =>
    obtain ⟨part, rest, parts⟩ := List.exists_cons_of_ne_nil (List.splitOn_ne_nil separator t)
    rw [parts] at ih
    have step : splitOn separator (c :: t) =
        if c = separator then [] :: part :: rest else (c :: part) :: rest := by
      rw [splitOn] at ih ⊢
      rw [List.foldr_cons, ih]
    rw [step, List.splitOn_cons_eq_if_modifyHead, parts]
    by_cases same : c = separator
    · rw [if_pos same, if_pos (beq_iff_eq.2 same)]
    · rw [if_neg same, if_neg (by simpa using same)]
      rfl

/-- Texts without the separator are the parts of the text they are joined to. -/
theorem splitOn_join {ts : List Text} (whole : ∀ t ∈ ts, separator ∉ t) (some_part : ts ≠ []) :
    splitOn separator (join [separator] ts) = ts := by
  rw [splitOn_eq]
  exact List.splitOn_intercalate separator whole some_part

theorem not_mem_of_mem_splitOn (mem : u ∈ splitOn separator t) : separator ∉ u := by
  rw [splitOn_eq] at mem
  induction t generalizing u with
  | nil =>
    rw [List.splitOn_nil, List.mem_singleton] at mem
    rw [mem]
    exact List.not_mem_nil
  | cons c t ih =>
    obtain ⟨part, rest, parts⟩ := List.exists_cons_of_ne_nil (List.splitOn_ne_nil separator t)
    rw [List.splitOn_cons_eq_if_modifyHead, parts] at mem
    rw [parts] at ih
    split at mem
    · rcases List.mem_cons.1 mem with rfl | mem
      · exact List.not_mem_nil
      · exact ih mem
    · next other =>
      rcases List.mem_cons.1 mem with rfl | mem
      · have not_first : separator ≠ c := fun same => other (beq_iff_eq.2 same.symm)
        exact List.not_mem_cons_of_ne_of_not_mem not_first (ih List.mem_cons_self)
      · exact ih (List.mem_cons_of_mem part mem)

theorem cutFirst?_append (none_before : separator ∉ a) (b : Text) :
    cutFirst? separator (a ++ separator :: b) = some (a, b) := by
  have others : ∀ c ∈ a, decide (c ≠ separator) = true := fun c mem =>
    decide_eq_true fun same => none_before (same ▸ mem)
  rw [cutFirst?, List.dropWhile_append_of_pos others, List.takeWhile_append_of_pos others,
    List.dropWhile_cons_of_neg (by simp), List.takeWhile_cons_of_neg (by simp), List.append_nil]

theorem cutFirst?_of_not_mem (absent : separator ∉ t) : cutFirst? separator t = none := by
  have others : ∀ c ∈ t, decide (c ≠ separator) = true := fun c mem =>
    decide_eq_true fun same => absent (same ▸ mem)
  rw [cutFirst?, List.dropWhile_eq_nil_iff.2 others]

/-! ## White space at the ends -/

/-- The text is white space. -/
def Blank (t : Text) : Prop :=
  ∀ c ∈ t, c.isBlank = true

theorem trimLeft_append (blank : a.Blank) (t : Text) : trimLeft (a ++ t) = trimLeft t :=
  List.dropWhile_append_of_pos blank

theorem trimRight_append (blank : b.Blank) (t : Text) : trimRight (t ++ b) = trimRight t := by
  have reversed : Blank b.reverse := fun c mem => blank c (List.mem_reverse.1 mem)
  rw [trimRight, List.reverse_append, trimLeft_append reversed, trimRight]

/-- White space around a text makes no difference. -/
theorem trim_append (before : a.Blank) (behind : b.Blank) (t : Text) :
    trim (a ++ (t ++ b)) = trim t := by
  rw [trim, trimLeft_append before, trim]
  by_cases blank : trimLeft t = []
  · -- Nothing else is left of the text.
    have all : t.Blank := List.dropWhile_eq_nil_iff.1 blank
    have none : trimLeft b = [] := List.dropWhile_eq_nil_iff.2 behind
    rw [trimLeft_append all, blank, none]
  · have kept : trimLeft (t ++ b) = trimLeft t ++ b := by
      rw [trimLeft, List.dropWhile_append, if_neg]
      · rfl
      · exact fun empty => blank (List.isEmpty_iff.1 empty)
    rw [kept, trimRight_append behind]

theorem mem_of_mem_trim {c : CodePoint} (mem : c ∈ trim t) : c ∈ t := by
  have in_left : c ∈ trimLeft t := List.mem_reverse.1
    ((List.dropWhile_sublist CodePoint.isBlank).mem (List.mem_reverse.1 mem))
  exact (List.dropWhile_sublist CodePoint.isBlank).mem in_left

/-- The text is between white space in what it was before. -/
theorem exists_pads (t : Text) : ∃ a b : Text, a.Blank ∧ b.Blank ∧ t = a ++ (trim t ++ b) := by
  have left : ∀ u : Text, ∃ a, Blank a ∧ u = a ++ trimLeft u := fun u =>
    ⟨u.takeWhile CodePoint.isBlank, fun c mem => List.mem_takeWhile_imp mem,
      (List.takeWhile_append_dropWhile).symm⟩
  obtain ⟨a, before, eq⟩ := left t
  obtain ⟨b, behind, eq'⟩ := left (trimLeft t).reverse
  refine ⟨a, b.reverse, before, fun c mem => behind c (List.mem_reverse.1 mem), ?_⟩
  have back := congrArg List.reverse eq'
  rw [List.reverse_reverse, List.reverse_append] at back
  rw [trim, trimRight, ← back]
  exact eq

theorem trim_trim (t : Text) : trim (trim t) = trim t := by
  obtain ⟨a, b, before, behind, eq⟩ := exists_pads t
  calc trim (trim t) = trim (a ++ (trim t ++ b)) := (trim_append before behind _).symm
    _ = trim t := by rw [← eq]

end Text

namespace TraceHeader

open Text

/-! ## Fields -/

/-- The keys that a header is asked for. -/
def knownKeys : List Text := ["Root", "Parent", "Sampled"]

variable {key value part header : Text} {ps qs : List Text}

theorem field?_append (no_sign : 61 ∉ key) (value : Text) :
    field? (key ++ 61 :: value) = some (key.trim, value.trim) := by
  rw [field?, cutFirst?_append no_sign]
  rfl

theorem field?_of_not_mem (no_sign : 61 ∉ part) : field? part = none := by
  rw [field?, cutFirst?_of_not_mem no_sign]
  rfl

/-- A field is read of what stands before and after the first equals sign. -/
theorem exists_of_field?_eq_some {f : Text × Text} (read : field? part = some f) :
    ∃ key value : Text, part = key ++ 61 :: value ∧ 61 ∉ key ∧ f = (key.trim, value.trim) := by
  by_cases sign : 61 ∈ part
  · obtain ⟨key, value, rfl, no_sign⟩ := List.eq_append_cons_of_mem sign
    rw [field?_append no_sign] at read
    exact ⟨key, value, rfl, no_sign, (Option.some.inj read).symm⟩
  · rw [field?_of_not_mem sign] at read
    cases read

/-- A value that is read has neither a separator in it nor white space around it. -/
theorem clean_of_value? (read : value? key header = some value) :
    59 ∉ value ∧ value.trim = value := by
  obtain ⟨before, behind, parts, -⟩ := List.lookup_eq_some_iff.1 read
  have field : (key, value) ∈ fields header := List.mem_reverse.1 (parts ▸ by simp)
  obtain ⟨part, mem, is_field⟩ := List.mem_filterMap.1 field
  obtain ⟨key', value', rfl, -, same⟩ := exists_of_field?_eq_some is_field
  obtain ⟨-, rfl⟩ := Prod.mk.inj same
  refine ⟨fun inside => not_mem_of_mem_splitOn mem ?_, trim_trim value'⟩
  exact List.mem_append_right _ (List.mem_cons_of_mem _ (mem_of_mem_trim inside))

/-- A header with an equals sign is no bare root. -/
theorem parse_of_mem (sign : 61 ∈ header) :
    parse header =
      ⟨(value? "Root" header).getD [], value? "Parent" header, value? "Sampled" header⟩ := by
  have no_bare : isBareRoot header = false := by
    rw [isBareRoot, List.contains_iff_mem.2 sign]
    exact Bool.and_false _
  rw [parse, no_bare, Bool.and_false]
  rfl

/-! ## Written and read again -/

/-- The header without the fields that have no value. -/
def withoutEmpty (t : TraceHeader) : TraceHeader :=
  ⟨t.root, t.parent.filter (· ≠ []), t.sampled.filter (· ≠ [])⟩

/-- The part that is written of a field. -/
def optionalPart (key : Text) (value : Option Text) : List Text :=
  (value.filter (· ≠ [])).toList.map fun value => key ++ 61 :: value

/-- A header is written part by part. -/
theorem render_eq_join (t : TraceHeader) :
    render t = join [59] (("Root=" ++ t.root) ::
      (optionalPart "Parent" t.parent ++ optionalPart "Sampled" t.sampled)) := by
  obtain ⟨root, parent, sampled⟩ := t
  rcases parent with _ | _ | ⟨c, parent⟩ <;> rcases sampled with _ | _ | ⟨d, sampled⟩ <;>
    simp [render, optionalField, optionalPart, join, List.intercalate, Option.filter]

theorem render_withoutEmpty (t : TraceHeader) : render t.withoutEmpty = render t := by
  obtain ⟨root, parent, sampled⟩ := t
  rcases parent with _ | _ | ⟨c, parent⟩ <;> rcases sampled with _ | _ | ⟨d, sampled⟩ <;> rfl

/-- No value has a separator in it or white space around it. -/
structure Clean (t : TraceHeader) : Prop where
  root : 59 ∉ t.root ∧ t.root.trim = t.root
  parent : ∀ value ∈ t.parent, 59 ∉ value ∧ value.trim = value
  sampled : ∀ value ∈ t.sampled, 59 ∉ value ∧ value.trim = value

/-- What is read is clean, if a bare root is. -/
theorem clean_parse (readable : 61 ∈ header ∨ 59 ∉ header) : (parse header).Clean := by
  refine ⟨?_, fun value read => clean_of_value? read, fun value read => clean_of_value? read⟩
  rw [parse]
  dsimp only
  split
  · next bare =>
    have no_sign : 61 ∉ header := by simp_all [isBareRoot]
    have whole := readable.resolve_left no_sign
    exact ⟨fun inside => whole (mem_of_mem_trim inside), trim_trim header⟩
  · cases read : value? "Root" header with
    | none => exact ⟨List.not_mem_nil, rfl⟩
    | some root => exact clean_of_value? read

/-- The fields that are written of a value. -/
def optionalFields (key : Text) (value : Option Text) : List (Text × Text) :=
  (value.filter (· ≠ [])).toList.map fun value => (key, value)

theorem filterMap_optionalPart {value : Option Text} (no_sign : 61 ∉ key) (bare : key.trim = key)
    (clean : ∀ v ∈ value, 59 ∉ v ∧ v.trim = v) :
    (optionalPart key value).filterMap field? = optionalFields key value := by
  rw [optionalPart, optionalFields, List.filterMap_map, ← List.filterMap_eq_map]
  refine List.filterMap_congr fun v mem => ?_
  have some_value : v ∈ value := (Option.mem_filter_iff.1 (Option.mem_toList.1 mem)).1
  rw [Function.comp_apply, field?_append no_sign, bare, (clean v some_value).2]
  rfl

theorem not_mem_of_mem_optionalPart {value : Option Text} (whole : 59 ∉ key)
    (clean : ∀ v ∈ value, 59 ∉ v ∧ v.trim = v) : ∀ part ∈ optionalPart key value, 59 ∉ part := by
  intro part in_parts
  obtain ⟨v, mem, rfl⟩ := List.mem_map.1 in_parts
  have some_value : v ∈ value := (Option.mem_filter_iff.1 (Option.mem_toList.1 mem)).1
  simp [whole, (clean v some_value).1]

/-- The fields of a clean header are those that it was written of. -/
theorem Clean.fields_render {t : TraceHeader} (clean : t.Clean) :
    fields (render t) = (("Root" : Text), t.root) ::
      (optionalFields "Parent" t.parent ++ optionalFields "Sampled" t.sampled) := by
  have whole : ∀ part ∈ ("Root=" ++ t.root) ::
      (optionalPart "Parent" t.parent ++ optionalPart "Sampled" t.sampled), 59 ∉ part := by
    rw [List.forall_mem_cons, List.forall_mem_append]
    refine ⟨?_, not_mem_of_mem_optionalPart (by decide) clean.parent,
      not_mem_of_mem_optionalPart (by decide) clean.sampled⟩
    exact fun mem => (List.mem_append.1 mem).elim (by decide) clean.root.1
  have root : field? ("Root=" ++ t.root) = some (("Root" : Text), t.root) := by
    have no_sign : 61 ∉ ("Root" : Text) := by decide
    have read := field?_append no_sign t.root
    rw [clean.root.2] at read
    exact read
  rw [render_eq_join, fields, splitOn_join whole (List.cons_ne_nil _ _),
    List.filterMap_cons_some root, List.filterMap_append,
    filterMap_optionalPart (by decide) (by decide) clean.parent,
    filterMap_optionalPart (by decide) (by decide) clean.sampled]

/-- A clean header is read as what it is, but for fields that have no value. -/
theorem Clean.parse_render {t : TraceHeader} (clean : t.Clean) :
    parse (render t) = t.withoutEmpty := by
  have sign : 61 ∈ render t := by
    rw [render, List.append_assoc, List.append_assoc]
    exact List.mem_append_left _ (by decide)
  rw [parse_of_mem sign]
  rw [value?, value?, value?, clean.fields_render, withoutEmpty, optionalFields, optionalFields]
  -- The keys differ, so each one is looked up where it was written.
  cases t.parent.filter (· ≠ []) <;> cases t.sampled.filter (· ≠ []) <;> rfl

/-! ## Edits of the parts -/

/-- A part that has none of the known keys. -/
def IsForeign (part : Text) : Prop :=
  ∀ key value : Text, part = key ++ 61 :: value → 61 ∉ key → key.trim ∉ knownKeys

/-- What one edit makes of the parts of a header. -/
inductive Edit : List Text → List Text → Prop
  /-- The parts come in another order. -/
  | permute {ps qs : List Text} : ps.Perm qs → Edit ps qs
  /-- White space is put around the key and around the value of a part. -/
  | pad {ps qs : List Text} {key value a b c d : Text} : 61 ∉ key → a.Blank → b.Blank →
    c.Blank → d.Blank → Edit (ps ++ (key ++ 61 :: value) :: qs)
      (ps ++ (a ++ (key ++ b) ++ 61 :: (c ++ (value ++ d))) :: qs)
  /-- Another part is added. -/
  | insert {ps qs : List Text} {part : Text} : IsForeign part → Edit (ps ++ qs) (ps ++ part :: qs)
  /-- Another part is left out. -/
  | remove {ps qs : List Text} {part : Text} : IsForeign part → Edit (ps ++ part :: qs) (ps ++ qs)

/-- The fields of a key among parts. -/
def fieldsOf (key : Text) (parts : List Text) : List (Text × Text) :=
  (parts.filterMap field?).filter fun f => f.1 = key

theorem fieldsOf_append (key : Text) (ps qs : List Text) :
    fieldsOf key (ps ++ qs) = fieldsOf key ps ++ fieldsOf key qs := by
  rw [fieldsOf, List.filterMap_append, List.filter_append]
  rfl

theorem fieldsOf_cons (key part : Text) (qs : List Text) :
    fieldsOf key (part :: qs) = fieldsOf key [part] ++ fieldsOf key qs :=
  fieldsOf_append key [part] qs

/-- A part may be replaced by one that says the same. -/
theorem fieldsOf_congr {part' : Text} (same : field? part' = field? part) :
    fieldsOf key (ps ++ part' :: qs) = fieldsOf key (ps ++ part :: qs) := by
  rw [fieldsOf, fieldsOf, List.filterMap_append, List.filterMap_append, List.filterMap_cons,
    List.filterMap_cons, same]

theorem fieldsOf_foreign (foreign : IsForeign part) (known : key ∈ knownKeys) :
    fieldsOf key [part] = [] := by
  refine List.filter_eq_nil_iff.2 fun f mem same => ?_
  obtain ⟨part', mem_part, read⟩ := List.mem_filterMap.1 mem
  rw [List.mem_singleton.1 mem_part] at read
  obtain ⟨key', value, eq, no_sign, rfl⟩ := exists_of_field?_eq_some read
  have same_key : key'.trim = key := of_decide_eq_true same
  exact foreign key' value eq no_sign (same_key ▸ known)

/-- White space around key and value does not change what a part says. -/
theorem field?_pad {a b c d : Text} (no_sign : 61 ∉ key) (before : a.Blank) (behind : b.Blank)
    (before' : c.Blank) (behind' : d.Blank) :
    field? (a ++ (key ++ b) ++ 61 :: (c ++ (value ++ d))) = field? (key ++ 61 :: value) := by
  have outside : ∀ {u : Text}, u.Blank → 61 ∉ u := fun blank mem => by cases blank 61 mem
  have no_sign' : 61 ∉ a ++ (key ++ b) := by simp [no_sign, outside before, outside behind]
  rw [field?_append no_sign', field?_append no_sign, trim_append before behind,
    trim_append before' behind']

/-- An edit changes at most the order of the fields of a known key. -/
theorem Edit.perm (edit : Edit ps qs) (known : key ∈ knownKeys) :
    (fieldsOf key ps).Perm (fieldsOf key qs) := by
  cases edit with
  | permute perm => exact (perm.filterMap field?).filter _
  | pad no_sign before behind before' behind' =>
    rw [fieldsOf_congr (field?_pad no_sign before behind before' behind')]
  | insert foreign =>
    rw [fieldsOf_append, fieldsOf_append, fieldsOf_cons, fieldsOf_foreign foreign known,
      List.nil_append]
  | remove foreign =>
    rw [fieldsOf_append, fieldsOf_append, fieldsOf_cons, fieldsOf_foreign foreign known,
      List.nil_append]

/-- So do any number of edits. -/
theorem perm_of_edits (edits : Relation.ReflTransGen Edit ps qs) (known : key ∈ knownKeys) :
    (fieldsOf key ps).Perm (fieldsOf key qs) := by
  induction edits with
  | refl => exact .refl _
  | tail _ edit ih => exact ih.trans (edit.perm known)

/-- The value of a key is that of the last field with it. -/
theorem value?_eq (key header : Text) :
    value? key header = (fieldsOf key (splitOn 59 header)).getLast?.map Prod.snd := by
  have first : ∀ fs : List (Text × Text),
      fs.lookup key = (fs.filter fun f => f.1 = key).head?.map Prod.snd := by
    intro fs
    induction fs with
    | nil => rfl
    | cons f fs ih =>
      obtain ⟨key', value⟩ := f
      by_cases same : key' = key
      · simp [same]
      · have other : (key == key') = false := by simpa using Ne.symm same
        rw [List.lookup_cons, other, List.filter_cons_of_neg (by simpa using same), ih]
  rw [value?, first, List.filter_reverse, List.head?_reverse]
  rfl

/-- A key that no two fields have in common has at most one field. -/
theorem length_fieldsOf_le (distinct : ((fields header).map Prod.fst).Nodup) (key : Text) :
    (fieldsOf key (splitOn 59 header)).length ≤ 1 := by
  have once := List.nodup_iff_count_le_one.1 distinct key
  have same : (fun f : Text × Text => decide (f.1 = key)) = (· == key) ∘ Prod.fst :=
    funext fun f => (Bool.beq_eq_decide_eq f.1 key).symm
  rwa [List.count_eq_countP, List.countP_map, ← same, List.countP_eq_length_filter] at once

/-- Edits do not change the value of a known key, if no two fields have the same key. -/
theorem value?_of_edits {header' : Text} (distinct : ((fields header).map Prod.fst).Nodup)
    (edits : Relation.ReflTransGen Edit (splitOn 59 header) (splitOn 59 header'))
    (known : key ∈ knownKeys) : value? key header' = value? key header := by
  have perm := perm_of_edits edits known
  have few := length_fieldsOf_le distinct key
  have same : fieldsOf key (splitOn 59 header) = fieldsOf key (splitOn 59 header') := by
    generalize fieldsOf key (splitOn 59 header) = fs at perm few
    match fs, few with
    | [], _ => exact (List.nil_perm.1 perm).symm
    | [f], _ => exact List.singleton_perm.1 perm
  rw [value?_eq, value?_eq, same]

/-- A header with an equals sign, or without a separator, is read again as the same from what is
    written of it, but for fields without a value. And of a header no two fields of which have the
    same key, the same is read after any number of edits of its parts, while there is an equals sign
    in it. -/
theorem parse_stable :
    (∀ header : Text, 61 ∈ header ∨ 59 ∉ header →
      parse (render (parse header)) = (parse header).withoutEmpty ∧
      render (parse (render (parse header))) = render (parse header)) ∧
    ∀ header header' : Text, 61 ∈ header → 61 ∈ header' →
      ((fields header).map Prod.fst).Nodup →
      Relation.ReflTransGen Edit (splitOn 59 header) (splitOn 59 header') →
        parse header' = parse header := by
  refine ⟨fun header readable => ?_, fun header header' sign sign' distinct edits => ?_⟩
  · have again := (clean_parse readable).parse_render
    exact ⟨again, by rw [again, render_withoutEmpty]⟩
  · have same : ∀ key ∈ knownKeys, value? key header' = value? key header := fun _ =>
      value?_of_edits distinct edits
    rw [parse_of_mem sign, parse_of_mem sign', same "Root" (by decide), same "Parent" (by decide),
      same "Sampled" (by decide)]

/-- A bare root with a separator in it is cut there when it is read again. -/
example : parse (render (parse "1-a;b")) = ⟨"1-a", none, none⟩ := by decide

/-- A header with two fields. -/
def plain : Text := "Root=1-a;Parent=b"

/-- The same in another order, with white space and with another key. -/
def edited : Text := "Self=2;Parent\t= b;Root=1-a"

theorem edits_plain : Relation.ReflTransGen Edit (splitOn 59 plain) (splitOn 59 edited) := by
  have permute : Edit ["Root=1-a", "Parent=b"] ["Parent=b", "Root=1-a"] := .permute (.swap _ _ [])
  have pad : Edit ["Parent=b", "Root=1-a"] ["Parent\t= b", "Root=1-a"] :=
    @Edit.pad [] _ "Parent" "b" [] [9] [32] [] (by decide) nofun
      (List.forall_mem_singleton.2 rfl) (List.forall_mem_singleton.2 rfl) nofun
  have foreign : IsForeign "Self=2" := fun key value eq no_sign => by
    have read := field?_append no_sign value
    rw [← eq] at read
    have same : ("Self" : Text) = key.trim := congrArg Prod.fst (Option.some.inj read)
    rw [← same]
    decide
  have insert : Edit ["Parent\t= b", "Root=1-a"] ["Self=2", "Parent\t= b", "Root=1-a"] :=
    @Edit.insert [] _ _ foreign
  exact .tail (.tail (.single permute) pad) insert

/-- Both are read as the same, and written as the first one. -/
theorem parse_stable_edited :
    61 ∈ plain ∧ 61 ∈ edited ∧ ((fields plain).map Prod.fst).Nodup ∧
    Relation.ReflTransGen Edit (splitOn 59 plain) (splitOn 59 edited) ∧
    parse edited = parse plain ∧ render (parse (render (parse edited))) = plain := by
  have sign : 61 ∈ plain := by decide
  have sign' : 61 ∈ edited := by decide
  have distinct : ((fields plain).map Prod.fst).Nodup := by decide
  have same := parse_stable.2 plain edited sign sign' distinct edits_plain
  have again := (parse_stable.1 edited (.inl sign')).2
  refine ⟨sign, sign', distinct, edits_plain, same, ?_⟩
  rw [again, same]
  decide

end TraceHeader

end InvokeWorker
