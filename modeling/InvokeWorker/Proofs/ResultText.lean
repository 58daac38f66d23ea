import InvokeWorker.Proofs.EventCodec
import InvokeWorker.Proofs.JsonGrammar
import InvokeWorker.Proofs.Reporting

/-!
# The bodies of results

A result that is no body itself is encoded, and what comes of that is listed here
(`Value.Encodes`): it is refused as `Runtime.MarshalError`, an error of its own is passed on, or
there is a body. To say which values matter, `Value.Reaches` goes along with the encoding: into
lists, tuples and the values of mappings, and into what an object yields in place of these.

* `Response.encodes`: a body is ASCII without white space between the tokens, and it is a JSON text
  exactly if no number in the result is infinite or none at all.
* `Response.not_forall_isText`: so the body of a list with such a number is no JSON.
-/

namespace InvokeWorker

open Run (Ends)

/-! ## What is within a value -/

/-- The iteration of its own that an object is encoded by: a list or tuple by its items, a mapping,
    unless it is empty, by its entries. -/
def Custom.iteration? (o : Custom) : Option Pieces :=
  match o.core with
  | .list _ => o.own.pieces
  | .tuple _ => o.own.pieces
  | .mapping (_ :: _) => o.own.entries
  | _ => none

/-- The second part of a pair. -/
def Value.second? : Value → Option Value
  | .tuple [_, x] => some x
  | .custom ⟨_, .tuple [_, x], _⟩ => some x
  | _ => none

/-- The values that are encoded of what this iteration yields: all, or the second parts of the
    pairs. -/
def Custom.yielded (o : Custom) (vs : List Value) : List Value :=
  match o.core with
  | .mapping _ => vs.filterMap Value.second?
  | _ => vs

/-- The value is an item of a list or tuple or belongs to an entry of a mapping. -/
inductive Value.Holds : Value → Value → Prop
  /-- An item of a list. -/
  | list {vs : List Value} {x : Value} : x ∈ vs → Holds (.list vs) x
  /-- An item of a tuple. -/
  | tuple {vs : List Value} {x : Value} : x ∈ vs → Holds (.tuple vs) x
  /-- The value of an entry. -/
  | mapping {es : List (Value × Value)} {x : Value} : x ∈ es.map Prod.snd → Holds (.mapping es) x
  /-- A value that the iteration of an object yields. -/
  | own {o : Custom} {p : Pieces} {x : Value} : o.iteration? = some p → x ∈ o.yielded p.items →
    Holds (.custom o) x
  /-- A value in the one that an object is derived from. -/
  | core {o : Custom} {x : Value} : o.iteration? = none → Holds o.core x → Holds (.custom o) x

/-- When the first value is encoded, the last one is met within so many containers. -/
inductive Value.Reaches : Value → Nat → Value → Prop
  /-- The value itself. -/
  | self (v : Value) : Reaches v 0 v
  /-- What is met within a value that is held. -/
  | item {v x y : Value} {n : Nat} : v.Holds x → Reaches x n y → Reaches v (n + 1) y

/-- Containers are nested at most `levels` deep. -/
def Value.NestedWithin (levels : Nat) (v : Value) : Prop :=
  ∀ n y, v.Reaches n y → y.isContainer = true → n < levels

/-- The number a value is, be it of a derived class. -/
def Value.float? : Value → Option Double
  | .float d => some d
  | .custom ⟨_, .float d, _⟩ => some d
  | _ => none

/-- All numbers that are encoded are finite. -/
def Value.IsFinite (v : Value) : Prop :=
  ∀ n y d, v.Reaches n y → y.float? = some d → d.IsFinite

/-- An iteration that is encoded is ended by this error. -/
def Value.Interrupts (e : Thrown) (v : Value) : Prop :=
  ∃ n o p, v.Reaches n (.custom o) ∧ o.iteration? = some p ∧ p.fault? = some e

namespace Value

variable {v x : Value} {o : Custom} {p : Pieces} {levels : Nat} {e : Thrown}

theorem NestedWithin.pos (nested : v.NestedWithin levels) (container : v.isContainer = true) :
    0 < levels :=
  nested 0 v (.self v) container

theorem NestedWithin.item (nested : v.NestedWithin (levels + 1)) (holds : v.Holds x) :
    x.NestedWithin levels := fun n y reaches container =>
  Nat.lt_of_succ_lt_succ (nested (n + 1) y (.item holds reaches) container)

theorem NestedWithin.of_holds (items : ∀ x, v.Holds x → x.NestedWithin levels) :
    v.NestedWithin (levels + 1) := by
  intro n y reaches container
  cases reaches with
  | self => exact Nat.succ_pos levels
  | item holds reaches => exact Nat.succ_lt_succ (items _ holds _ y reaches container)

theorem NestedWithin.of_holds_nothing (no_container : v.isContainer = false)
    (nothing : ∀ x, ¬ v.Holds x) : v.NestedWithin levels := by
  intro n y reaches container
  cases reaches with
  | self => cases no_container.symm.trans container
  | item holds => exact absurd holds (nothing _)

theorem isFinite_iff :
    v.IsFinite ↔ (∀ d, v.float? = some d → d.IsFinite) ∧ ∀ x, v.Holds x → x.IsFinite := by
  constructor
  · exact fun finite => ⟨fun d => finite 0 v d (.self v),
      fun x holds n y d reaches => finite (n + 1) y d (.item holds reaches)⟩
  · rintro ⟨own, held⟩ n y d reaches
    cases reaches with
    | self => exact own d
    | item holds reaches => exact held _ holds _ y d reaches

/-- Of a value that is no number only what it holds counts. -/
theorem isFinite_iff_of_holds {vs : List Value} (no_float : v.float? = none)
    (holds : ∀ x, v.Holds x ↔ x ∈ vs) : v.IsFinite ↔ ∀ x ∈ vs, x.IsFinite := by
  rw [isFinite_iff]
  simp [no_float, holds]

theorem Interrupts.item (interrupts : x.Interrupts e) (holds : v.Holds x) : v.Interrupts e := by
  obtain ⟨n, o, p, reaches, own, fault⟩ := interrupts
  exact ⟨n + 1, o, p, .item holds reaches, own, fault⟩

theorem Interrupts.own (own : o.iteration? = some p) (fault : p.fault? = some e) :
    (custom o).Interrupts e :=
  ⟨0, o, p, .self _, own, fault⟩

theorem holds_list_iff {vs : List Value} : (list vs).Holds x ↔ x ∈ vs :=
  ⟨fun | .list mem => mem, .list⟩

theorem holds_tuple_iff {vs : List Value} : (tuple vs).Holds x ↔ x ∈ vs :=
  ⟨fun | .tuple mem => mem, .tuple⟩

theorem holds_mapping_iff {es : List (Value × Value)} :
    (mapping es).Holds x ↔ x ∈ es.map Prod.snd :=
  ⟨fun | .mapping mem => mem, .mapping⟩

theorem holds_own_iff (own : o.iteration? = some p) :
    (custom o).Holds x ↔ x ∈ o.yielded p.items := by
  refine ⟨fun holds => ?_, .own own⟩
  cases holds with
  | own own' mem => exact Option.some.inj (own'.symm.trans own) ▸ mem
  | core derived => cases own.symm.trans derived

theorem holds_core_iff (derived : o.iteration? = none) : (custom o).Holds x ↔ o.core.Holds x := by
  refine ⟨fun holds => ?_, .core derived⟩
  cases holds with
  | own own => cases own.symm.trans derived
  | core _ holds => exact holds

end Value

/-! ## The document of a value -/

namespace Pieces

variable {p : Pieces} {fallback : Value → Except EncodeFault Document} {depth : Nat}

/-- Either the iteration has failed, or there is the array of its items. -/
theorem array?_eq : (∀ e, p.fault? = some e → p.array? fallback depth = .error (.raised e)) ∧
    (p.fault? = none →
      p.array? fallback depth = (Value.documents? fallback depth [] p.items).map .array) := by
  obtain ⟨items, failure⟩ := p
  rw [array?]
  exact ⟨fun e fault => by rw [fault], fun no_fault => by rw [no_fault]⟩

theorem object?_eq : (∀ e, p.fault? = some e → p.object? fallback depth = .error (.raised e)) ∧
    (p.fault? = none →
      p.object? fallback depth = (Value.listed? fallback depth [] p.items).map .object) := by
  obtain ⟨items, failure⟩ := p
  rw [object?]
  exact ⟨fun e fault => by rw [fault], fun no_fault => by rw [no_fault]⟩

end Pieces

/-- The value itself is refused, as one without a document. -/
def EncodeFault.Refuses (fault : EncodeFault) : Prop :=
  fault.isRefusal = true ∧ ∀ e, fault ≠ .raised e

/-- What comes of encoding something: such a result as is said, a refusal, or the error that an
    iteration is ended by. -/
inductive Encoded {α : Type} (such : α → Prop) (interrupts : Thrown → Prop) :
    Except EncodeFault α → Prop
  /-- A result. -/
  | done {a : α} : such a → Encoded such interrupts (.ok a)
  /-- A refusal. -/
  | refused {fault : EncodeFault} : fault.Refuses → Encoded such interrupts (.error fault)
  /-- The end of an iteration. -/
  | interrupted {e : Thrown} : interrupts e → Encoded such interrupts (.error (.raised e))

section Encoded

variable {α β : Type} {such such' : α → Prop} {interrupts interrupts' : Thrown → Prop}
  {r : Except EncodeFault α}

theorem Encoded.map {such' : β → Prop} {f : α → β} (encoded : Encoded such interrupts r)
    (results : ∀ a, such a → such' (f a)) (errors : ∀ e, interrupts e → interrupts' e) :
    Encoded such' interrupts' (r.map f) := by
  cases encoded with
  | done such => exact .done (results _ such)
  | refused refuses => exact .refused refuses
  | interrupted interrupts => exact .interrupted (errors _ interrupts)

theorem Encoded.mono (encoded : Encoded such interrupts r) (results : ∀ a, such a → such' a)
    (errors : ∀ e, interrupts e → interrupts' e) : Encoded such' interrupts' r := by
  cases encoded with
  | done such => exact .done (results _ such)
  | refused refuses => exact .refused refuses
  | interrupted interrupts => exact .interrupted (errors _ interrupts)

end Encoded

namespace Value

/-- The document of a value at such a depth is nested no deeper, and it is finite if the value
    is. -/
def Documented (depth : Nat) (v : Value) : Prop :=
  Encoded (fun d => d.MadeOf (fun _ => True) (fun _ => True) depth ∧ (d.IsFinite ↔ v.IsFinite))
    (v.Interrupts ·) (v.document? refuse depth)

/-- So are the documents of values, which come behind those made before. -/
def AllDocumented (depth : Nat) (made : List Document) (vs : List Value)
    (r : Except EncodeFault (List Document)) : Prop :=
  Encoded (fun ds => ∃ more, ds = made.reverse ++ more ∧
      Document.ItemsMadeOf (fun _ => True) (fun _ => True) depth more ∧
      (Document.ItemsFinite more ↔ ∀ v ∈ vs, v.IsFinite))
    (fun e => ∃ v ∈ vs, v.Interrupts e) r

/-- So are the members that are made of values. -/
def MembersDocumented (depth : Nat) (made : List (Text × Document)) (vs : List Value)
    (r : Except EncodeFault (List (Text × Document))) : Prop :=
  Encoded (fun ms => ∃ more, ms = made.reverse ++ more ∧
      Document.MembersMadeOf (fun _ => True) (fun _ => True) depth more ∧
      (Document.MembersFinite more ↔ ∀ v ∈ vs, v.IsFinite))
    (fun e => ∃ v ∈ vs, v.Interrupts e) r

variable {depth : Nat} {v : Value} {o : Custom} {vs : List Value}

/-! ### Items and members -/

theorem allDocumented_nil (made : List Document) : AllDocumented depth made [] (.ok made.reverse) :=
  .done ⟨[], (List.append_nil _).symm, trivial, fun _ => nofun, fun _ => trivial⟩

theorem membersDocumented_nil (made : List (Text × Document)) :
    MembersDocumented depth made [] (.ok made.reverse) :=
  .done ⟨[], (List.append_nil _).symm, trivial, fun _ => nofun, fun _ => trivial⟩

theorem Documented.all_cons {made : List Document} (first : v.Documented depth)
    (next : List Document → Except EncodeFault (List Document))
    (rest : ∀ made, AllDocumented depth made vs (next made)) :
    AllDocumented depth made (v :: vs) (match v.document? refuse depth with
      | .error fault => .error fault
      | .ok d => next (d :: made)) := by
  rw [Documented] at first
  generalize v.document? refuse depth = r at first
  cases first with
  | refused refuses => exact .refused refuses
  | interrupted interrupts => exact .interrupted ⟨v, List.mem_cons_self, interrupts⟩
  | @done d such =>
    refine (rest (d :: made)).mono ?_ ?_
    · rintro _ ⟨more, rfl, made_more, same⟩
      refine ⟨d :: more, by simp, ⟨such.1, made_more⟩, ?_⟩
      rw [List.forall_mem_cons, ← such.2, ← same]
      rfl
    · rintro e ⟨x, mem, interrupts⟩
      exact ⟨x, List.mem_cons_of_mem _ mem, interrupts⟩

theorem documented_all (items : ∀ v ∈ vs, v.Documented depth) (made : List Document) :
    AllDocumented depth made vs (documents? refuse depth made vs) := by
  induction vs generalizing made with
  | nil => exact allDocumented_nil made
  | cons v vs ih =>
    rw [List.forall_mem_cons] at items
    rw [documents?]
    exact items.1.all_cons (documents? refuse depth · vs) (ih items.2)

theorem refuses_keyDigits? {n : Int} {fault : EncodeFault} (failed : keyDigits? n = .error fault) :
    fault.Refuses := by
  unfold keyDigits? at failed
  generalize Text.ofBoundedInt? n = digits at failed
  cases digits with
  | some t => cases failed
  | none =>
    cases failed
    exact ⟨rfl, nofun⟩

theorem refuses_keyText? {fault : EncodeFault} (failed : v.keyText? = .error fault) :
    fault.Refuses := by
  rw [keyText?.eq_def] at failed
  split at failed
  case h_3 => exact refuses_keyDigits? failed
  case h_6 => exact refuses_keyDigits? failed
  all_goals cases failed
  exact ⟨rfl, nofun⟩

/-- An entry is refused for its key, or else its value counts. -/
theorem Documented.members_cons {made : List (Text × Document)} {k : Value}
    (first : v.Documented depth)
    (next : List (Text × Document) → Except EncodeFault (List (Text × Document)))
    (rest : ∀ made, MembersDocumented depth made vs (next made)) :
    MembersDocumented depth made (v :: vs) (match k.keyText? with
      | .error fault => .error fault
      | .ok name => match v.document? refuse depth with
        | .error fault => .error fault
        | .ok d => next ((name, d) :: made)) := by
  split
  · next fault failed => exact .refused (refuses_keyText? failed)
  · next name _ =>
    rw [Documented] at first
    generalize v.document? refuse depth = r at first
    cases first with
    | refused refuses => exact .refused refuses
    | interrupted interrupts => exact .interrupted ⟨v, List.mem_cons_self, interrupts⟩
    | @done d such =>
      refine (rest ((name, d) :: made)).mono ?_ ?_
      · rintro _ ⟨more, rfl, made_more, same⟩
        refine ⟨(name, d) :: more, by simp, ⟨trivial, such.1, made_more⟩, ?_⟩
        rw [List.forall_mem_cons, ← such.2, ← same]
        rfl
      · rintro e ⟨x, mem, interrupts⟩
        exact ⟨x, List.mem_cons_of_mem _ mem, interrupts⟩

theorem documented_entries {es : List (Value × Value)}
    (items : ∀ v ∈ es.map Prod.snd, v.Documented depth) (made : List (Text × Document)) :
    MembersDocumented depth made (es.map Prod.snd) (members? refuse depth made es) := by
  induction es generalizing made with
  | nil => exact membersDocumented_nil made
  | cons entry es ih =>
    obtain ⟨k, v⟩ := entry
    rw [List.map_cons, List.forall_mem_cons] at items
    rw [members?]
    exact items.1.members_cons (members? refuse depth · es) (ih items.2)

/-- The entries that an iteration yields have to be pairs. -/
theorem documented_listed (items : ∀ v ∈ vs.filterMap second?, v.Documented depth)
    (made : List (Text × Document)) :
    MembersDocumented depth made (vs.filterMap second?) (listed? refuse depth made vs) := by
  induction vs generalizing made with
  | nil => exact membersDocumented_nil made
  | cons v vs ih =>
    rw [listed?.eq_def]
    split
    · next h => cases h
    · next h =>
      cases h
      rw [List.filterMap_cons_some (f := second?) rfl] at items ⊢
      rw [List.forall_mem_cons] at items
      exact items.1.members_cons (listed? refuse depth · vs) (ih items.2)
    · next h =>
      cases h
      rw [List.filterMap_cons_some (f := second?) rfl] at items ⊢
      rw [List.forall_mem_cons] at items
      exact items.1.members_cons (listed? refuse depth · vs) (ih items.2)
    · exact .refused ⟨rfl, nofun⟩

/-! ### Values -/

theorem documented_leaf {d : Document} (document : v.document? refuse depth = .ok d)
    (made : d.MadeOf (fun _ => True) (fun _ => True) depth)
    (finite : d.IsFinite ↔ ∀ d, v.float? = some d → d.IsFinite) (nothing : ∀ x, ¬ v.Holds x) :
    v.Documented depth := by
  rw [Documented, document]
  refine .done ⟨made, finite.trans ?_⟩
  rw [isFinite_iff]
  exact (and_iff_left fun x holds => absurd holds (nothing x)).symm

theorem documented_array (items : ∀ x, v.Holds x → x.Documented depth) (no_float : v.float? = none)
    (holds : ∀ x, v.Holds x ↔ x ∈ vs)
    (document : v.document? refuse (depth + 1) = (documents? refuse depth [] vs).map .array) :
    v.Documented (depth + 1) := by
  rw [Documented, document]
  refine Encoded.map (documented_all (fun x mem => items x ((holds x).2 mem)) []) ?_
    fun e ⟨x, mem, interrupts⟩ => interrupts.item ((holds x).2 mem)
  rintro _ ⟨more, rfl, made, same⟩
  exact ⟨made, same.trans (isFinite_iff_of_holds no_float holds).symm⟩

theorem documented_members {r : Except EncodeFault (List (Text × Document))}
    (all : (∀ x ∈ vs, x.Documented depth) → MembersDocumented depth [] vs r)
    (items : ∀ x, v.Holds x → x.Documented depth) (no_float : v.float? = none)
    (holds : ∀ x, v.Holds x ↔ x ∈ vs)
    (document : v.document? refuse (depth + 1) = r.map .object) : v.Documented (depth + 1) := by
  rw [Documented, document]
  refine Encoded.map (all fun x mem => items x ((holds x).2 mem)) ?_
    fun e ⟨x, mem, interrupts⟩ => interrupts.item ((holds x).2 mem)
  rintro _ ⟨more, rfl, made, same⟩
  exact ⟨made, same.trans (isFinite_iff_of_holds no_float holds).symm⟩

/-- An iteration is listed before anything of it is encoded. -/
theorem documented_iteration {p : Pieces} (own : o.iteration? = some p)
    (failed : ∀ e, p.fault? = some e → (custom o).document? refuse depth = .error (.raised e))
    (listed : p.fault? = none → (custom o).Documented depth) : (custom o).Documented depth := by
  cases fault : p.fault? with
  | none => exact listed fault
  | some e =>
    rw [Documented, failed e fault]
    exact .interrupted (.own own fault)

theorem documented_int {n : Int} (document : v.document? refuse depth =
      if n.natAbs < 10 ^ Text.maxDigits then .ok (.int n) else .error .digits)
    (no_float : v.float? = none) (nothing : ∀ x, ¬ v.Holds x) : v.Documented depth := by
  by_cases short : n.natAbs < 10 ^ Text.maxDigits
  · exact documented_leaf (document.trans (if_pos short)) trivial
      ⟨fun _ => by simp [no_float], fun _ => trivial⟩ nothing
  · rw [Documented, document, if_neg short]
    exact .refused ⟨rfl, nofun⟩

theorem documented_refused {fault : EncodeFault}
    (document : v.document? refuse depth = .error fault) (refuses : fault.Refuses) :
    v.Documented depth := by
  rw [Documented, document]
  exact .refused refuses

/-- An object that is no container is encoded as the value it is derived from, or refused. -/
theorem documented_object (no_container : (custom o).isContainer = false) (depth : Nat) :
    (custom o).Documented depth := by
  obtain ⟨name, core, _, _, _, _, _, _, _⟩ := o
  cases core with
  | list | tuple | set | frozenSet | mapping | selfList | selfMapping => cases no_container
  | text t =>
    exact documented_leaf (d := .text t) rfl trivial ⟨nofun, fun _ => trivial⟩
      fun x holds => nomatch (holds_core_iff rfl).1 holds
  | float d =>
    exact documented_leaf (d := .float d) rfl trivial
      ⟨fun finite _ same => Option.some.inj same ▸ finite, fun finite => finite d rfl⟩
      fun x holds => nomatch (holds_core_iff rfl).1 holds
  | int n =>
    refine documented_int (n := n) ?_ rfl fun x holds => nomatch (holds_core_iff rfl).1 holds
    rw [document?, Custom.document?]
  | _ => exact documented_refused rfl ⟨rfl, nofun⟩

theorem documented_of_no_container (no_container : v.isContainer = false) (depth : Nat) :
    v.Documented depth := by
  cases v with
  | list | tuple | set | frozenSet | mapping | selfList | selfMapping => cases no_container
  | custom o => exact documented_object no_container depth
  | null => exact documented_leaf (d := .null) rfl trivial ⟨nofun, fun _ => trivial⟩ nofun
  | bool b => exact documented_leaf (d := .bool b) rfl trivial ⟨nofun, fun _ => trivial⟩ nofun
  | text t => exact documented_leaf (d := .text t) rfl trivial ⟨nofun, fun _ => trivial⟩ nofun
  | float d =>
    exact documented_leaf (d := .float d) rfl trivial
      ⟨fun finite _ same => Option.some.inj same ▸ finite, fun finite => finite d rfl⟩ nofun
  | int n => exact documented_int (document?.eq_3 _ _ n) rfl nofun
  | _ => exact documented_refused rfl ⟨rfl, nofun⟩

/-- An object that is a container is encoded by an iteration of its own, or else as the container
    it is derived from. -/
theorem documented_container (container : (custom o).isContainer = true)
    (items : ∀ x, (custom o).Holds x → x.Documented depth) :
    (custom o).Documented (depth + 1) := by
  obtain ⟨name, core, _, _, _, pieces, entries, _, _⟩ := o
  cases core with
  | list vs =>
    cases pieces with
    | none =>
      exact documented_array items rfl (fun x => (holds_core_iff rfl).trans holds_list_iff) rfl
    | some p =>
      exact documented_iteration rfl Pieces.array?_eq.1 fun listed =>
        documented_array items rfl (fun x => holds_own_iff rfl) (Pieces.array?_eq.2 listed)
  | tuple vs =>
    cases pieces with
    | none =>
      exact documented_array items rfl (fun x => (holds_core_iff rfl).trans holds_tuple_iff) rfl
    | some p =>
      exact documented_iteration rfl Pieces.array?_eq.1 fun listed =>
        documented_array items rfl (fun x => holds_own_iff rfl) (Pieces.array?_eq.2 listed)
  | mapping es =>
    match es, entries with
    | [], _ =>
      exact documented_leaf (d := .object []) rfl trivial ⟨nofun, fun _ => trivial⟩
        fun x holds => nomatch holds_mapping_iff.1 ((holds_core_iff rfl).1 holds)
    | entry :: es, none =>
      exact documented_members (documented_entries · []) items rfl
        (fun x => (holds_core_iff rfl).trans holds_mapping_iff) rfl
    | entry :: es, some p =>
      exact documented_iteration rfl Pieces.object?_eq.1 fun listed =>
        documented_members (documented_listed · []) items rfl (fun x => holds_own_iff rfl)
          (Pieces.object?_eq.2 listed)
  | set | frozenSet | selfList | selfMapping => exact documented_refused rfl ⟨rfl, nofun⟩
  | custom o => exact documented_refused rfl ⟨rfl, nofun⟩
  | _ => cases container

theorem documented_of_container (container : v.isContainer = true)
    (items : ∀ x, v.Holds x → x.Documented depth) : v.Documented (depth + 1) := by
  cases v with
  | list vs => exact documented_array items rfl (fun x => holds_list_iff) rfl
  | tuple vs => exact documented_array items rfl (fun x => holds_tuple_iff) rfl
  | mapping es =>
    exact documented_members (documented_entries · []) items rfl (fun x => holds_mapping_iff) rfl
  | set | frozenSet | selfList | selfMapping => exact documented_refused rfl ⟨rfl, nofun⟩
  | custom o => exact documented_container container items
  | _ => cases container

/-- Of a value that is nested no deeper than that there is a document, or it is refused, or
    interrupted. -/
theorem documented (levels : Nat) {v : Value} {depth : Nat} (nested : v.NestedWithin levels)
    (fewer : levels ≤ depth) : v.Documented depth := by
  induction levels generalizing v depth with
  | zero =>
    refine documented_of_no_container (Bool.eq_false_iff.2 fun container => ?_) depth
    exact (Nat.lt_irrefl 0) (nested.pos container)
  | succ levels ih =>
    cases container : v.isContainer with
    | false => exact documented_of_no_container container depth
    | true =>
      obtain ⟨depth, rfl⟩ := Nat.exists_eq_add_of_le' fewer
      exact documented_of_container container fun x holds =>
        ih (nested.item holds) (Nat.le_add_left levels depth)

end Value

/-! ## The body of a result -/

/-- The octets are the text in ASCII, and the text is the JSON of a result if that is finite. -/
structure Response.Spells (v : Value) (t : Text) (body : Bytes) : Prop where
  ascii : ∀ o ∈ body, o < 0x80
  text : Utf8.text? body = some t
  dense : v.IsFinite → Json.IsDense t
  isText_iff : Json.IsText t ↔ v.IsFinite

/-- What can come of encoding a result that is no body itself. -/
inductive Value.Encodes [Interpreter] (v : Value) : Except Thrown Value → Prop
  /-- The result has no JSON. -/
  | refused (message : Text) : Encodes v (.error (Response.marshalError message))
  /-- An iteration is ended by an error of a kind that no value is refused for. -/
  | interrupted {e : Thrown} : v.Interrupts e → (EncodeFault.raised e).isRefusal = false →
    Encodes v (.error e)
  /-- An iteration is ended by an error that has no text the refusal could state. -/
  | unshown {x e : Thrown} : v.Interrupts x → (EncodeFault.raised x).isRefusal = true →
    x.display = .error e → Encodes v (.error e)
  /-- The result raises an error when it is asked for its content type. -/
  | undeclared {e : Thrown} : v.FailsToDeclare e → Encodes v (.error e)
  /-- A body. -/
  | body {t : Text} {body : Bytes} : v.declaresContentType = false → Response.Spells v t body →
    Encodes v (.ok (.bytes body))
  /-- A body with the content type of the result. -/
  | typed {t type : Text} {body : Bytes} : v.declaresContentType = true →
    Response.Spells v t body → Encodes v (.ok (.typed (.bytes body) (.text type)))

namespace Response

variable {v : Value} {d : Document} {depth levels : Nat}

theorem spells_render (made : d.MadeOf (fun _ => True) (fun _ => True) depth)
    (finite : d.IsFinite ↔ v.IsFinite) :
    Spells v (d.render .compact) (Bytes.ofAscii (d.render .compact)) := by
  have visible : (d.render .compact).Visible := Document.only_render JsonStyle.spares_compact made
  refine ⟨Bytes.lt_of_mem_ofAscii visible, ?_, fun finite' => ?_, ?_⟩
  · rw [← Utf8.encodeLax_of_visible visible]
    exact Utf8.text?_encodeLax (Text.scalar_iff.1 visible.scalar)
  · exact Document.isDense_render (finite.2 finite')
  · exact Document.isText_render_iff.trans finite

/-- What can come of the JSON of a result. -/
theorem jsonOf_cases [Interpreter] (nested : v.NestedWithin levels)
    (fewer : levels ≤ nestingLimit) : (∃ e, v.Encodes (.error e) ∧ jsonOf v = .error e) ∨
    ∃ t body, Spells v t body ∧ jsonOf v = .ok body := by
  have documented := Value.documented levels nested fewer
  rw [Value.Documented] at documented
  rw [jsonOf]
  generalize v.document? Value.refuse nestingLimit = r at documented
  cases documented with
  | done such => exact .inr ⟨_, _, spells_render such.1 such.2, rfl⟩
  | @interrupted x interrupts =>
    refine .inl ?_
    dsimp only
    split
    · next refusal =>
      rw [EncodeFault.toThrown]
      cases shown : x.display with
      | ok message => exact ⟨_, .refused message, rfl⟩
      | error e => exact ⟨e, .unshown interrupts refusal shown, rfl⟩
    · next other => exact ⟨x, .interrupted interrupts (Bool.eq_false_iff.2 other), rfl⟩
  | @refused fault refuses =>
    obtain plain | ⟨e, raised⟩ := isPlain_encodeFault fault
    case inr => exact absurd raised (refuses.2 e)
    obtain ⟨message, shown⟩ := plain.display
    dsimp only
    rw [if_pos refuses.1, shown]
    exact .inl ⟨_, .refused message, rfl⟩

/-- A result that is nested less than 500 levels deep and is no body itself is refused, or an error
    of its own is passed on, or its body is ASCII. Without white space between the tokens the body
    is a JSON text, unless some number in the result is not finite: then it is none. -/
theorem encodes [Interpreter] (v : Value) (levels : Nat) (fewer : levels < 500)
    (nested : v.NestedWithin levels) (no_body : v.passesThrough = false) (w : Worker) :
    Ends (encode v) w fun r _ => v.Encodes r := by
  have limit : levels ≤ nestingLimit := le_nestingLimit (Nat.le_of_lt fewer)
  rw [encode, if_neg (by simp [no_body])]
  obtain ⟨e, encodes, json⟩ | ⟨t, body, spells, json⟩ := jsonOf_cases nested limit
  · rw [json]
    exact encodes
  · rw [json]
    cases declares : v.declaresContentType with
    | false => exact .body declares spells
    | true =>
      refine (ends_contentType (w := w) v ContentType.octets).bind ?_ ?_
      · rintro type w' -
        exact .typed declares spells
      · rintro e w' ⟨-, fails⟩
        exact .undeclared ((fails e).1 rfl)

/-- A mapping of a derived class that declares a content type. -/
def record : Value :=
  .custom ⟨"Record", .mapping [(.text "n", .list [.null])],
    { Capabilities.none with contentType := some (.returns (.text "text/json")) }⟩

/-- It has two levels, and is encoded. -/
theorem encodes_record : record.NestedWithin 2 ∧ record.passesThrough = false ∧
    Ends (encode record) (.start 0 none) fun r _ => record.Encodes r := by
  have nested : record.NestedWithin 2 := by
    refine .of_holds fun x holds => ?_
    obtain rfl := List.mem_singleton.1
      (Value.holds_mapping_iff.1 ((Value.holds_core_iff rfl).1 holds))
    refine .of_holds fun y holds => ?_
    obtain rfl := List.mem_singleton.1 (Value.holds_list_iff.1 holds)
    exact .of_holds_nothing rfl nofun
  exact ⟨nested, rfl, encodes record 2 (by decide) nested rfl (.start 0 none)⟩

/-- Not every body is a JSON text. -/
theorem not_forall_isText :
    ¬ ∀ (v : Value) (levels : Nat) (w w' : Worker) (body : Bytes), levels < 500 →
      v.NestedWithin levels → v.passesThrough = false → encode v w = .ok (.bytes body) w' →
      ∃ t, Utf8.text? body = some t ∧ Json.IsText t := by
  intro all
  have made : (Document.array [.float .nan]).MadeOf (fun _ => True) Json.Short 1 :=
    ⟨trivial, trivial⟩
  have document : (Value.list [.float .nan]).document? Value.refuse nestingLimit =
      .ok (.array [.float .nan]) := rfl
  have nested : (Value.list [.float .nan]).NestedWithin 1 := by
    refine .of_holds fun x holds => ?_
    obtain rfl := List.mem_singleton.1 (Value.holds_list_iff.1 holds)
    exact .of_holds_nothing rfl nofun
  have visible := Document.only_render JsonStyle.spares_compact made
  obtain ⟨t, text, is_text⟩ := all (.list [.float .nan]) 1 (.start 0 none) (.start 0 none) _
    (by decide) nested rfl (encode_of_document document made rfl rfl _)
  rw [Utf8.text?_encodeLax (Text.scalar_iff.1 (Text.Visible.scalar visible))] at text
  cases text
  -- The name of what is no number stands outside quotes.
  exact (Document.isText_render_iff.1 is_text).1

end Response

end InvokeWorker
