import InvokeWorker.Proofs.JsonEcho

/-!
# The names of members

In an object that is read, the names of the members are distinct: of members of one name the reader
keeps one (`Json.distinct_of_read`). A document with distinct names all the way down is its own
echo, provided its numbers are (`Document.echo_eq_self`), so it can be read from what is written of
it (`Json.read_render_self`).
-/

namespace InvokeWorker

/-- What is found under a name is changed as all else is. -/
theorem lookup_map {α β : Type} (change : Text → α → β) (ms : List (Text × α)) (name : Text) :
    (ms.map fun m => (m.1, change m.1 m.2)).lookup name = (ms.lookup name).map (change name) := by
  induction ms with
  | nil => rfl
  | cons m ms ih =>
    rw [List.map_cons, List.lookup_cons, List.lookup_cons]
    split
    · next same =>
      rw [eq_of_beq same]
      rfl
    · exact ih

mutual

/-- In each object of the document, the names of the members are distinct. -/
def Document.Distinct : Document → Prop
  | .array ds => Document.ItemsDistinct ds
  | .object ms => (ms.map Prod.fst).Nodup ∧ Document.MembersDistinct ms
  | _ => True
termination_by structural d => d

/-- So are they in the items of an array. -/
def Document.ItemsDistinct : List Document → Prop
  | [] => True
  | d :: ds => d.Distinct ∧ Document.ItemsDistinct ds
termination_by structural ds => ds

/-- So are they in the members of an object. -/
def Document.MembersDistinct : List (Text × Document) → Prop
  | [] => True
  | (_, d) :: ms => d.Distinct ∧ Document.MembersDistinct ms
termination_by structural ms => ms

end

namespace Document

variable {ds : List Document} {ms : List (Text × Document)} {name : Text} {d : Document}

theorem itemsDistinct_iff : ItemsDistinct ds ↔ ∀ d ∈ ds, d.Distinct := by
  induction ds with
  | nil => simp [ItemsDistinct]
  | cons d ds ih => simp [ItemsDistinct, ih]

theorem membersDistinct_iff : MembersDistinct ms ↔ ∀ m ∈ ms, m.2.Distinct := by
  induction ms with
  | nil => simp [MembersDistinct]
  | cons m ms ih => simp [MembersDistinct, ih]

theorem distinct_insertMember (distinct : (object ms).Distinct) (inside : d.Distinct) :
    (object (insertMember ms name d)).Distinct := by
  obtain ⟨nodup, all⟩ := distinct
  rw [membersDistinct_iff] at all
  rw [insertMember]
  split
  · next known =>
    have names : (ms.map fun m => if m.1 = name then (m.1, d) else (m.1, m.2)).map Prod.fst =
        ms.map Prod.fst := by
      rw [List.map_map]
      refine List.map_congr_left fun m _ => ?_
      dsimp only [Function.comp]
      split <;> rfl
    refine ⟨names ▸ nodup, membersDistinct_iff.2 fun _ changed => ?_⟩
    obtain ⟨m, mem, rfl⟩ := List.mem_map.1 changed
    dsimp only
    split
    · exact inside
    · exact all m mem
  · next unknown =>
    have new : name ∉ ms.map Prod.fst := fun old => by
      obtain ⟨m, mem, rfl⟩ := List.mem_map.1 old
      exact unknown (List.any_eq_true.2 ⟨m, mem, decide_eq_true rfl⟩)
    refine ⟨?_, membersDistinct_iff.2 fun m mem => ?_⟩
    · rw [List.map_append]
      exact nodup.append (List.nodup_singleton name) (List.disjoint_singleton.2 new)
    · rcases List.mem_append.1 mem with mem | mem
      · exact all m mem
      · rw [List.mem_singleton.1 mem]
        exact inside

/-- Of members of one name one is left. -/
theorem distinct_mergeMembers (distinct : MembersDistinct ms) :
    (object (mergeMembers ms)).Distinct := by
  have behind : ∀ merged, (object merged).Distinct →
      (object (ms.foldl (fun merged m => insertMember merged m.1 m.2) merged)).Distinct := by
    induction ms with
    | nil => exact fun _ => id
    | cons m ms ih =>
      exact fun merged done => ih distinct.2 _ (distinct_insertMember done distinct.1)
  exact behind [] ⟨List.nodup_nil, trivial⟩

end Document

namespace Json

variable {rules : JsonRules} {t rest : Text} {d : Document}

theorem distinct_of_constant (constant : readConstant? t = some (d, rest)) : d.Distinct := by
  obtain ⟨⟨name, d⟩, mem, found⟩ := List.exists_of_findSome?_eq_some constant
  obtain ⟨rest, -, same⟩ := Option.map_eq_some_iff.1 found
  cases same
  simp only [constants, List.mem_cons, List.not_mem_nil, or_false, Prod.mk.injEq] at mem
  obtain ⟨-, rfl⟩ | ⟨-, rfl⟩ | ⟨-, rfl⟩ | ⟨-, rfl⟩ | ⟨-, rfl⟩ | ⟨-, rfl⟩ := mem <;> trivial

theorem distinct_of_number (number : readNumber t = .ok (d, rest)) : d.Distinct := by
  rw [readNumber.eq_def] at number
  dsimp only at number
  split at number
  · cases number
  · split at number
    · split at number <;> cases number
      trivial
    · cases number
      trivial

/-- With so much fuel only documents with distinct names are read. -/
structure Distinguishes (rules : JsonRules) (fuel : Nat) : Prop where
  value : ∀ depth t d rest, readValue rules fuel depth t = .ok (d, rest) → d.Distinct
  items : ∀ depth read t d rest, Document.ItemsDistinct read →
    readItems rules fuel depth read t = .ok (d, rest) → d.Distinct
  members : ∀ depth read t d rest, Document.MembersDistinct read →
    readMembers rules fuel depth read t = .ok (d, rest) → d.Distinct

namespace Distinguishes

variable {fuel : Nat} (distinguishes : Distinguishes rules fuel)

include distinguishes

theorem readValue_succ (depth : Nat) (t : Text) (d : Document) (rest : Text)
    (read : readValue rules (fuel + 1) depth t = .ok (d, rest)) : d.Distinct := by
  rw [readValue.eq_def] at read
  dsimp only at read
  split at read
  · cases read
  · next c u =>
    split at read
    · cases inner : readText rules (c :: u) (fuel + 1) [] u <;> rw [inner] at read <;> cases read
      trivial
    split at read
    · split at read
      · cases read
      · split at read
        · cases read
          exact ⟨List.nodup_nil, trivial⟩
        · exact distinguishes.members _ [] _ _ _ trivial read
    split at read
    · split at read
      · cases read
      · split at read
        · cases read
          trivial
        · exact distinguishes.items _ [] _ _ _ trivial read
    split at read
    · next constant =>
      cases read
      exact distinct_of_constant constant
    · exact distinct_of_number read

theorem readItems_succ (depth : Nat) (before : List Document) (t : Text) (d : Document)
    (rest : Text) (distinct : Document.ItemsDistinct before)
    (read : readItems rules (fuel + 1) depth before t = .ok (d, rest)) : d.Distinct := by
  rw [readItems.eq_def] at read
  dsimp only at read
  split at read
  · cases read
  · next item u value =>
    have all : Document.ItemsDistinct (item :: before) :=
      ⟨distinguishes.value _ _ _ _ value, distinct⟩
    split at read
    · cases read
      rw [Document.itemsDistinct_iff] at all
      exact Document.itemsDistinct_iff.2 fun d mem => all d (List.mem_reverse.1 mem)
    · exact distinguishes.items _ _ _ _ _ all read
    · cases read

theorem readMembers_succ (depth : Nat) (before : List (Text × Document)) (t : Text) (d : Document)
    (rest : Text) (distinct : Document.MembersDistinct before)
    (read : readMembers rules (fuel + 1) depth before t = .ok (d, rest)) : d.Distinct := by
  rw [readMembers.eq_def] at read
  dsimp only at read
  split at read
  · split at read
    · cases read
    · next name u _ =>
      split at read
      · split at read
        · cases read
        · next item v value =>
          have all : Document.MembersDistinct ((name, item) :: before) :=
            ⟨distinguishes.value _ _ _ _ value, distinct⟩
          split at read
          · cases read
            rw [Document.membersDistinct_iff] at all
            exact Document.distinct_mergeMembers (Document.membersDistinct_iff.2 fun m mem =>
              all m (List.mem_reverse.1 mem))
          · exact distinguishes.members _ _ _ _ _ all read
          · cases read
      · cases read
  · cases read

end Distinguishes

theorem distinguishes (rules : JsonRules) (fuel : Nat) : Distinguishes rules fuel := by
  -- Values, items and members are read by turns, each with less fuel than the one before.
  induction fuel with
  | zero => exact ⟨nofun, nofun, nofun⟩
  | succ fuel ih => exact ⟨ih.readValue_succ, ih.readItems_succ, ih.readMembers_succ⟩

/-- In each object that is read the names are distinct. -/
theorem distinct_of_read (read : Json.read rules t = .ok d) : d.Distinct := by
  rw [Json.read] at read
  split at read
  · cases read
  · next value =>
    split at read
    · cases read
      exact (distinguishes rules _).value _ _ _ _ value
    · cases read

end Json

/-! ## Documents that are read as they are -/

mutual

/-- Every number of the document with a fraction or an exponent is such. -/
def Document.FloatsIn (P : Double → Prop) : Document → Prop
  | .float f => P f
  | .array ds => Document.ItemsFloatsIn P ds
  | .object ms => Document.MembersFloatsIn P ms
  | _ => True
termination_by structural d => d

/-- So is every such number in the items of an array. -/
def Document.ItemsFloatsIn (P : Double → Prop) : List Document → Prop
  | [] => True
  | d :: ds => d.FloatsIn P ∧ Document.ItemsFloatsIn P ds
termination_by structural ds => ds

/-- So is every such number in the members of an object. -/
def Document.MembersFloatsIn (P : Double → Prop) : List (Text × Document) → Prop
  | [] => True
  | (_, d) :: ms => d.FloatsIn P ∧ Document.MembersFloatsIn P ms
termination_by structural ms => ms

end

namespace Document

variable {number : Double → Document} {P : Double → Prop}

mutual

/-- A document with distinct names is its own echo if its numbers are. -/
theorem echo_eq_self (numbers : ∀ f, P f → number f = .float f) :
    (d : Document) → d.Distinct → d.FloatsIn P → d.echo number id = d
  | .null, _, _ => rfl
  | .bool _, _, _ => rfl
  | .int _, _, _ => rfl
  | .float f, _, such => numbers f such
  | .text _, _, _ => rfl
  | .array ds, distinct, such => congrArg array (echoItems_eq_self numbers ds distinct such)
  | .object ms, distinct, such => by
    rw [echo, echoMembers_eq_self numbers ms distinct.2 such, mergeMembers_of_nodup distinct.1]
termination_by structural d => d

theorem echoItems_eq_self (numbers : ∀ f, P f → number f = .float f) :
    (ds : List Document) → ItemsDistinct ds → ItemsFloatsIn P ds → echoItems number id ds = ds
  | [], _, _ => rfl
  | d :: ds, distinct, such => by
    rw [echoItems, echo_eq_self numbers d distinct.1 such.1,
      echoItems_eq_self numbers ds distinct.2 such.2]
termination_by structural ds => ds

theorem echoMembers_eq_self (numbers : ∀ f, P f → number f = .float f) :
    (ms : List (Text × Document)) → MembersDistinct ms → MembersFloatsIn P ms →
      echoMembers number id ms = ms
  | [], _, _ => rfl
  | (name, d) :: ms, distinct, such => by
    rw [echoMembers, echo_eq_self numbers d distinct.1 such.1,
      echoMembers_eq_self numbers ms distinct.2 such.2, id]
termination_by structural ms => ms

end

end Document

/-- In a style in which texts are read as they were, a document with distinct names can be read from
    what is written of it, if its numbers can. -/
theorem Json.read_render_self {style : JsonStyle} {rules : JsonRules} {number : Double → Document}
    (legible : style.Legible rules number id) {P : Double → Prop}
    (numbers : ∀ f, P f → number f = .float f) {d : Document}
    (made : d.MadeOf (fun _ => True) Short rules.depth) (distinct : d.Distinct)
    (such : d.FloatsIn P) : read rules (d.render style) = .ok d := by
  rw [read_render legible made, Document.echo_eq_self numbers d distinct such]

end InvokeWorker
