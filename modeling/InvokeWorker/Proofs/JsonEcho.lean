import InvokeWorker.Proofs.DocumentText
import InvokeWorker.Proofs.JsonDepth
import InvokeWorker.Proofs.JsonNumerals
import InvokeWorker.Proofs.JsonQuotes

/-!
# What is written can be read

A document is written from the end of what was written so far. Here its text is given from the
front (`Document.spelled`, `Document.render_eq`), which is the order in which it is read. If the
style is legible to a reader (`JsonStyle.Legible`), the reader takes from the text of a document
just this text, and reads its echo: the numbers and texts as they are read on their own, and of
members of the same name the last one (`Json.read_render`).
-/

namespace InvokeWorker

/-! ## The text from the front -/

mutual

/-- The text of a document. -/
def Document.spelled (style : JsonStyle) : Document → Text
  | .null => "null"
  | .bool true => "true"
  | .bool false => "false"
  | .int n => Text.ofInt n
  | .float d => style.number d
  | .text t => style.quoted t
  | .array [] => [91, 93]
  | .array (d :: ds) => 91 :: (d.spelled style ++ Document.moreItems style ds)
  | .object [] => [123, 125]
  | .object ((name, d) :: ms) =>
    123 :: (style.quoted name ++
      (style.colon ++ (d.spelled style ++ Document.moreMembers style ms)))
termination_by structural d => d

/-- The text of further items of an array, up to its end. -/
def Document.moreItems (style : JsonStyle) : List Document → Text
  | [] => [93]
  | d :: ds => style.comma ++ (d.spelled style ++ Document.moreItems style ds)
termination_by structural ds => ds

/-- The text of further members of an object, up to its end. -/
def Document.moreMembers (style : JsonStyle) : List (Text × Document) → Text
  | [] => [125]
  | (name, d) :: ms => style.comma ++ (style.quoted name ++
      (style.colon ++ (d.spelled style ++ Document.moreMembers style ms)))
termination_by structural ms => ms

end

namespace Document

variable {style : JsonStyle}

mutual

theorem writeOnto_eq (style : JsonStyle) :
    (d : Document) → (written : Text) →
      d.writeOnto style written = (d.spelled style).reverse ++ written
  | .null, _ => List.reverseAux_eq
  | .bool true, _ => List.reverseAux_eq
  | .bool false, _ => List.reverseAux_eq
  | .int _, _ => List.reverseAux_eq
  | .float _, _ => List.reverseAux_eq
  | .text _, _ => List.reverseAux_eq
  | .array [], _ => rfl
  | .array (d :: ds), written => by
    rw [writeOnto, writeItemsOnto_eq style ds, writeOnto_eq style d, spelled]
    simp
  | .object [], _ => rfl
  | .object ((name, d) :: ms), written => by
    rw [writeOnto, writeMembersOnto_eq style ms, writeOnto_eq style d, spelled]
    simp [List.reverseAux_eq]
termination_by structural d => d

theorem writeItemsOnto_eq (style : JsonStyle) :
    (ds : List Document) → (written : Text) →
      93 :: writeItemsOnto style ds written = (moreItems style ds).reverse ++ written
  | [], _ => rfl
  | d :: ds, written => by
    rw [writeItemsOnto, writeItemsOnto_eq style ds, writeOnto_eq style d, moreItems]
    simp [List.reverseAux_eq]
termination_by structural ds => ds

theorem writeMembersOnto_eq (style : JsonStyle) :
    (ms : List (Text × Document)) → (written : Text) →
      125 :: writeMembersOnto style ms written = (moreMembers style ms).reverse ++ written
  | [], _ => rfl
  | (name, d) :: ms, written => by
    rw [writeMembersOnto, writeMembersOnto_eq style ms, writeOnto_eq style d, moreMembers]
    simp [List.reverseAux_eq]
termination_by structural ms => ms

end

theorem render_eq (d : Document) : d.render style = d.spelled style := by
  rw [render, writeOnto_eq, List.append_nil, List.reverse_reverse]

end Document

/-! ## What is read -/

mutual

/-- A document with its numbers and texts changed, and of members of one name only the last one
    left. -/
def Document.echo (number : Double → Document) (text : Text → Text) : Document → Document
  | .float d => number d
  | .text t => .text (text t)
  | .array ds => .array (Document.echoItems number text ds)
  | .object ms => .object (Document.mergeMembers (Document.echoMembers number text ms))
  | d => d
termination_by structural d => d

/-- The items of an array, so changed. -/
def Document.echoItems (number : Double → Document) (text : Text → Text) :
    List Document → List Document
  | [] => []
  | d :: ds => d.echo number text :: Document.echoItems number text ds
termination_by structural ds => ds

/-- The members of an object, so changed. -/
def Document.echoMembers (number : Double → Document) (text : Text → Text) :
    List (Text × Document) → List (Text × Document)
  | [] => []
  | (name, d) :: ms => (text name, d.echo number text) :: Document.echoMembers number text ms
termination_by structural ms => ms

end

/-- White space behind commas and colons, and numbers and texts that are read as those. -/
structure JsonStyle.Legible (style : JsonStyle) (rules : JsonRules) (number : Double → Document)
    (text : Text → Text) : Prop where
  comma : ∃ spaces, style.comma = 44 :: spaces ∧ ∀ c ∈ spaces, Json.isSpace c = true
  colon : ∃ spaces, style.colon = 58 :: spaces ∧ ∀ c ∈ spaces, Json.isSpace c = true
  number : ∀ d, Json.Reads rules (style.number d) (number d)
  text : ∀ t start fuel rest, t.length ≤ fuel →
    Json.readText rules start (fuel + 1) [] (t.flatMap style.escaped ++ 34 :: rest) =
      .ok (text t, rest)

/-- An integer that is not too long to be read. -/
def Json.Short (n : Int) : Prop :=
  n.natAbs < 10 ^ Text.maxDigits

theorem Json.short_of_lt_ten {n : Int} (small : n.natAbs < 10) : Json.Short n :=
  Nat.lt_of_lt_of_le small (Nat.le_self_pow (by decide) 10)

namespace Json

variable {style : JsonStyle} {rules : JsonRules} {number : Double → Document} {text : Text → Text}
  {c : CodePoint} {t rest : Text} {fuel depth : Nat}

/-! ### Spaces -/

theorem skipSpace_append (spaces : ∀ c ∈ t, isSpace c = true) (rest : Text) :
    skipSpace (t ++ rest) = skipSpace rest :=
  List.dropWhile_append_of_pos spaces

/-- A value starts with something, but not with white space nor with the end of an array. -/
theorem exists_cons_of_readValue {r : Document × Text}
    (read : readValue rules fuel depth t = .ok r) :
    ∃ c t', t = c :: t' ∧ isSpace c = false ∧ c ≠ 93 := by
  cases fuel with
  | zero => cases read
  | succ fuel =>
    cases t with
    | nil => cases read
    | cons c t =>
      refine ⟨c, t, rfl, ?_, ?_⟩
      · by_contra space
        simp only [isSpace, Bool.not_eq_false, Bool.or_eq_true, decide_eq_true_eq] at space
        obtain ((rfl | rfl) | rfl) | rfl := space <;> cases read
      · rintro rfl
        cases read

theorem skipSpace_of_readValue {r : Document × Text} (read : readValue rules fuel depth t = .ok r) :
    skipSpace t = t := by
  obtain ⟨c, t', rfl, no_space, -⟩ := exists_cons_of_readValue read
  exact skipSpace_cons no_space t'

/-! ### Items and members -/

/-- An item is read, and then the end of the array or another item. -/
theorem readItems_of_item {more : Text} {d : Document} (read : List Document)
    (value : readValue rules fuel depth (t ++ more) = .ok (d, more)) :
    (∀ rest, more = 93 :: rest →
      readItems rules (fuel + 1) depth read (t ++ more) = .ok (.array (d :: read).reverse, rest)) ∧
    ∀ u, more = 44 :: u → readItems rules (fuel + 1) depth read (t ++ more) =
      readItems rules fuel depth (d :: read) (skipSpace u) := by
  refine ⟨?_, ?_⟩ <;>
  · rintro u rfl
    rw [readItems, value]
    dsimp only
    rw [skipSpace_cons (by decide)]
    rfl

section Legible

variable (legible : style.Legible rules number text)

include legible

/-- Behind a comma one goes on with what comes next. -/
theorem skipSpace_comma (first : skipSpace t = t) :
    ∃ u, style.comma ++ t = 44 :: u ∧ skipSpace u = t := by
  obtain ⟨spaces, eq, all⟩ := legible.comma
  exact ⟨spaces ++ t, by rw [eq]; rfl, by rw [skipSpace_append all, first]⟩

/-- Behind a colon one goes on with what comes next. -/
theorem skipSpace_colon (first : skipSpace t = t) :
    ∃ u, style.colon ++ t = 58 :: u ∧ skipSpace u = t := by
  obtain ⟨spaces, eq, all⟩ := legible.colon
  exact ⟨spaces ++ t, by rw [eq]; rfl, by rw [skipSpace_append all, first]⟩

theorem delimited_comma (t : Text) : Delimited (style.comma ++ t) := by
  obtain ⟨spaces, eq, -⟩ := legible.comma
  rw [eq]
  intro c mem
  cases mem
  exact .inl rfl

theorem delimited_moreItems (ds : List Document) (rest : Text) :
    Delimited (Document.moreItems style ds ++ rest) := by
  cases ds with
  | nil =>
    intro c mem
    cases mem
    exact .inr (.inl rfl)
  | cons d ds =>
    rw [Document.moreItems, List.append_assoc]
    exact delimited_comma legible _

theorem delimited_moreMembers (ms : List (Text × Document)) (rest : Text) :
    Delimited (Document.moreMembers style ms ++ rest) := by
  cases ms with
  | nil =>
    intro c mem
    cases mem
    exact .inr (.inr rfl)
  | cons m ms =>
    rw [Document.moreMembers, List.append_assoc]
    exact delimited_comma legible _

/-- A member is read, and then the end of the object or another member. -/
theorem readMembers_of_member {name more : Text} {d : Document} (read : List (Text × Document))
    (value : readValue rules fuel depth (t ++ more) = .ok (d, more)) (enough : name.length ≤ fuel) :
    (∀ rest, more = 125 :: rest →
      readMembers rules (fuel + 1) depth read (style.quoted name ++ (style.colon ++ (t ++ more))) =
        .ok (.object (Document.mergeMembers ((text name, d) :: read).reverse), rest)) ∧
    ∀ u, more = 44 :: u →
      readMembers rules (fuel + 1) depth read (style.quoted name ++ (style.colon ++ (t ++ more))) =
        readMembers rules fuel depth ((text name, d) :: read) (skipSpace u) := by
  obtain ⟨u, colon, next⟩ := skipSpace_colon legible (skipSpace_of_readValue value)
  have quoted : style.quoted name ++ (style.colon ++ (t ++ more)) =
      34 :: (name.flatMap style.escaped ++ 34 :: (58 :: u)) := by
    rw [JsonStyle.quoted, colon]
    simp
  have read_name := legible.text name (34 :: (name.flatMap style.escaped ++ 34 :: (58 :: u))) fuel
    (58 :: u) enough
  have no_space : ∀ {c : CodePoint} {u : Text}, c = 58 ∨ c = 125 ∨ c = 44 →
      skipSpace (c :: u) = c :: u := fun sign => by
    obtain rfl | rfl | rfl := sign <;> exact skipSpace_cons rfl _
  refine ⟨?_, ?_⟩ <;>
  · rintro v rfl
    rw [quoted, readMembers.eq_def]
    simp only [read_name, no_space, next, value, true_or, or_true]

/-! ### Documents -/

omit legible in
theorem length_lt_quoted (style : JsonStyle) (t : Text) :
    t.length + 1 < (style.quoted t).length := by
  have each : ∀ c, 1 ≤ (style.escaped c).length := fun c => by
    generalize style.escaped c = u, style.writes_escaped c = writes
    cases writes with
    | plain => exact Nat.le_refl _
    | letter => exact Nat.le_succ _
    | unit => exact Nat.le_add_left _ _
    | pair => exact Nat.le_add_left _ _
  have escaped : t.length ≤ (t.flatMap style.escaped).length := by
    induction t with
    | nil => exact Nat.le_refl _
    | cons c t ih =>
      have := each c
      rw [List.flatMap_cons, List.length_append, List.length_cons]
      omega
  simp only [JsonStyle.quoted, List.cons_append, List.length_cons, List.length_append,
    List.length_nil]
  omega

theorem length_comma : 0 < style.comma.length := by
  obtain ⟨spaces, comma, -⟩ := legible.comma
  simp [comma]

theorem length_moreItems (ds : List Document) : 0 < (Document.moreItems style ds).length := by
  obtain ⟨spaces, comma, -⟩ := legible.comma
  cases ds <;> simp [Document.moreItems, comma]

theorem length_moreMembers (ms : List (Text × Document)) :
    0 < (Document.moreMembers style ms).length := by
  obtain ⟨spaces, comma, -⟩ := legible.comma
  cases ms <;> simp [Document.moreMembers, comma]

omit legible in
/-- Behind its bracket, an array is read by its items. -/
theorem readValue_array {r : Document × Text} (item : readValue rules fuel depth t = .ok r) :
    readValue rules (fuel + 2) (depth + 1) (91 :: t) = readItems rules (fuel + 1) depth [] t := by
  obtain ⟨c, u, rfl, no_space, no_end⟩ := exists_cons_of_readValue item
  rw [readValue.eq_def]
  dsimp only
  rw [if_neg (by decide), if_neg (by decide), if_pos rfl, skipSpace_cons no_space]
  split
  · next same => exact absurd (List.cons.inj same).1 no_end
  · rfl

omit legible in
/-- Behind its brace, an object is read by its members. -/
theorem readValue_object (t : Text) :
    readValue rules (fuel + 1) (depth + 1) (123 :: 34 :: t) =
      readMembers rules fuel depth [] (34 :: t) := by
  rfl

-- By induction on the document. The reader spends its fuel on what is around a value, and the text
-- is longer by that: so what is left is enough for the text of the value.
mutual

/-- The text of a document is read up to its end. -/
theorem readValue_spelled :
    (d : Document) → {fuel depth : Nat} → {rest : Text} → d.MadeOf (fun _ => True) Short depth →
      (d.spelled style).length < fuel → Delimited rest →
        readValue rules fuel depth (d.spelled style ++ rest) = .ok (d.echo number text, rest)
  | .null, _, _, _, _, enough, delimited =>
    reads_constant rules (.head _) _ _ _ enough delimited
  | .bool true, _, _, _, _, enough, delimited =>
    reads_constant rules (.tail _ (.head _)) _ _ _ enough delimited
  | .bool false, _, _, _, _, enough, delimited =>
    reads_constant rules (.tail _ (.tail _ (.head _))) _ _ _ enough delimited
  | .int n, _, _, _, short, enough, delimited =>
    reads_numeral rules (numeral_ofInt short) _ _ _ enough delimited
  | .float d, _, _, _, _, enough, delimited => legible.number d _ _ _ enough delimited
  | .text t, fuel, depth, rest, _, enough, _ => by
    have longer := length_lt_quoted style t
    obtain ⟨fuel, rfl⟩ := Nat.exists_eq_add_of_le' (Nat.zero_lt_of_lt enough)
    have read := legible.text t (34 :: (t.flatMap style.escaped ++ 34 :: rest)) fuel rest
      (by rw [Document.spelled] at enough; omega)
    simp [Document.spelled, JsonStyle.quoted, readValue, read, Document.echo, Except.map]
  | .array [], fuel, depth + 1, rest, _, enough, _ => by
    obtain ⟨fuel, rfl⟩ := Nat.exists_eq_add_of_le' (Nat.zero_lt_of_lt enough)
    rfl
  | .array (d :: ds), fuel, depth + 1, rest, made, enough, _ => by
    have more := length_moreItems legible ds
    simp only [Document.spelled, List.length_cons, List.length_append] at enough
    obtain ⟨fuel, rfl⟩ := Nat.exists_eq_add_of_le' (show 2 ≤ fuel by omega)
    have item : readValue rules fuel depth _ = _ :=
      readValue_spelled d made.1 (by omega) (delimited_moreItems legible ds rest)
    rw [Document.spelled, List.cons_append, List.append_assoc, readValue_array item,
      readItems_spelled ds made.2 (by omega) item]
    rfl
  | .object [], fuel, depth + 1, rest, _, enough, _ => by
    obtain ⟨fuel, rfl⟩ := Nat.exists_eq_add_of_le' (Nat.zero_lt_of_lt enough)
    rfl
  | .object ((name, d) :: ms), fuel, depth + 1, rest, made, enough, _ => by
    have more := length_moreMembers legible ms
    have longer := length_lt_quoted style name
    simp only [Document.spelled, List.length_cons, List.length_append] at enough
    obtain ⟨fuel, rfl⟩ := Nat.exists_eq_add_of_le' (show 2 ≤ fuel by omega)
    have value : readValue rules fuel depth _ = _ :=
      readValue_spelled d made.2.1 (by omega) (delimited_moreMembers legible ms rest)
    have short : name.length ≤ fuel := by omega
    rw [Document.spelled, List.cons_append, List.append_assoc, List.append_assoc, List.append_assoc,
      JsonStyle.quoted, List.cons_append, List.cons_append, readValue_object]
    exact readMembers_spelled ms made.2.2 (by omega) short value
termination_by structural d => d

/-- Behind an item, the further ones are read up to the end of the array. -/
theorem readItems_spelled :
    (ds : List Document) → {fuel depth : Nat} → {rest t : Text} → {e : Document} →
      {read : List Document} → Document.ItemsMadeOf (fun _ => True) Short depth ds →
      (Document.moreItems style ds).length ≤ fuel →
      readValue rules fuel depth (t ++ (Document.moreItems style ds ++ rest)) =
        .ok (e, Document.moreItems style ds ++ rest) →
      readItems rules (fuel + 1) depth read (t ++ (Document.moreItems style ds ++ rest)) =
        .ok (.array (read.reverse ++ e :: Document.echoItems number text ds), rest)
  | [], fuel, depth, rest, t, e, read, _, _, value => by
    rw [(readItems_of_item read value).1 rest rfl, List.reverse_cons]
    rfl
  | d :: ds, fuel, depth, rest, t, e, read, made, enough, value => by
    have more := length_moreItems legible ds
    have comma := length_comma legible
    simp only [Document.moreItems, List.length_append] at enough
    obtain ⟨fuel, rfl⟩ := Nat.exists_eq_add_of_le' (show 1 ≤ fuel by omega)
    have item : readValue rules fuel depth _ = _ :=
      readValue_spelled d made.1 (by omega) (delimited_moreItems legible ds rest)
    obtain ⟨u, separated, next⟩ := skipSpace_comma legible (skipSpace_of_readValue item)
    have again := (readItems_of_item read value).2 u (by
      rw [Document.moreItems, List.append_assoc, List.append_assoc, separated])
    rw [again, next, readItems_spelled ds made.2 (by omega) item, List.reverse_cons,
      List.append_assoc]
    rfl
termination_by structural ds => ds

/-- Behind a member, the further ones are read up to the end of the object. -/
theorem readMembers_spelled :
    (ms : List (Text × Document)) → {fuel depth : Nat} → {rest name t : Text} → {e : Document} →
      {read : List (Text × Document)} →
      Document.MembersMadeOf (fun _ => True) Short depth ms →
      (Document.moreMembers style ms).length ≤ fuel → name.length ≤ fuel →
      readValue rules fuel depth (t ++ (Document.moreMembers style ms ++ rest)) =
        .ok (e, Document.moreMembers style ms ++ rest) →
      readMembers rules (fuel + 1) depth read
          (style.quoted name ++ (style.colon ++ (t ++ (Document.moreMembers style ms ++ rest)))) =
        .ok (.object (Document.mergeMembers
          (read.reverse ++ (text name, e) :: Document.echoMembers number text ms)), rest)
  | [], fuel, depth, rest, name, t, e, read, _, _, short, value => by
    rw [(readMembers_of_member legible read value short).1 rest rfl, List.reverse_cons]
    rfl
  | (name', d) :: ms, fuel, depth, rest, name, t, e, read, made, enough, short, value => by
    have more := length_moreMembers legible ms
    have comma := length_comma legible
    have longer := length_lt_quoted style name'
    simp only [Document.moreMembers, List.length_append] at enough
    obtain ⟨fuel, rfl⟩ := Nat.exists_eq_add_of_le' (show 1 ≤ fuel by omega)
    have value' : readValue rules fuel depth _ = _ :=
      readValue_spelled d made.2.1 (by omega) (delimited_moreMembers legible ms rest)
    have first : ∀ u, skipSpace (style.quoted name' ++ u) = style.quoted name' ++ u :=
      fun u => skipSpace_cons rfl _
    obtain ⟨u, separated, next⟩ := skipSpace_comma legible (first _)
    have again := (readMembers_of_member legible read value short).2 u (by
      simp only [Document.moreMembers, List.append_assoc]
      exact separated)
    rw [again, next, readMembers_spelled ms made.2.2 (by omega) (by omega) value',
      List.reverse_cons, List.append_assoc]
    rfl
termination_by structural ms => ms

end

omit legible in
/-- Without any text nothing is read. -/
theorem exists_cons_of_read {d : Document} (read : Json.read rules t = .ok d) :
    ∃ c u, t = c :: u := by
  cases t with
  | nil => cases read
  | cons c u => exact ⟨c, u, rfl⟩

/-- What is written is read, and nothing is left of it. -/
theorem read_render {d : Document} (made : d.MadeOf (fun _ => True) Short rules.depth) :
    read rules (d.render style) = .ok (d.echo number text) := by
  have value : readValue rules (2 * (d.spelled style).length + 2) rules.depth
      (d.spelled style ++ []) = _ :=
    readValue_spelled legible d made (by omega) (by simp [Delimited])
  rw [List.append_nil] at value
  rw [Document.render_eq, read, skipSpace_of_readValue value, value]
  rfl

end Legible

end Json

namespace JsonStyle

/-- As reports are written, every text is read as it was. -/
theorem legible_wire (rules : JsonRules) : ∃ number, wire.Legible rules number id := by
  obtain ⟨number, reads⟩ := Classical.axiomOfChoice (Json.exists_reads_finiteOrNull rules)
  exact ⟨number, ⟨[], rfl, nofun⟩, ⟨[], rfl, nofun⟩, reads, fun t start fuel rest enough =>
    Json.readText_quoted t (fun _ _ ascii => absurd ascii Bool.false_ne_true) enough rest⟩

section Ascii

variable {rules : JsonRules} (lone : rules.loneSurrogates = true)

include lone

/-- As everything else is written, a text is read with its surrogates joined. -/
theorem legible_compact : ∃ number, compact.Legible rules number Text.joined := by
  obtain ⟨number, reads⟩ := Classical.axiomOfChoice (Json.exists_reads_named rules)
  exact ⟨number, ⟨[], rfl, nofun⟩, ⟨[], rfl, nofun⟩, reads, fun t start fuel rest enough =>
    Json.readText_quoted_ascii rfl lone t enough rest⟩

theorem legible_spaced : ∃ number, spaced.Legible rules number Text.joined := by
  obtain ⟨number, reads⟩ := Classical.axiomOfChoice (Json.exists_reads_named rules)
  exact ⟨number, ⟨[32], rfl, by simp [Json.isSpace]⟩, ⟨[32], rfl, by simp [Json.isSpace]⟩, reads,
    fun t start fuel rest enough => Json.readText_quoted_ascii rfl lone t enough rest⟩

end Ascii

end JsonStyle

namespace Document

/-! ## Members of different names -/

theorem insertMember_of_new {ms : List (Text × Document)} {name : Text}
    (new : name ∉ ms.map Prod.fst) (d : Document) : insertMember ms name d = ms ++ [(name, d)] := by
  refine if_neg fun known => new ?_
  obtain ⟨m, mem, same⟩ := List.any_eq_true.1 known
  exact of_decide_eq_true same ▸ List.mem_map_of_mem mem

/-- Members of different names are left as they are. -/
theorem mergeMembers_of_nodup {ms : List (Text × Document)} (distinct : (ms.map Prod.fst).Nodup) :
    mergeMembers ms = ms := by
  have behind : ∀ merged : List (Text × Document), ((merged ++ ms).map Prod.fst).Nodup →
      ms.foldl (fun merged m => insertMember merged m.1 m.2) merged = merged ++ ms := by
    clear distinct
    induction ms with
    | nil => exact fun merged _ => (List.append_nil merged).symm
    | cons m ms ih =>
      intro merged distinct
      have new : m.1 ∉ merged.map Prod.fst := fun mem => by
        rw [List.map_append] at distinct
        exact List.disjoint_of_nodup_append distinct mem List.mem_cons_self
      rw [List.foldl_cons, insertMember_of_new new, ih _ (by simpa using distinct),
        List.append_assoc, List.singleton_append]
  exact behind [] distinct

end Document

end InvokeWorker
