import InvokeWorker.Proofs.JsonEcho

/-!
# The grammar of JSON

The grammar of RFC 8259 says which texts are JSON: for each of its symbols, what the texts are made
of that stand for it (`Json.Derives`). White space may stand before and behind every value and every
name of a member. What is let pass there is a parameter, so the grammar is at once that of all JSON
texts (`Json.IsText`) and that of those without any white space between the tokens
(`Json.IsDense`).

* `Document.isDense_render`: a document whose numbers are finite is written compactly as a JSON text
  without white space.
* `Document.isText_render_iff`: of any other document what is written is no JSON text, since the
  grammar knows no name for an infinity or for what is no number. That these names are in the text
  is seen by passing over all that stands in quotes (`Json.unquoted`).
-/

namespace InvokeWorker

namespace Json

/-! ## Tokens -/

/-- Nothing, or the letter `e` in either case, a sign, if any, and at least one digit. -/
inductive IsPower : Text → Prop
  /-- No exponent. -/
  | none : IsPower []
  /-- An exponent. -/
  | some {letter : CodePoint} {sign ds : Text} : letter = 101 ∨ letter = 69 →
    sign = [] ∨ sign = [43] ∨ sign = [45] → ds ≠ [] → AllDigits ds →
    IsPower (letter :: (sign ++ ds))

/-- A number. -/
inductive IsNumber : Text → Prop
  /-- A sign, if any, the whole part, the fraction and the exponent. -/
  | parts (negative : Bool) {w f e : Text} : IsWhole w → IsFraction f → IsPower e →
    IsNumber (signed negative ++ (w ++ (f ++ e)))

/-- What may stand between quotation marks. -/
inductive AreCharacters : Text → Prop
  /-- Nothing. -/
  | none : AreCharacters []
  /-- A code point that needs no escape. -/
  | plain {c : CodePoint} {t : Text} : 32 ≤ c.val → c ≠ 34 → c ≠ 92 → AreCharacters t →
    AreCharacters (c :: t)
  /-- A backslash and a letter. -/
  | letter {c : CodePoint} {t : Text} : c ∈ ([34, 92, 47, 98, 102, 110, 114, 116] : Text) →
    AreCharacters t → AreCharacters (92 :: c :: t)
  /-- A backslash, the letter `u` and four hexadecimal digits. -/
  | unit {ds t : Text} : ds.length = 4 → (∀ d ∈ ds, d.hexDigit?.isSome = true) →
    AreCharacters t → AreCharacters (92 :: 117 :: (ds ++ t))

/-- A string. -/
inductive IsString : Text → Prop
  /-- Characters between quotation marks. -/
  | quoted {t : Text} : AreCharacters t → IsString (34 :: (t ++ [34]))

/-! ## Texts -/

/-- What a part of a JSON text can be. -/
inductive Symbol where
  /-- A value. -/
  | value
  /-- A value with the white space around it. -/
  | element
  /-- Elements with a comma between neighbours, at least one. -/
  | elements
  /-- A name and an element, with a colon between them. -/
  | member
  /-- Members with a comma between neighbours, at least one. -/
  | members
  deriving DecidableEq, Repr

/-- The texts that stand for a symbol; `gap` says what may stand between tokens. -/
inductive Derives (gap : Text → Prop) : Symbol → Text → Prop
  /-- One of the three names. -/
  | constant {t : Text} : t ∈ (["null", "true", "false"] : List Text) → Derives gap .value t
  /-- A number. -/
  | number {t : Text} : IsNumber t → Derives gap .value t
  /-- A string. -/
  | string {t : Text} : IsString t → Derives gap .value t
  /-- An array without items. -/
  | emptyArray {g : Text} : gap g → Derives gap .value (91 :: (g ++ [93]))
  /-- An array. -/
  | array {t : Text} : Derives gap .elements t → Derives gap .value (91 :: (t ++ [93]))
  /-- An object without members. -/
  | emptyObject {g : Text} : gap g → Derives gap .value (123 :: (g ++ [125]))
  /-- An object. -/
  | object {t : Text} : Derives gap .members t → Derives gap .value (123 :: (t ++ [125]))
  /-- A value with white space around it. -/
  | element {g t g' : Text} : gap g → Derives gap .value t → gap g' →
    Derives gap .element (g ++ (t ++ g'))
  /-- The last element. -/
  | lastElement {t : Text} : Derives gap .element t → Derives gap .elements t
  /-- An element in front of others. -/
  | moreElements {t u : Text} : Derives gap .element t → Derives gap .elements u →
    Derives gap .elements (t ++ 44 :: u)
  /-- A name with white space around it, and its value. -/
  | member {g s g' t : Text} : gap g → IsString s → gap g' → Derives gap .element t →
    Derives gap .member (g ++ (s ++ (g' ++ 58 :: t)))
  /-- The last member. -/
  | lastMember {t : Text} : Derives gap .member t → Derives gap .members t
  /-- A member in front of others. -/
  | moreMembers {t u : Text} : Derives gap .member t → Derives gap .members u →
    Derives gap .members (t ++ 44 :: u)

/-- A JSON text: a value, with white space around its tokens. -/
def IsText (t : Text) : Prop :=
  Derives (fun g => ∀ c ∈ g, isSpace c = true) .element t

/-- A JSON text without white space between its tokens. -/
def IsDense (t : Text) : Prop :=
  Derives (· = []) .element t

variable {gap : Text → Prop} {c : CodePoint} {t u : Text}

theorem Derives.bare (empty : gap []) (value : Derives gap .value t) : Derives gap .element t := by
  have element := Derives.element empty value empty
  rwa [List.append_nil, List.nil_append] at element

/-! ## What is written -/

theorem IsExponent.isPower {e : Text} (exponent : IsExponent e) : IsPower e := by
  cases exponent with
  | none => exact .none
  | some signs some_digit digits => exact .some (.inl rfl) signs some_digit digits

theorem isNumber_of_isDecimal (decimal : IsDecimal t) (negative : Bool) :
    IsNumber (signed negative ++ t) := by
  obtain ⟨w, f, e, whole, fraction, exponent, -, rfl⟩ := decimal
  exact .parts negative whole fraction exponent.isPower

theorem isNumber_ofInt (n : Int) : IsNumber (Text.ofInt n) := by
  have number : ∀ negative m, IsNumber (signed negative ++ Text.ofNat m) := fun negative m => by
    have parts := IsNumber.parts negative (isWhole_ofNat m) .none .none
    rwa [List.append_nil, List.append_nil] at parts
  cases n with
  | ofNat n => exact number false n
  | negSucc n => exact number true (n + 1)

theorem isNumber_named (negative : Bool) (m : Nat) (e : Int) :
    IsNumber (JsonStyle.named (.finite negative m e)) :=
  isNumber_of_isDecimal (isDecimal_magnitude (.inr rfl) m e) negative

theorem areCharacters_escapedUnit {n : Nat} (small : n < 0x10000) (rest : AreCharacters t) :
    AreCharacters (JsonStyle.escapedUnit n ++ t) := by
  have digit : ∀ {d : Nat}, d < 16 → (CodePoint.ofDigit d).hexDigit?.isSome = true := fun less => by
    rw [CodePoint.hexDigit?_ofDigit less]
    rfl
  have unit : AreCharacters (92 :: 117 :: (Text.hex 4 n ++ t)) := by
    rw [Text.hex_eq small]
    refine .unit rfl (fun d mem => ?_) rest
    simp only [List.mem_cons, List.not_mem_nil, or_false] at mem
    obtain rfl | rfl | rfl | rfl := mem <;> exact digit (by omega)
  exact unit

/-- A code point is written as characters of a string. -/
theorem areCharacters_escaped (style : JsonStyle) (c : CodePoint) (rest : AreCharacters t) :
    AreCharacters (style.escaped c ++ t) := by
  have written := style.writes_escaped c
  generalize style.escaped c = escaped at written ⊢
  cases written with
  | plain no_quote no_backslash visible =>
    exact .plain (Nat.not_lt.1 visible) no_quote no_backslash rest
  | @letter e no_unit letter =>
    refine .letter ?_ rest
    rw [simpleEscape?] at letter
    split at letter
    · next known => rcases known with rfl | rfl | rfl <;> simp
    iterate 5
      split at letter
      · next known => simp [known]
    · cases letter
  | unit small => exact areCharacters_escapedUnit small rest
  | pair from_high to_high from_low to_low =>
    rw [List.append_assoc]
    exact areCharacters_escapedUnit (by omega) (areCharacters_escapedUnit (by omega) rest)

theorem isString_quoted (style : JsonStyle) (t : Text) : IsString (style.quoted t) := by
  have characters : AreCharacters (t.flatMap style.escaped) := by
    induction t with
    | nil => exact .none
    | cons c t ih => exact areCharacters_escaped style c ih
  exact .quoted characters

end Json

/-! ## Finite documents -/

/-- The number is neither an infinity nor what is no number. -/
def Double.IsFinite : Double → Prop
  | .finite .. => True
  | _ => False

mutual

/-- Every number in the document is finite. -/
def Document.IsFinite : Document → Prop
  | .float d => d.IsFinite
  | .array ds => Document.ItemsFinite ds
  | .object ms => Document.MembersFinite ms
  | _ => True
termination_by structural d => d

/-- So is every number in the items of an array. -/
def Document.ItemsFinite : List Document → Prop
  | [] => True
  | d :: ds => d.IsFinite ∧ Document.ItemsFinite ds
termination_by structural ds => ds

/-- So is every number in the members of an object. -/
def Document.MembersFinite : List (Text × Document) → Prop
  | [] => True
  | (_, d) :: ms => d.IsFinite ∧ Document.MembersFinite ms
termination_by structural ms => ms

end

namespace Document

open Json

section Derives

variable {gap : Text → Prop} (empty : gap [])

include empty

mutual

theorem derives_spelled : (d : Document) → d.IsFinite → Derives gap .value (d.spelled .compact)
  | .null, _ => .constant (by simp [spelled])
  | .bool true, _ => .constant (by simp [spelled])
  | .bool false, _ => .constant (by simp [spelled])
  | .int n, _ => .number (isNumber_ofInt n)
  | .float (.finite negative m e), _ => .number (isNumber_named negative m e)
  | .text t, _ => .string (isString_quoted .compact t)
  | .array [], _ => .emptyArray empty
  | .array (d :: ds), finite => by
    obtain ⟨t, elements, text⟩ :=
      derives_moreItems ds finite.2 ((derives_spelled d finite.1).bare empty)
    rw [spelled, text]
    exact .array elements
  | .object [], _ => .emptyObject empty
  | .object ((name, d) :: ms), finite => by
    have member := Derives.member empty (isString_quoted .compact name) empty
      ((derives_spelled d finite.1).bare empty)
    obtain ⟨t, members, text⟩ := derives_moreMembers ms finite.2 member
    have same : (Document.object ((name, d) :: ms)).spelled .compact = 123 :: (t ++ [125]) := by
      rw [← text, spelled]
      simp [JsonStyle.compact]
      rfl
    rw [same]
    exact .object members
termination_by structural d => d

/-- Further items go on behind elements, up to the end of the array. -/
theorem derives_moreItems : (ds : List Document) → ItemsFinite ds → {u : Text} →
    Derives gap .element u →
      ∃ t, Derives gap .elements t ∧ u ++ moreItems .compact ds = t ++ [93]
  | [], _, u, element => ⟨u, .lastElement element, rfl⟩
  | d :: ds, finite, u, element => by
    obtain ⟨t, elements, text⟩ :=
      derives_moreItems ds finite.2 ((derives_spelled d finite.1).bare empty)
    refine ⟨u ++ 44 :: t, .moreElements element elements, ?_⟩
    rw [moreItems, text]
    simp [JsonStyle.compact]
    rfl
termination_by structural ds => ds

theorem derives_moreMembers : (ms : List (Text × Document)) → MembersFinite ms → {u : Text} →
    Derives gap .member u →
      ∃ t, Derives gap .members t ∧ u ++ moreMembers .compact ms = t ++ [125]
  | [], _, u, member => ⟨u, .lastMember member, rfl⟩
  | (name, d) :: ms, finite, u, member => by
    have next := Derives.member empty (isString_quoted .compact name) empty
      ((derives_spelled d finite.1).bare empty)
    obtain ⟨t, members, text⟩ := derives_moreMembers ms finite.2 next
    refine ⟨u ++ 44 :: t, .moreMembers member members, ?_⟩
    rw [List.append_assoc, List.cons_append, ← text, moreMembers]
    simp [JsonStyle.compact]
    rfl
termination_by structural ms => ms

end

end Derives

/-- What is written of a finite document is a JSON text without white space. -/
theorem isDense_render {d : Document} (finite : d.IsFinite) : IsDense (d.render .compact) := by
  rw [render_eq]
  exact (@derives_spelled (· = []) rfl d finite).bare rfl

/-- What is written of a finite document is a JSON text. -/
theorem isText_render {d : Document} (finite : d.IsFinite) : IsText (d.render .compact) := by
  have empty : ∀ c ∈ ([] : Text), isSpace c = true := nofun
  rw [render_eq]
  exact (derives_spelled empty d finite).bare empty

end Document

/-! ## What stands outside quotes -/

namespace Json

/-- Where in a text one is. -/
inductive Place where
  /-- Outside quotes. -/
  | outside
  /-- Within quotes. -/
  | inside
  /-- Within quotes and right behind a backslash. -/
  | escaped
  deriving DecidableEq, Repr

/-- The code points outside quotes. -/
def unquoted : Place → Text → Text
  | _, [] => []
  | .outside, c :: t => if c = 34 then unquoted .inside t else c :: unquoted .outside t
  | .inside, c :: t =>
    if c = 34 then unquoted .outside t
    else if c = 92 then unquoted .escaped t
    else unquoted .inside t
  | .escaped, _ :: t => unquoted .inside t

/-- All quotes in the text are closed, and what it has outside them is the other text. -/
def Skims (t u : Text) : Prop :=
  ∀ rest, unquoted .outside (t ++ rest) = u ++ unquoted .outside rest

/-- Outside quotes the text has neither of the letters the numbers that are not finite begin with,
    behind their sign. -/
def Nameless (t : Text) : Prop :=
  ∃ u, Skims t u ∧ u.Only fun c => c ≠ 73 ∧ c ≠ 78

/-- All quotes in the text are closed, and it has one of these letters outside them unless the
    statement holds. -/
def Tells (P : Prop) (t : Text) : Prop :=
  ∃ u, Skims t u ∧ ((u.Only fun c => c ≠ 73 ∧ c ≠ 78) → P)

variable {gap : Text → Prop} {t u t' u' : Text}

theorem Skims.append (skims : Skims t u) (skims' : Skims t' u') : Skims (t ++ t') (u ++ u') := by
  intro rest
  rw [List.append_assoc, skims, skims', List.append_assoc]

theorem skims_self (unquoted : t.Only (· ≠ 34)) : Skims t t := by
  intro rest
  induction t with
  | nil => rfl
  | cons c t ih =>
    rw [Text.only_cons] at unquoted
    rw [List.cons_append, Json.unquoted, if_neg unquoted.1, ih unquoted.2, List.cons_append]

theorem skims_literal (no_quote : t.contains 34 = false) : Skims t t :=
  skims_self fun c mem quote => by simp [quote ▸ mem] at no_quote

theorem Skims.eq (skims : Skims t u) (skims' : Skims t u') : u = u' := by
  have same := (skims []).symm.trans (skims' [])
  simpa only [unquoted, List.append_nil] using same

theorem Tells.of_nameless {P : Prop} (tells : Tells P t) (nameless : Nameless t) : P := by
  obtain ⟨u, skims, told⟩ := tells
  obtain ⟨u', skims', none⟩ := nameless
  exact told (skims.eq skims' ▸ none)

theorem Nameless.append (first : Nameless t) (second : Nameless t') : Nameless (t ++ t') := by
  obtain ⟨u, skims, none⟩ := first
  obtain ⟨u', skims', none'⟩ := second
  exact ⟨u ++ u', skims.append skims', Text.only_append.2 ⟨none, none'⟩⟩

theorem nameless_of_only (only : t.Only fun c => c ≠ 34 ∧ c ≠ 73 ∧ c ≠ 78) : Nameless t :=
  ⟨t, skims_self fun c mem => (only c mem).1, fun c mem => (only c mem).2⟩

theorem unquoted_characters (characters : AreCharacters t) (rest : Text) :
    unquoted .inside (t ++ 34 :: rest) = unquoted .outside rest := by
  induction characters with
  | none => rfl
  | plain _ no_quote no_backslash _ ih =>
    rwa [List.cons_append, unquoted, if_neg no_quote, if_neg no_backslash]
  | letter _ _ ih => exact ih
  | @unit ds t _ digits _ ih =>
    -- Digits leave the quotes as they are.
    suffices still : ∀ {ds : Text}, (∀ d ∈ ds, d.hexDigit?.isSome = true) →
        unquoted .inside (ds ++ (t ++ 34 :: rest)) = unquoted .outside rest by
      rw [← still digits, List.cons_append, List.cons_append, List.append_assoc]
      rfl
    intro ds digits
    induction ds with
    | nil => exact ih
    | cons d ds ih =>
      have digit := digits d List.mem_cons_self
      have no_quote : d ≠ 34 := by rintro rfl; cases digit
      have no_backslash : d ≠ 92 := by rintro rfl; cases digit
      rw [List.cons_append, unquoted, if_neg no_quote, if_neg no_backslash]
      exact ih fun d mem => digits d (List.mem_cons_of_mem _ mem)

theorem IsString.skims (string : IsString t) : Skims t [] := by
  obtain ⟨characters⟩ := string
  intro rest
  rw [List.cons_append, List.append_assoc]
  exact unquoted_characters characters rest

theorem AllDigits.only (digits : AllDigits t) : t.Only fun c => c ≠ 34 ∧ c ≠ 73 ∧ c ≠ 78 := by
  intro c mem
  have digit := digits c mem
  refine ⟨?_, ?_, ?_⟩ <;> · rintro rfl; cases digit

theorem IsNumber.nameless (number : IsNumber t) : Nameless t := by
  obtain ⟨negative, whole, fraction, power⟩ := number
  have sign : (signed negative).Only fun c => c ≠ 34 ∧ c ≠ 73 ∧ c ≠ 78 := by
    cases negative <;> simp [signed]
  refine nameless_of_only (Text.only_append.2 ⟨sign, Text.only_append.2 ⟨?_, Text.only_append.2
    ⟨?_, ?_⟩⟩⟩)
  · cases whole with
    | zero => simp
    | digits _ digits => exact digits.only
  · cases fraction with
    | none => simp
    | some _ digits => exact Text.only_cons.2 ⟨by decide, digits.only⟩
  · cases power with
    | none => simp
    | some letters signs _ digits =>
      refine Text.only_cons.2 ⟨?_, Text.only_append.2 ⟨?_, digits.only⟩⟩
      · obtain rfl | rfl := letters <;> decide
      · obtain rfl | rfl | rfl := signs <;> simp

theorem Nameless.between {c c' : CodePoint} (nameless : Nameless t)
    (first : c ≠ 34 ∧ c ≠ 73 ∧ c ≠ 78) (last : c' ≠ 34 ∧ c' ≠ 73 ∧ c' ≠ 78) :
    Nameless (c :: (t ++ [c'])) :=
  (nameless_of_only (Text.only_cons.2 ⟨first, Text.only_nil⟩)).append
    (nameless.append (nameless_of_only (Text.only_cons.2 ⟨last, Text.only_nil⟩)))

theorem Nameless.around {c : CodePoint} (first : Nameless t) (other : c ≠ 34 ∧ c ≠ 73 ∧ c ≠ 78)
    (second : Nameless t') : Nameless (t ++ c :: t') :=
  first.append ((nameless_of_only (Text.only_cons.2 ⟨other, Text.only_nil⟩)).append second)

/-- No symbol of the grammar has one of these letters outside quotes. -/
theorem Derives.nameless (gaps : ∀ g, gap g → g.Only fun c => c ≠ 34 ∧ c ≠ 73 ∧ c ≠ 78)
    {symbol : Symbol} (derives : Derives gap symbol t) : Nameless t := by
  induction derives with
  | @constant t constant =>
    have others : t.all (fun c => c ≠ 34 ∧ c ≠ 73 ∧ c ≠ 78) = true := by
      simp only [List.mem_cons, List.not_mem_nil, or_false] at constant
      obtain rfl | rfl | rfl := constant <;> rfl
    exact nameless_of_only fun c mem => of_decide_eq_true (List.all_eq_true.1 others c mem)
  | number number => exact number.nameless
  | string string => exact ⟨[], string.skims, Text.only_nil⟩
  | emptyArray empty => exact (nameless_of_only (gaps _ empty)).between (by decide) (by decide)
  | array _ ih => exact ih.between (by decide) (by decide)
  | emptyObject empty => exact (nameless_of_only (gaps _ empty)).between (by decide) (by decide)
  | object _ ih => exact ih.between (by decide) (by decide)
  | element before _ behind ih =>
    exact (nameless_of_only (gaps _ before)).append (ih.append (nameless_of_only (gaps _ behind)))
  | lastElement _ ih => exact ih
  | moreElements _ _ ih ih' => exact ih.around (by decide) ih'
  | member before string behind _ ih =>
    have name : Nameless _ := ⟨[], string.skims, Text.only_nil⟩
    exact (nameless_of_only (gaps _ before)).append
      (name.append ((nameless_of_only (gaps _ behind)).around (by decide) ih))
  | lastMember _ ih => exact ih
  | moreMembers _ _ ih ih' => exact ih.around (by decide) ih'

theorem IsText.nameless (text : IsText t) : Nameless t := by
  refine Derives.nameless (fun g spaces c mem => ?_) text
  have space := spaces c mem
  refine ⟨?_, ?_, ?_⟩ <;> · rintro rfl; cases space

/-! ## Documents that are not finite -/

theorem Tells.append {P Q : Prop} (first : Tells P t) (second : Tells Q t') :
    Tells (P ∧ Q) (t ++ t') := by
  obtain ⟨u, skims, told⟩ := first
  obtain ⟨u', skims', told'⟩ := second
  exact ⟨u ++ u', skims.append skims', fun none =>
    ⟨told (Text.only_append.1 none).1, told' (Text.only_append.1 none).2⟩⟩

theorem Tells.mono {P Q : Prop} (tells : Tells P t) (fewer : P → Q) : Tells Q t := by
  obtain ⟨u, skims, told⟩ := tells
  exact ⟨u, skims, fewer ∘ told⟩

theorem Skims.tells {P : Prop} (skims : Skims t u) (holds : P) : Tells P t :=
  ⟨u, skims, fun _ => holds⟩

/-- Something that is no quote in front changes nothing. -/
theorem Tells.cons {P : Prop} {c : CodePoint} (tells : Tells P t) (no_quote : c ≠ 34) :
    Tells P (c :: t) :=
  (((skims_self (Text.only_cons.2 ⟨no_quote, Text.only_nil⟩)).tells trivial).append tells).mono
    And.right

theorem tells_named (d : Double) : Tells d.IsFinite (JsonStyle.named d) := by
  have letter : ∀ {c : CodePoint} {t : Text} {P : Prop}, (c = 73 ∨ c = 78) →
      (c :: t).contains 34 = false → Tells P (c :: t) := by
    intro c t P letter no_quote
    refine ⟨c :: t, skims_literal no_quote, fun none => ?_⟩
    obtain ⟨not_i, not_n⟩ := (Text.only_cons.1 none).1
    exact absurd letter (not_or.2 ⟨not_i, not_n⟩)
  cases d with
  | nan => exact letter (.inr rfl) (rfl)
  | infinity negative =>
    have infinity : Tells (Double.infinity negative).IsFinite "Infinity" :=
      letter (.inl rfl) (rfl)
    cases negative with
    | false => exact infinity
    | true => exact infinity.cons (by decide)
  | finite negative m e =>
    obtain ⟨u, skims, -⟩ := (isNumber_named negative m e).nameless
    exact skims.tells trivial

end Json

namespace Document

open Json

mutual

theorem tells_spelled : (d : Document) → Tells d.IsFinite (d.spelled .compact)
  | .null => (skims_literal rfl).tells trivial
  | .bool true => (skims_literal rfl).tells trivial
  | .bool false => (skims_literal rfl).tells trivial
  | .int n => by
    obtain ⟨u, skims, -⟩ := (isNumber_ofInt n).nameless
    exact skims.tells trivial
  | .float d => tells_named d
  | .text t => (isString_quoted .compact t).skims.tells trivial
  | .array [] => (skims_literal rfl).tells trivial
  | .array (d :: ds) => ((tells_spelled d).append (tells_moreItems ds)).cons (by decide)
  | .object [] => (skims_literal rfl).tells trivial
  | .object ((name, d) :: ms) => by
    have name : Tells True (JsonStyle.compact.quoted name) :=
      (isString_quoted .compact name).skims.tells trivial
    have member := (tells_spelled d).append (tells_moreMembers ms)
    have rest := (name.append (member.cons (c := 58) (by decide))).cons (c := 123) (by decide)
    exact rest.mono And.right
termination_by structural d => d

theorem tells_moreItems : (ds : List Document) → Tells (ItemsFinite ds) (moreItems .compact ds)
  | [] => (skims_literal rfl).tells trivial
  | d :: ds => ((tells_spelled d).append (tells_moreItems ds)).cons (by decide)
termination_by structural ds => ds

theorem tells_moreMembers :
    (ms : List (Text × Document)) → Tells (MembersFinite ms) (moreMembers .compact ms)
  | [] => (skims_literal rfl).tells trivial
  | (name, d) :: ms => by
    have name : Tells True (JsonStyle.compact.quoted name) :=
      (isString_quoted .compact name).skims.tells trivial
    have member := (tells_spelled d).append (tells_moreMembers ms)
    have rest := (name.append (member.cons (c := 58) (by decide))).cons (c := 44) (by decide)
    exact rest.mono And.right
termination_by structural ms => ms

end

/-- What is written of a document is a JSON text exactly if the document is finite. -/
theorem isText_render_iff {d : Document} : IsText (d.render .compact) ↔ d.IsFinite := by
  refine ⟨fun text => ?_, isText_render⟩
  rw [render_eq] at text
  exact (tells_spelled d).of_nameless text.nameless

end Document

end InvokeWorker
