import InvokeWorker.Json.Writer
import InvokeWorker.Proofs.Utf8Codec

/-!
# What is written of a document

A document is made of texts, integers, and arrays and objects that are nested to some depth
(`Document.MadeOf`). Numbers are written in visible ASCII, and so is a text in a style that is kept
to it; in another style a text is written of its own code points, the control characters aside, and
of visible ASCII. So what is written of a document has no surrogate if there is none in its texts,
or is visible ASCII altogether (`Document.only_render`).
-/

namespace InvokeWorker

/-- All code points of the text are such. -/
def Text.Only (R : CodePoint → Prop) (t : Text) : Prop :=
  ∀ c ∈ t, R c

/-- There is no surrogate in the text. -/
abbrev Text.Scalar : Text → Prop :=
  Text.Only fun c => c.isSurrogate = false

/-- A code point of ASCII that is no control character. -/
def CodePoint.isVisible (c : CodePoint) : Bool :=
  32 ≤ c.val && c.val ≤ 126

/-- The text is of visible ASCII. -/
abbrev Text.Visible : Text → Prop :=
  Text.Only fun c => c.isVisible = true

/-- The text has neither a surrogate nor a control character of ASCII. -/
abbrev Text.Shown : Text → Prop :=
  Text.Only fun c => 32 ≤ c.val ∧ c.isSurrogate = false

namespace Text

variable {R : CodePoint → Prop} {t u : Text} {c : CodePoint}

theorem scalar_iff : t.Scalar ↔ t.hasSurrogate = false := by
  simp [Scalar, Only, hasSurrogate]

theorem visible_iff : t.Visible ↔ t.all CodePoint.isVisible = true := by
  simp [Visible, Only]

@[simp] theorem only_nil : Only R [] := nofun

@[simp] theorem only_cons : Only R (c :: t) ↔ R c ∧ Only R t := by
  simp [Only]

@[simp] theorem only_append : Only R (t ++ u) ↔ Only R t ∧ Only R u := by
  simp [Only, or_imp, forall_and]

@[simp] theorem only_reverse : Only R t.reverse ↔ Only R t := by
  simp [Only]

theorem only_reverseAux : Only R (t.reverseAux u) ↔ Only R t ∧ Only R u := by
  rw [List.reverseAux_eq, only_append, only_reverse]

theorem Only.mono (h : t.Only R) (fewer : ∀ c ∈ u, c ∈ t) : u.Only R :=
  fun c mem => h c (fewer c mem)

theorem only_replicate (n : Nat) (such : R c) : Only R (List.replicate n c) := by
  intro d mem
  rw [List.eq_of_mem_replicate mem]
  exact such

theorem only_join (separator : t.Only R) {ts : List Text} (all : ∀ u ∈ ts, Only R u) :
    Only R (join t ts) := by
  induction ts with
  | nil => exact only_nil
  | cons u ts ih =>
    cases ts with
    | nil => simpa [join] using all u
    | cons v ts =>
      have rest := ih fun u mem => all u (List.mem_cons_of_mem _ mem)
      have joined : join t (u :: v :: ts) = u ++ t ++ join t (v :: ts) := by
        simp [join, List.intercalate]
      rw [joined, only_append, only_append]
      exact ⟨⟨all u List.mem_cons_self, separator⟩, rest⟩

theorem isVisible_iff : c.isVisible = true ↔ 32 ≤ c.val ∧ c.val ≤ 126 := by
  simp [CodePoint.isVisible]

theorem shown_of_isVisible (visible : c.isVisible = true) : 32 ≤ c.val ∧ c.isSurrogate = false := by
  have range := isVisible_iff.1 visible
  exact ⟨range.1, CodePoint.isSurrogate_eq_false_iff.2 (.inl (by omega))⟩

theorem Visible.shown (h : t.Visible) : t.Shown :=
  fun c mem => shown_of_isVisible (h c mem)

theorem Shown.scalar (h : t.Shown) : t.Scalar :=
  fun c mem => (h c mem).2

theorem Visible.scalar (h : t.Visible) : t.Scalar :=
  h.shown.scalar

/-! ## Numbers -/

theorem isVisible_ofNat {n : Nat} (low : 32 ≤ n) (high : n ≤ 126) :
    (CodePoint.ofNat n).isVisible = true := by
  rw [CodePoint.ofNat, dif_pos (by omega)]
  exact isVisible_iff.2 ⟨low, high⟩

theorem isVisible_ofDigit {d : Nat} (small : d < 36) : (CodePoint.ofDigit d).isVisible = true := by
  rw [CodePoint.ofDigit]
  split <;> exact isVisible_ofNat (by omega) (by omega)

theorem visible_digitsOnto {base : Nat} (small : base ≤ 36) (n : Nat) (rest : t.Visible) :
    Visible (digitsOnto base n t) := by
  fun_induction digitsOnto base n t with
  | case1 n t last =>
    have digit : n % max base 1 < max base 1 := Nat.mod_lt n (by omega)
    exact only_cons.2 ⟨isVisible_ofDigit (by omega), rest⟩
  | case2 n t more ih =>
    have digit : n % base < base := Nat.mod_lt n (by omega)
    exact ih (only_cons.2 ⟨isVisible_ofDigit (by omega), rest⟩)

theorem visible_ofNat (n : Nat) : Visible (ofNat n) :=
  visible_digitsOnto (by decide) n only_nil

theorem visible_ofInt (n : Int) : Visible (ofInt n) := by
  cases n with
  | ofNat n => exact visible_ofNat n
  | negSucc n => exact only_cons.2 ⟨rfl, visible_ofNat (n + 1)⟩

theorem visible_padLeft (width : Nat) (padding : c.isVisible = true) (h : t.Visible) :
    Visible (padLeft width c t) :=
  only_append.2 ⟨only_replicate _ padding, h⟩

theorem visible_decimal (width n : Nat) : Visible (decimal width n) :=
  visible_padLeft width rfl (visible_ofNat n)

theorem visible_hex (width n : Nat) : Visible (hex width n) :=
  visible_padLeft width rfl (visible_digitsOnto (by decide) n only_nil)

end Text

open Text

variable {t : Text}

theorem Layout.visible_significant (h : t.Visible) : Visible (significant t) := by
  rw [significant]
  split
  · exact only_cons.2 ⟨rfl, only_nil⟩
  · next kept _ =>
    rw [Visible, only_reverse]
    exact (only_reverse.2 h).mono fun c mem => (List.dropWhile_sublist _).mem mem

theorem Layout.visible_write {layout : Layout} (plus : layout.plus.Visible) (h : t.Visible)
    (place : Int) : Visible (layout.write t place) := by
  have zeros : ∀ n, Visible (List.replicate n 48) := fun n => only_replicate n rfl
  unfold Layout.write
  dsimp only
  split
  · simp only [Visible, only_append]
    refine ⟨⟨?_, ?_⟩, visible_decimal _ _⟩
    · split
      · exact h
      · rw [Visible, only_cons] at h
        exact only_cons.2 ⟨h.1, only_cons.2 ⟨rfl, h.2⟩⟩
      · exact only_nil
    · split
      · exact visible_iff.2 rfl
      · exact plus
  · split
    · simp only [Visible, only_append]
      exact ⟨⟨visible_iff.2 rfl, zeros _⟩, h⟩
    · split
      · simp only [Visible, only_append]
        exact ⟨⟨h, zeros _⟩, visible_iff.2 rfl⟩
      · rw [Visible, only_append, only_cons]
        exact ⟨h.mono fun c mem => List.mem_of_mem_take mem, rfl,
          h.mono fun c mem => List.mem_of_mem_drop mem⟩

theorem Double.visible_toText {layout : Layout} {notANumber infinite : Text}
    (plus : layout.plus.Visible) (nan : notANumber.Visible) (infinity : infinite.Visible)
    (d : Double) : Visible (d.toText layout notANumber infinite) := by
  have sign : ∀ negative : Bool, Visible (if negative then [45] else []) :=
    fun negative => visible_iff.2 (by cases negative <;> rfl)
  cases d with
  | nan => exact nan
  | infinity negative => exact only_append.2 ⟨sign negative, infinity⟩
  | finite negative m e =>
    refine only_append.2 ⟨sign negative, ?_⟩
    rw [magnitude]
    split
    · exact visible_iff.2 rfl
    · exact Layout.visible_write plus (Layout.visible_significant (visible_ofNat _)) _

/-! ## Documents -/

mutual

/-- All texts of a document are such, the names of members included, and so are all integers;
    arrays and objects are nested at most `depth` deep. -/
def Document.MadeOf (P : Text → Prop) (Q : Int → Prop) (depth : Nat) : Document → Prop
  | .int n => Q n
  | .text t => P t
  | .array ds => match depth with
    | 0 => False
    | depth + 1 => Document.ItemsMadeOf P Q depth ds
  | .object ms => match depth with
    | 0 => False
    | depth + 1 => Document.MembersMadeOf P Q depth ms
  | _ => True
termination_by structural d => d

/-- So are those of the items of an array. -/
def Document.ItemsMadeOf (P : Text → Prop) (Q : Int → Prop) (depth : Nat) : List Document → Prop
  | [] => True
  | d :: ds => d.MadeOf P Q depth ∧ Document.ItemsMadeOf P Q depth ds
termination_by structural ds => ds

/-- So are those of the members of an object. -/
def Document.MembersMadeOf (P : Text → Prop) (Q : Int → Prop) (depth : Nat) :
    List (Text × Document) → Prop
  | [] => True
  | (name, d) :: ms => P name ∧ d.MadeOf P Q depth ∧ Document.MembersMadeOf P Q depth ms
termination_by structural ms => ms

end

namespace Document

variable {P P' : Text → Prop} {Q Q' : Int → Prop} {depth depth' : Nat}

theorem itemsMadeOf_iff {ds : List Document} :
    ItemsMadeOf P Q depth ds ↔ ∀ d ∈ ds, d.MadeOf P Q depth := by
  induction ds with
  | nil => simp [ItemsMadeOf]
  | cons d ds ih => simp [ItemsMadeOf, ih]

mutual

/-- What holds of the parts of a document by more than is asked for. -/
theorem MadeOf.mono (texts : ∀ t, P t → P' t) (integers : ∀ n, Q n → Q' n) :
    (d : Document) → {depth depth' : Nat} → depth ≤ depth' → d.MadeOf P Q depth →
      d.MadeOf P' Q' depth'
  | .null, _, _, _, _ => trivial
  | .bool _, _, _, _, _ => trivial
  | .int n, _, _, _, h => integers n h
  | .float _, _, _, _, _ => trivial
  | .text t, _, _, _, h => texts t h
  | .array ds, _ + 1, _ + 1, le, h =>
    ItemsMadeOf.mono texts integers ds (Nat.le_of_succ_le_succ le) h
  | .object ms, _ + 1, _ + 1, le, h =>
    MembersMadeOf.mono texts integers ms (Nat.le_of_succ_le_succ le) h
termination_by structural d => d

theorem ItemsMadeOf.mono (texts : ∀ t, P t → P' t) (integers : ∀ n, Q n → Q' n) :
    (ds : List Document) → {depth depth' : Nat} → depth ≤ depth' → ItemsMadeOf P Q depth ds →
      ItemsMadeOf P' Q' depth' ds
  | [], _, _, _, _ => trivial
  | d :: ds, _, _, le, h =>
    ⟨MadeOf.mono texts integers d le h.1, ItemsMadeOf.mono texts integers ds le h.2⟩
termination_by structural ds => ds

theorem MembersMadeOf.mono (texts : ∀ t, P t → P' t) (integers : ∀ n, Q n → Q' n) :
    (ms : List (Text × Document)) → {depth depth' : Nat} → depth ≤ depth' →
      MembersMadeOf P Q depth ms → MembersMadeOf P' Q' depth' ms
  | [], _, _, _, _ => trivial
  | (name, d) :: ms, _, _, le, h =>
    ⟨texts name h.1, MadeOf.mono texts integers d le h.2.1,
      MembersMadeOf.mono texts integers ms le h.2.2⟩
termination_by structural ms => ms

end

end Document

namespace JsonStyle

/-- Of texts for which `P` holds, only code points for which `R` holds are written in the style, as
    it does for visible ASCII. -/
structure Spares (style : JsonStyle) (P : Text → Prop) (R : CodePoint → Prop) : Prop where
  visible : ∀ t : Text, t.Visible → t.Only R
  comma : style.comma.Visible
  colon : style.colon.Visible
  number : ∀ d, (style.number d).Visible
  quoted : ∀ t, P t → (style.quoted t).Only R

variable {style : JsonStyle} {R : CodePoint → Prop} {c : CodePoint}

theorem visible_escapedUnit (n : Nat) : Visible (escapedUnit n) :=
  only_append.2 ⟨visible_iff.2 rfl, visible_hex 4 n⟩

section Quoted

variable (visible : ∀ t : Text, t.Visible → t.Only R)

include visible

/-- A code point is written in visible ASCII, or as it is, if the style is not kept to ASCII and it
    is no control character. -/
theorem only_escaped (h : style.asciiOnly = true ∨ (32 ≤ c.val → R c)) :
    Only R (style.escaped c) := by
  rw [escaped]
  split
  · next special =>
    rcases special with rfl | rfl <;> exact visible _ (visible_iff.2 rfl)
  iterate 5
    split
    · exact visible _ (visible_iff.2 rfl)
  split
  · exact visible _ (visible_escapedUnit _)
  · split
    · split
      · exact visible _ (visible_escapedUnit _)
      · exact visible _ (only_append.2 ⟨visible_escapedUnit _, visible_escapedUnit _⟩)
    · next no_control kept =>
      have large := Nat.not_lt.1 no_control
      by_cases only : style.asciiOnly = true
      · have small : c.val ≤ 126 := Nat.not_lt.1 fun large => kept ⟨only, large⟩
        exact visible _ (only_cons.2 ⟨isVisible_iff.2 ⟨large, small⟩, only_nil⟩)
      · exact only_cons.2 ⟨h.resolve_left only large, only_nil⟩

theorem only_quoted {t : Text} (h : style.asciiOnly = true ∨ ∀ c ∈ t, 32 ≤ c.val → R c) :
    Only R (style.quoted t) := by
  have quote : Only R [34] := visible _ (visible_iff.2 rfl)
  have body : Only R (t.flatMap style.escaped) := by
    intro c mem
    obtain ⟨d, mem_t, mem⟩ := List.mem_flatMap.1 mem
    exact only_escaped visible (h.imp_right fun only => only d mem_t) c mem
  exact only_append.2 ⟨only_cons.2 ⟨(only_cons.1 quote).1, body⟩, quote⟩

end Quoted

/-- Reports are written without escapes, so their texts matter. -/
theorem spares_wire : wire.Spares Scalar fun c => 32 ≤ c.val ∧ c.isSurrogate = false where
  visible := fun _ => Visible.shown
  comma := visible_iff.2 rfl
  colon := visible_iff.2 rfl
  number := fun d => by
    have plus : Layout.plainExponent.plus.Visible := visible_iff.2 rfl
    cases d with
    | finite negative m e =>
      exact Double.visible_toText plus only_nil only_nil (.finite negative m e)
    | _ => exact visible_iff.2 rfl
  quoted := fun _ scalar =>
    only_quoted (fun _ => Visible.shown) (.inr fun c mem large => ⟨large, scalar c mem⟩)

/-- What is kept to ASCII may be made of any texts. -/
theorem spares_of_asciiOnly (only : style.asciiOnly = true) (comma : style.comma.Visible)
    (colon : style.colon.Visible) (number : style.number = named) :
    style.Spares (fun _ => True) fun c => c.isVisible = true where
  visible := fun _ => id
  comma := comma
  colon := colon
  number := by
    have plus : Layout.signedExponent.plus.Visible := visible_iff.2 rfl
    rw [number]
    exact Double.visible_toText plus (visible_iff.2 rfl) (visible_iff.2 rfl)
  quoted := fun _ _ => only_quoted (fun _ => id) (.inl only)

theorem spares_spaced : spaced.Spares (fun _ => True) fun c => c.isVisible = true :=
  spares_of_asciiOnly rfl (visible_iff.2 rfl) (visible_iff.2 rfl) rfl

theorem spares_compact : compact.Spares (fun _ => True) fun c => c.isVisible = true :=
  spares_of_asciiOnly rfl (visible_iff.2 rfl) (visible_iff.2 rfl) rfl

end JsonStyle

namespace Document

variable {style : JsonStyle} {P : Text → Prop} {Q : Int → Prop} {R : CodePoint → Prop}

section Written

variable (spares : style.Spares P R)

include spares

mutual

theorem only_writeOnto :
    (d : Document) → {depth : Nat} → {written : Text} → d.MadeOf P Q depth → written.Only R →
      Only R (d.writeOnto style written)
  | .null, _, _, _, h => only_reverseAux.2 ⟨spares.visible _ (visible_iff.2 rfl), h⟩
  | .bool true, _, _, _, h => only_reverseAux.2 ⟨spares.visible _ (visible_iff.2 rfl), h⟩
  | .bool false, _, _, _, h => only_reverseAux.2 ⟨spares.visible _ (visible_iff.2 rfl), h⟩
  | .int n, _, _, _, h => only_reverseAux.2 ⟨spares.visible _ (visible_ofInt n), h⟩
  | .float d, _, _, _, h => only_reverseAux.2 ⟨spares.visible _ (spares.number d), h⟩
  | .text t, _, _, such, h => only_reverseAux.2 ⟨spares.quoted t such, h⟩
  | .array [], _, _, _, h =>
    only_append.2 ⟨spares.visible [93, 91] (visible_iff.2 rfl), h⟩
  | .array (d :: ds), _ + 1, _, such, h =>
    only_append.2 ⟨spares.visible [93] (visible_iff.2 rfl), only_writeItemsOnto ds such.2
      (only_writeOnto d such.1 (only_append.2 ⟨spares.visible [91] (visible_iff.2 rfl), h⟩))⟩
  | .object [], _, _, _, h => only_append.2 ⟨spares.visible [125, 123] (visible_iff.2 rfl), h⟩
  | .object ((name, d) :: ms), _ + 1, _, such, h =>
    only_append.2 ⟨spares.visible [125] (visible_iff.2 rfl), only_writeMembersOnto ms such.2.2
      (only_writeOnto d such.2.1 (only_reverseAux.2 ⟨spares.visible _ spares.colon,
        only_reverseAux.2 ⟨spares.quoted name such.1,
          only_append.2 ⟨spares.visible [123] (visible_iff.2 rfl), h⟩⟩⟩))⟩
termination_by structural d => d

theorem only_writeItemsOnto :
    (ds : List Document) → {depth : Nat} → {written : Text} → ItemsMadeOf P Q depth ds →
      written.Only R → Only R (writeItemsOnto style ds written)
  | [], _, _, _, h => h
  | d :: ds, _, _, such, h =>
    only_writeItemsOnto ds such.2
      (only_writeOnto d such.1 (only_reverseAux.2 ⟨spares.visible _ spares.comma, h⟩))
termination_by structural ds => ds

theorem only_writeMembersOnto :
    (ms : List (Text × Document)) → {depth : Nat} → {written : Text} →
      MembersMadeOf P Q depth ms → written.Only R → Only R (writeMembersOnto style ms written)
  | [], _, _, _, h => h
  | (name, d) :: ms, _, _, such, h =>
    only_writeMembersOnto ms such.2.2
      (only_writeOnto d such.2.1 (only_reverseAux.2 ⟨spares.visible _ spares.colon,
        only_reverseAux.2 ⟨spares.quoted name such.1,
          only_reverseAux.2 ⟨spares.visible _ spares.comma, h⟩⟩⟩))
termination_by structural ms => ms

end

/-- Of a document of such texts only such code points are written. -/
theorem only_render {d : Document} {depth : Nat} (such : d.MadeOf P Q depth) :
    Only R (d.render style) :=
  only_reverse.2 (only_writeOnto spares d such only_nil)

end Written

end Document

end InvokeWorker
