import InvokeWorker.Value.Show

/-!
# What is raised in place of a text

Errors and values have texts, but they may fail to give them. To write a value as a literal can only
raise ordinary errors (`mild_literal`): too many digits, or too deep a nesting. The text of an error
may also be the answer of a method of its class, and where the class is one of handler code this can
raise anything. Such an error is `Thrown.Hooked`: it comes from a member of the class of the error
or of another error in its arguments (`hooked_of_display`).
-/

namespace InvokeWorker

/-- An error is raised by a member that the class of another error defines, or the class of an error
    among its arguments. -/
inductive Thrown.Hooked : Thrown → Thrown → Prop
  | unreadable {e raised : Thrown} {hooks : Hooks} : e.detail = .hooks hooks →
    hooks.report = some (.unreadable raised) → Hooked e raised
  | report {e raised : Thrown} {hooks : Hooks} : e.detail = .hooks hooks →
    hooks.report = some (.raises raised) → Hooked e raised
  | errorType {e raised : Thrown} {hooks : Hooks} : e.detail = .hooks hooks →
    hooks.errorType = some (.raises raised) → Hooked e raised
  | shown {e raised : Thrown} {hooks : Hooks} : e.detail = .hooks hooks →
    hooks.shown = some (.raises raised) → Hooked e raised
  | arg {e x raised : Thrown} : .error x ∈ e.args → Hooked x raised → Hooked e raised

/-! ## Literals -/

/-- Only ordinary errors are raised here. -/
def Mild {α : Type} (r : Except Thrown α) : Prop :=
  ∀ e, r = .error e → e.isOrdinary = true

section Mild

variable {α β : Type}

theorem mild_ok (a : α) : Mild (.ok a : Except Thrown α) := fun _ => nofun

theorem mild_error {e : Thrown} (ordinary : e.isOrdinary = true) :
    Mild (.error e : Except Thrown α) := by
  rintro _ ⟨⟩
  exact ordinary

theorem Mild.map {r : Except Thrown α} (h : Mild r) (f : α → β) : Mild (r.map f) := by
  cases r with
  | ok a => exact mild_ok _
  | error e => exact mild_error (h e rfl)

theorem mild_intLiteral (n : Int) : Mild (Value.intLiteral n) := by
  unfold Value.intLiteral
  cases Text.ofBoundedInt? n with
  | some t => exact mild_ok _
  | none => exact mild_error rfl

end Mild

mutual

/-- The literals of values ask no class of handler code for anything. -/
theorem mild_literal (depth : Nat) : (v : Value) → Mild (v.literal depth)
  | .null => mild_ok _
  | .bool _ => mild_ok _
  | .int n => mild_intLiteral n
  | .float _ => mild_ok _
  | .text _ => mild_ok _
  | .bytes _ => mild_ok _
  | .byteArray _ => mild_ok _
  | .memoryView _ => mild_ok _
  | .releasedView => mild_ok _
  | .list items => by
    cases depth with
    | zero => exact mild_error rfl
    | succ depth => exact (mild_literals depth items).map _
  | .tuple items => by
    cases depth with
    | zero => exact mild_error rfl
    | succ depth => exact (mild_literals depth items).map _
  | .set items => by
    cases depth with
    | zero => exact mild_error rfl
    | succ depth => exact (mild_literals depth items).map _
  | .frozenSet items => by
    cases depth with
    | zero => exact mild_error rfl
    | succ depth => exact (mild_literals depth items).map _
  | .mapping entries => by
    cases depth with
    | zero => exact mild_error rfl
    | succ depth => exact (mild_entryLiterals depth entries).map _
  | .instant _ => mild_ok _
  | .typed body mediaType => by
    rw [Value.literal]
    split
    · next e failed => exact mild_error (mild_literal depth body e failed)
    · exact (mild_literal depth mediaType).map _
  | .selfList => mild_ok _
  | .selfMapping => mild_ok _
  | .error e => mild_literal_error depth e
  | .custom o => mild_literal_custom depth o
  | .stream _ => mild_ok _
  | .generator _ => mild_ok _
  | .bare => mild_ok _
termination_by structural v => v

theorem mild_literals (depth : Nat) : (vs : List Value) → Mild (Value.literals depth vs)
  | [] => mild_ok _
  | v :: rest => by
    rw [Value.literals]
    split
    · next e failed => exact mild_error (mild_literal depth v e failed)
    · exact (mild_literals depth rest).map _
termination_by structural vs => vs

theorem mild_entryLiterals (depth : Nat) :
    (entries : List (Value × Value)) → Mild (Value.entryLiterals depth entries)
  | [] => mild_ok _
  | (k, v) :: rest => by
    rw [Value.entryLiterals]
    split
    · next e failed => exact mild_error (mild_literal depth k e failed)
    · split
      · next e failed => exact mild_error (mild_literal depth v e failed)
      · exact (mild_entryLiterals depth rest).map _
termination_by structural entries => entries

theorem mild_literal_error (depth : Nat) : (e : Thrown) → Mild (e.literal depth)
  | ⟨_, args, _⟩ => by
    cases depth with
    | zero => exact mild_error rfl
    | succ depth => exact (mild_literals depth args).map _
termination_by structural e => e

theorem mild_literal_custom (depth : Nat) : (o : Custom) → Mild (o.literal depth)
  | ⟨_, core, _⟩ => by
    rw [Custom.literal.eq_def]
    dsimp only
    split
    · exact mild_ok _
    · exact mild_ok _
    · exact mild_literal depth core
termination_by structural o => o

end

theorem mild_display_custom [Interpreter] (o : Custom) : Mild o.display := by
  rw [Custom.display]
  split
  · exact mild_ok _
  · exact mild_ok _
  · exact mild_literal_custom nestingLimit o

/-! ## Texts -/

/-- What an error of encoding is about can only fail to be shown by a position out of range. -/
theorem mild_textPart {outside : Thrown} (ordinary : outside.isOrdinary = true) (t : Text)
    (start stop : Int) : Mild (Thrown.textPart outside t start stop) := by
  rw [Thrown.textPart]
  split
  · split
    · exact mild_error ordinary
    · exact mild_ok _
  · exact mild_ok _

theorem mild_codedPart {c : ErrorClass} {subject start stop : Value} {part : Except Thrown Text}
    (made : Thrown.codedPart c subject start stop = some part) : Mild part := by
  rw [Thrown.codedPart] at made
  split at made
  · split at made
    · obtain ⟨t, -, rfl⟩ := Option.map_eq_some_iff.1 made
      exact mild_textPart rfl t _ _
    · split at made
      · obtain ⟨t, -, rfl⟩ := Option.map_eq_some_iff.1 made
        exact mild_textPart rfl t _ _
      · obtain ⟨b, -, rfl⟩ := Option.map_eq_some_iff.1 made
        exact mild_ok _
  · cases made

/-- Only ordinary errors are raised here, and those that an error among the values raises by a
    member of its class. -/
def Traced {α : Type} (vs : List Value) (r : Except Thrown α) : Prop :=
  ∀ raised, r = .error raised →
    raised.isOrdinary = true ∨ ∃ x, Value.error x ∈ vs ∧ x.Hooked raised

section Traced

variable {α β : Type} {vs us : List Value} {r : Except Thrown α}

theorem Mild.traced (h : Mild r) : Traced vs r :=
  fun raised failed => .inl (h raised failed)

theorem Traced.mono (h : Traced vs r) (more : ∀ v ∈ vs, v ∈ us) : Traced us r :=
  fun raised failed => (h raised failed).imp_right fun ⟨x, mem, hooked⟩ => ⟨x, more _ mem, hooked⟩

theorem Traced.map (h : Traced vs r) (f : α → β) : Traced vs (r.map f) := by
  cases r with
  | ok a => exact (mild_ok _).traced
  | error e =>
    rintro _ ⟨⟩
    exact h e rfl

theorem Traced.error {raised : Thrown} (h : Traced vs r) (failed : r = .error raised) :
    Traced vs (.error raised : Except Thrown β) := by
  rintro _ ⟨⟩
  exact h raised failed

end Traced

mutual

theorem traced_display [Interpreter] : (v : Value) → Traced [v] v.display
  | .text _ => (mild_ok _).traced
  | .instant _ => (mild_ok _).traced
  | .error e => fun raised failed =>
    (hooked_of_display e raised failed).imp_right fun hooked => ⟨e, by simp, hooked⟩
  | .custom o => (mild_display_custom o).traced
  -- The others are shown as literals.
  | .null => (mild_literal nestingLimit .null).traced
  | .bool b => (mild_literal nestingLimit (.bool b)).traced
  | .int n => (mild_literal nestingLimit (.int n)).traced
  | .float d => (mild_literal nestingLimit (.float d)).traced
  | .bytes b => (mild_literal nestingLimit (.bytes b)).traced
  | .byteArray b => (mild_literal nestingLimit (.byteArray b)).traced
  | .memoryView b => (mild_literal nestingLimit (.memoryView b)).traced
  | .releasedView => (mild_literal nestingLimit .releasedView).traced
  | .list vs => (mild_literal nestingLimit (.list vs)).traced
  | .tuple vs => (mild_literal nestingLimit (.tuple vs)).traced
  | .set vs => (mild_literal nestingLimit (.set vs)).traced
  | .frozenSet vs => (mild_literal nestingLimit (.frozenSet vs)).traced
  | .mapping entries => (mild_literal nestingLimit (.mapping entries)).traced
  | .stream b => (mild_literal nestingLimit (.stream b)).traced
  | .generator cs => (mild_literal nestingLimit (.generator cs)).traced
  | .typed b t => (mild_literal nestingLimit (.typed b t)).traced
  | .bare => (mild_literal nestingLimit .bare).traced
  | .selfList => (mild_literal nestingLimit .selfList).traced
  | .selfMapping => (mild_literal nestingLimit .selfMapping).traced
termination_by structural v => v

theorem traced_displayOnly [Interpreter] (asLiteral : Bool) :
    (vs : List Value) → Traced vs (Value.displayOnly asLiteral vs)
  | [v] => by
    rw [Value.displayOnly]
    split
    · exact (mild_literal nestingLimit v).traced
    · exact traced_display v
  | [] => ((mild_literals nestingLimit []).map _).traced
  | v :: u :: vs => ((mild_literals nestingLimit (v :: u :: vs)).map _).traced
termination_by structural vs => vs

theorem traced_displayFirst [Interpreter] : (vs : List Value) → Traced vs (Value.displayFirst vs)
  | v :: _ => (traced_display v).mono (by simp)
  | [] => (mild_ok _).traced
termination_by structural vs => vs

theorem traced_displayNumbered [Interpreter] (c : ErrorClass) :
    (vs : List Value) → Traced vs (Value.displayNumbered c vs)
  | number :: vs => by
    rw [Value.displayNumbered]
    split
    · next e failed => exact ((traced_display number).mono (by simp)).error failed
    · next t _ => exact (traced_displayMessage c t vs).mono (by simp +contextual)
  | [] => (mild_ok _).traced
termination_by structural vs => vs

theorem traced_displayMessage [Interpreter] (c : ErrorClass) (number : Text) :
    (vs : List Value) → Traced vs (Value.displayMessage c number vs)
  | message :: vs => by
    rw [Value.displayMessage]
    split
    · next e failed => exact ((traced_display message).mono (by simp)).error failed
    · exact ((mild_literals nestingLimit _).map _).traced
  | [] => (mild_ok _).traced
termination_by structural vs => vs

theorem traced_displayCoded [Interpreter] (c : ErrorClass) :
    (vs : List Value) → Traced vs (Value.displayCoded c vs)
  | [encoding, subject, start, stop, reason] => by
    rw [Value.displayCoded]
    split
    · exact ((mild_literals nestingLimit _).map _).traced
    · next part made =>
      split
      · next e failed => exact ((traced_display reason).mono (by simp)).error failed
      · split
        · next e failed => exact ((traced_display encoding).mono (by simp)).error failed
        · exact ((mild_codedPart made).map _).traced
  | [subject, start, stop, reason] => by
    rw [Value.displayCoded]
    split
    · exact ((mild_literals nestingLimit _).map _).traced
    · next part made =>
      split
      · next e failed => exact ((traced_display reason).mono (by simp)).error failed
      · exact ((mild_codedPart made).map _).traced
  | [v] => traced_display v
  | [] => ((mild_literals nestingLimit []).map _).traced
  | [v, u] => ((mild_literals nestingLimit [v, u]).map _).traced
  | [v, u, w] => ((mild_literals nestingLimit [v, u, w]).map _).traced
  | v :: u :: w :: x :: y :: z :: vs =>
    ((mild_literals nestingLimit (v :: u :: w :: x :: y :: z :: vs)).map _).traced
termination_by structural vs => vs

/-- What is raised in place of the text of an error is ordinary, or it is raised by a member of the
    class of this error or of another one in its arguments. -/
theorem hooked_of_display [Interpreter] : (e : Thrown) → ∀ raised, e.display = .error raised →
    raised.isOrdinary = true ∨ e.Hooked raised
  | ⟨c, args, detail⟩ => by
    have in_args : ∀ {raised : Thrown} {r : Except Thrown Text}, Traced args r →
        r = .error raised → raised.isOrdinary = true ∨ (Thrown.mk c args detail).Hooked raised :=
      fun traced failed => (traced _ failed).imp_right fun ⟨x, mem, hooked⟩ => .arg mem hooked
    intro raised failed
    rw [Thrown.display.eq_def] at failed
    dsimp only at failed
    split at failed
    · cases failed
    · cases failed
    · cases failed
      exact .inl rfl
    · next shown => exact .inr (.shown rfl (by rw [Except.error.inj failed]))
    -- The texts of the built-in classes are made of the arguments.
    · split at failed
      · exact in_args ((traced_displayFirst args).map _) failed
      · split at failed
        · cases failed
        · split at failed
          · exact in_args ((traced_displayFirst args).map _) failed
          · split at failed
            · exact in_args (traced_displayCoded c args) failed
            · split at failed
              · exact in_args (traced_displayNumbered c args) failed
              · exact in_args (traced_displayOnly _ args) failed
termination_by structural e => e

end

end InvokeWorker
