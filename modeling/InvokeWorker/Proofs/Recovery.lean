import InvokeWorker.Proofs.ErrorTexts
import InvokeWorker.Proofs.Fatality

/-!
# What the recovery from a failure misses

Whatever the handler raises is to be caught and turned into a report. But to make a report of an
error, the worker asks the error for its report, its type and its text, and the class of the error
may be one of handler code, which can answer as it likes.

* `Handler.recovers`: the handler returns a result, which is handed on, or raises an error, of which
  a report is made, unless the error *defies* that (`Thrown.Defies`). Then another error escapes.
  It was raised by a member of a class of handler code (`Thrown.Hooked`) or when the places of the
  traceback were listed, or it is the complaint of the report about texts of derived classes.
* `Handler.not_forall_invoke`: there are such errors.
-/

namespace InvokeWorker

/-! ## What the report takes -/

/-- A text of a derived class with a surrogate in it: the only texts a report does not take. -/
def Value.isOddText : Value → Bool
  | custom ⟨_, text t, _⟩ => t.hasSurrogate
  | _ => false

/-- The faults of a type and a message that are texts. -/
def Report.oddities (type message : Value) : List Misplaced :=
  (if type.isOddText then [⟨["error_type"], .unicode⟩] else []) ++
    (if message.isOddText then [⟨["error_message"], .unicode⟩] else [])

section Texts

variable {e raised : Thrown} {type message v : Value} {t u name : Text} {trace : Traceback}
  {sites : List Site} {fatal : Bool}

theorem read_of_text (is_text : v.text? = some t) :
    Lenient.text v = if v.isOddText then .error .unicode else .ok t := by
  rw [Value.text?.eq_def] at is_text
  split at is_text
  · cases is_text
    rfl
  · cases is_text
    rfl
  · cases is_text

theorem readGiven_of_text (is_text : v.text? = some t) :
    Report.readGiven Lenient.text [] (some (name, v)) =
      if v.isOddText then ([⟨[name], .unicode⟩], []) else ([], t) := by
  rw [Report.readGiven, read_of_text is_text]
  cases v.isOddText <;> rfl

/-- A type and a message that are texts are checked for being odd. -/
theorem checked_of_texts (typed : type.text? = some t) (messaged : message.text? = some u) :
    Report.checked type message (.ok sites) fatal = match Report.oddities type message with
      | [] => .ok (.of t u (sites.map Site.frame) fatal)
      | misfits => .error (Misplaced.toThrown misfits) := by
  rw [Report.checked]
  dsimp only
  rw [readGiven_of_text typed, readGiven_of_text messaged, Report.oddities]
  cases type.isOddText <;> cases message.isOddText <;> rfl

mutual

/-- A text of a derived class that is shown in place of a value is its display. -/
theorem display_of_shownAs? [Interpreter] : (v : Value) → ∀ shown, v.shownAs? = some shown →
    ∃ t, shown.text? = some t ∧ v.display = .ok t
  | .error e => display_of_shownAs e
  | .null => nofun
  | .bool _ => nofun
  | .int _ => nofun
  | .float _ => nofun
  | .text _ => nofun
  | .bytes _ => nofun
  | .byteArray _ => nofun
  | .memoryView _ => nofun
  | .releasedView => nofun
  | .list _ => nofun
  | .tuple _ => nofun
  | .set _ => nofun
  | .frozenSet _ => nofun
  | .mapping _ => nofun
  | .instant _ => nofun
  | .stream _ => nofun
  | .generator _ => nofun
  | .typed _ _ => nofun
  | .bare => nofun
  | .selfList => nofun
  | .selfMapping => nofun
  | .custom _ => nofun
termination_by structural v => v

theorem display_of_firstShownAs? [Interpreter] :
    (vs : List Value) → ∀ shown, Value.firstShownAs? vs = some shown →
    ∃ t, shown.text? = some t ∧ Value.displayFirst vs = .ok t
  | v :: _ => display_of_shownAs? v
  | [] => nofun
termination_by structural vs => vs

theorem display_of_shownAs [Interpreter] : (e : Thrown) → ∀ shown, e.shownAs? = some shown →
    ∃ t, shown.text? = some t ∧ e.display = .ok t
  | ⟨c, args, detail⟩ => by
    intro shown found
    rw [Thrown.shownAs?.eq_def] at found
    dsimp only at found
    split at found
    · cases found
      exact ⟨_, rfl, rfl⟩
    · cases found
    · next no_text =>
      have shown_first : Value.firstShownAs? args = some shown →
          ∃ t, shown.text? = some t ∧ Value.displayFirst args = .ok t :=
        display_of_firstShownAs? args shown
      rw [Thrown.display.eq_def]
      dsimp only
      split at found
      · next source =>
        -- Of an error of source text the first argument is displayed, and then the place, if any.
        obtain ⟨nowhere, first_shown⟩ := Option.ite_none_right_eq_some.1 found
        obtain ⟨t, is_text, first⟩ := shown_first first_shown
        refine ⟨t, is_text, ?_⟩
        split
        iterate 4 exact absurd rfl (no_text _ _ _ _)
        rw [if_pos source, first, List.isEmpty_iff.1 nowhere]
        exact congrArg Except.ok (List.append_nil t)
      · next no_source =>
        obtain ⟨single, first_shown⟩ := Option.ite_none_right_eq_some.1 found
        simp only [Bool.and_eq_true, decide_eq_true_eq, Bool.not_eq_true'] at single
        obtain ⟨⟨one, no_key⟩, no_group⟩ := single
        obtain ⟨v, rfl⟩ := List.length_eq_one_iff.1 one
        obtain ⟨t, is_text, first⟩ := shown_first first_shown
        refine ⟨t, is_text, ?_⟩
        split
        iterate 4 exact absurd rfl (no_text _ _ _ _)
        rw [if_neg no_source, if_neg (by simp), if_neg (by simp [no_group]), no_key]
        -- Alone, it is displayed by whatever kind of error it is an argument of.
        split
        · exact first
        · rw [if_neg (by simp)]
          exact first
termination_by structural e => e

end

/-- The description of an error is a text. -/
theorem text_of_describe [Interpreter] (described : e.describe = .ok message) :
    ∃ u, message.text? = some u := by
  rw [Thrown.describe] at described
  split at described
  · cases shownAs : e.shownAs? with
    | none =>
      rw [shownAs] at described
      cases described
      exact ⟨_, rfl⟩
    | some v =>
      rw [shownAs] at described
      cases described
      exact (display_of_shownAs e _ shownAs).imp fun _ => And.left
  · split at described
    · cases described
      exact ⟨_, rfl⟩
    · cases described

/-- There is no description if, and only if, an error that is not ordinary is raised in place of the
    text. -/
theorem describe_eq_error_iff [Interpreter] :
    e.describe = .error raised ↔ e.display = .error raised ∧ raised.isOrdinary = false := by
  rw [Thrown.describe]
  cases e.display with
  | ok t => simp
  | error raised' =>
    dsimp only
    cases ordinary : raised'.isOrdinary with
    | true =>
      rw [if_pos rfl]
      constructor
      · rintro ⟨⟩
      · rintro ⟨⟨⟩, extraordinary⟩
        cases ordinary.symm.trans extraordinary
    | false =>
      rw [if_neg Bool.false_ne_true]
      constructor
      · rintro ⟨⟩
        exact ⟨rfl, ordinary⟩
      · rintro ⟨⟨⟩, -⟩
        rfl

/-- The type of a report is a text that the error states, or the name of its class. -/
theorem text_of_reportedType (typed : e.reportedType = .ok type) : ∃ t, type.text? = some t := by
  rw [Thrown.reportedType] at typed
  split at typed
  · cases typed
  · next v _ =>
    split at typed
    · next spelled =>
      cases typed
      rw [Lenient.spelled?.eq_def] at spelled
      split at spelled <;> cases spelled
      · exact ⟨_, rfl⟩
      · exact ⟨_, rfl⟩
    · cases typed
      exact ⟨_, rfl⟩

theorem reportedType_eq_error_iff : e.reportedType = .error raised ↔ ∃ hooks,
    e.detail = .hooks hooks ∧ hooks.errorType = some (.raises raised) ∧
      raised.isIn .attribute = false := by
  constructor
  · intro failed
    rw [Thrown.reportedType] at failed
    split at failed
    · next raised' unstated =>
      cases failed
      rw [Thrown.statedType] at unstated
      split at unstated
      · cases unstated
      · next hooks detail =>
        split at unstated
        · cases unstated
        · next raised' raises =>
          split at unstated
          · cases unstated
          · next other =>
            cases unstated
            exact ⟨hooks, detail, raises, Bool.eq_false_iff.2 other⟩
        · cases unstated
      · cases unstated
    · split at failed <;> cases failed
  · rintro ⟨hooks, detail, raises, other⟩
    have unstated : e.statedType = .error raised := by
      simp only [Thrown.statedType, detail, raises, other, Bool.false_eq_true, if_false]
    rw [Thrown.reportedType, unstated]

theorem ownReport_eq_error_iff : e.ownReport? = .error raised ↔ ∃ hooks,
    e.detail = .hooks hooks ∧
      (hooks.report = some (.unreadable raised) ∧ raised.isIn .attribute = false ∨
        hooks.report = some (.raises raised) ∧ raised.isOrdinary = false) := by
  constructor
  · intro failed
    rw [Thrown.ownReport?] at failed
    split at failed
    · cases failed
    · next hooks detail =>
      split at failed
      · cases failed
      · next raised' unreadable =>
        split at failed
        · cases failed
        · next other =>
          cases failed
          exact ⟨hooks, detail, .inl ⟨unreadable, Bool.eq_false_iff.2 other⟩⟩
      · next raised' raises =>
        split at failed
        · cases failed
        · next extraordinary =>
          cases failed
          exact ⟨hooks, detail, .inr ⟨raises, Bool.eq_false_iff.2 extraordinary⟩⟩
      · cases failed
    · cases failed
  · rintro ⟨hooks, detail, ⟨unreadable, other⟩ | ⟨raises, extraordinary⟩⟩
    · simp only [Thrown.ownReport?, detail, unreadable, other, Bool.false_eq_true, if_false]
    · simp only [Thrown.ownReport?, detail, raises, extraordinary, Bool.false_eq_true, if_false]

end Texts

/-! ## Errors that defy a report -/

/-- What an error is to be reported under that supplies no report: a crash under the name of its
    class, another error under the type it states. -/
inductive Thrown.Titled (e : Thrown) : Value → Prop
  | crash : e.isCrash = true → Titled e (.text e.errorClass.name)
  | other {type : Value} : e.isCrash = false → e.ownReport? = .ok none → e.reportedType = .ok type →
    Titled e type

/-- Another error is raised when a report is to be made of an error that has this traceback. -/
inductive Thrown.Defies [Interpreter] (e : Thrown) (trace : Traceback) : Thrown → Prop
  /-- The member that supplies the report cannot be looked up, though it is not missing. -/
  | unreadable {raised : Thrown} {hooks : Hooks} : e.isCrash = false → e.detail = .hooks hooks →
    hooks.report = some (.unreadable raised) → raised.isIn .attribute = false →
    Defies e trace raised
  /-- This member raises an error that is not ordinary. -/
  | unsupplied {raised : Thrown} {hooks : Hooks} : e.isCrash = false → e.detail = .hooks hooks →
    hooks.report = some (.raises raised) → raised.isOrdinary = false → Defies e trace raised
  /-- No report is supplied, and the type cannot be looked up, though it is not missing. -/
  | untyped {raised : Thrown} {hooks : Hooks} : e.isCrash = false → e.ownReport? = .ok none →
    e.detail = .hooks hooks → hooks.errorType = some (.raises raised) →
    raised.isIn .attribute = false → Defies e trace raised
  /-- In place of the text an error is raised that is not ordinary. -/
  | unshown {type : Value} {raised : Thrown} : e.Titled type → e.display = .error raised →
    raised.isOrdinary = false → Defies e trace raised
  /-- The places of the traceback cannot be listed. -/
  | untraced {type message : Value} {raised : Thrown} : e.Titled type → e.describe = .ok message →
    trace = .error raised → Defies e trace raised
  /-- The type or the text is one the report does not take. -/
  | odd {type message : Value} {sites : List Site} : e.Titled type → e.describe = .ok message →
    trace = .ok sites → Report.oddities type message ≠ [] →
    Defies e trace (Misplaced.toThrown (Report.oddities type message))

section Defies

variable {e raised : Thrown} {type message : Value} {t u : Text} {trace : Traceback}
  {sites : List Site}

theorem checked_eq_error_iff {fatal : Bool} (typed : type.text? = some t)
    (messaged : message.text? = some u) :
    Report.checked type message (.ok sites) fatal = .error raised ↔
      Report.oddities type message ≠ [] ∧
        raised = Misplaced.toThrown (Report.oddities type message) := by
  rw [checked_of_texts typed messaged]
  cases Report.oddities type message with
  | nil => simp
  | cons m ms => simp [eq_comm]

theorem Thrown.Titled.text (titled : e.Titled type) : ∃ t, type.text? = some t := by
  cases titled with
  | crash => exact ⟨_, rfl⟩
  | other _ _ typed => exact text_of_reportedType typed

/-- The report of an error that supplies none. -/
theorem ofFailure_of_titled [Interpreter] (titled : e.Titled type) : Report.ofFailure e trace =
    match e.describe with
    | .error raised => .error raised
    | .ok message => Report.checked type message trace e.isCrash := by
  cases titled with
  | crash crash =>
    rewrite [Report.ofFailure, if_pos crash, Report.ofCrash, crash]
    rfl
  | other no_crash supplied typed =>
    rewrite [Report.ofFailure, if_neg (by simp [no_crash]), Report.ofError, supplied, no_crash]
    dsimp only
    rewrite [typed]
    rfl

theorem ofFailure_of_no_crash [Interpreter] (no_crash : e.isCrash = false) :
    Report.ofFailure e trace = Report.ofError e trace := by
  rw [Report.ofFailure, if_neg (by simp [no_crash])]

theorem Thrown.Titled.defies [Interpreter] (titled : e.Titled type)
    (failed : Report.ofFailure e trace = .error raised) : e.Defies trace raised := by
  rw [ofFailure_of_titled titled] at failed
  split at failed
  · next raised' undescribed =>
    cases failed
    obtain ⟨unshown, extraordinary⟩ := describe_eq_error_iff.1 undescribed
    exact .unshown titled unshown extraordinary
  · next message described =>
    cases trace with
    | error raised' =>
      cases failed
      exact .untraced titled described rfl
    | ok sites =>
      obtain ⟨t, typed⟩ := titled.text
      obtain ⟨u, messaged⟩ := text_of_describe described
      obtain ⟨odd, rfl⟩ := (checked_eq_error_iff typed messaged).1 failed
      exact .odd titled described rfl odd

/-- What fails here defies a report. -/
theorem defies_of_ofFailure [Interpreter] (failed : Report.ofFailure e trace = .error raised) :
    e.Defies trace raised := by
  -- A crash is asked neither for its report nor for its type, so only its text can fail.
  cases crash : e.isCrash with
  | true => exact (Thrown.Titled.crash crash).defies failed
  | false =>
    cases supplied : e.ownReport? with
    | error raised' =>
      rw [ofFailure_of_no_crash crash, Report.ofError, supplied] at failed
      cases failed
      obtain ⟨hooks, detail, ⟨unreadable, other⟩ | ⟨raises, extraordinary⟩⟩ :=
        ownReport_eq_error_iff.1 supplied
      · exact .unreadable crash detail unreadable other
      · exact .unsupplied crash detail raises extraordinary
    | ok own =>
      cases own with
      | some report =>
        rw [ofFailure_of_no_crash crash, Report.ofError, supplied] at failed
        cases failed
      | none =>
        cases typed : e.reportedType with
        | error raised' =>
          rw [ofFailure_of_no_crash crash, Report.ofError, supplied] at failed
          simp only [typed] at failed
          cases failed
          obtain ⟨hooks, detail, raises, other⟩ := reportedType_eq_error_iff.1 typed
          exact .untyped crash supplied detail raises other
        | ok type => exact (Thrown.Titled.other crash supplied typed).defies failed

theorem Thrown.Defies.ofFailure [Interpreter] (defies : e.Defies trace raised) :
    Report.ofFailure e trace = .error raised := by
  cases defies with
  | unreadable crash detail unreadable other =>
    have unsupplied := ownReport_eq_error_iff.2 ⟨_, detail, .inl ⟨unreadable, other⟩⟩
    rw [ofFailure_of_no_crash crash, Report.ofError, unsupplied]
  | unsupplied crash detail raises extraordinary =>
    have unsupplied := ownReport_eq_error_iff.2 ⟨_, detail, .inr ⟨raises, extraordinary⟩⟩
    rw [ofFailure_of_no_crash crash, Report.ofError, unsupplied]
  | untyped crash supplied detail raises other =>
    have untyped := reportedType_eq_error_iff.2 ⟨_, detail, raises, other⟩
    rw [ofFailure_of_no_crash crash, Report.ofError, supplied]
    simp only [untyped]
  | unshown titled unshown extraordinary =>
    rw [ofFailure_of_titled titled, describe_eq_error_iff.2 ⟨unshown, extraordinary⟩]
  | untraced titled described unlisted =>
    rw [ofFailure_of_titled titled, described, unlisted]
    rfl
  | odd titled described listed odd =>
    obtain ⟨t, typed⟩ := titled.text
    obtain ⟨u, messaged⟩ := text_of_describe described
    rw [ofFailure_of_titled titled, described, listed]
    exact (checked_eq_error_iff typed messaged).2 ⟨odd, rfl⟩

/-- To make a report of an error fails if, and only if, the error defies that. -/
theorem ofFailure_eq_error_iff [Interpreter] :
    Report.ofFailure e trace = .error raised ↔ e.Defies trace raised :=
  ⟨defies_of_ofFailure, Thrown.Defies.ofFailure⟩

/-- What escapes was raised by a class of handler code or by the traceback, unless it is about odd
    texts. -/
theorem Thrown.Defies.hooked [Interpreter] (defies : e.Defies trace raised) :
    e.Hooked raised ∨ trace = .error raised ∨
      ∃ type message, raised = Misplaced.toThrown (Report.oddities type message) := by
  cases defies with
  | unreadable _ detail unreadable _ => exact .inl (.unreadable detail unreadable)
  | unsupplied _ detail raises _ => exact .inl (.report detail raises)
  | untyped _ _ detail raises _ => exact .inl (.errorType detail raises)
  | unshown _ unshown extraordinary =>
    -- An ordinary error is caught, and the text is replaced by one that names the class.
    refine .inl ((hooked_of_display e _ unshown).resolve_left fun ordinary => ?_)
    cases ordinary.symm.trans extraordinary
  | untraced _ _ unlisted => exact .inr (.inl unlisted)
  | @odd type message _ _ _ _ _ => exact .inr (.inr ⟨type, message, rfl⟩)

end Defies

namespace Handler

/-- The handler always ends, with a result or an error. A result is handed on as it is. Of an error
    a report is made, unless the error defies that: then, and only then, another error escapes,
    which was raised by a member of a class of handler code or by the traceback or is about odd
    texts. -/
theorem recovers [Interpreter] (h : Handler) (base context : Context) (payload : Bytes)
    (w : Worker) : ∃ ending w', h.run base context payload w = .ok ending w' ∧
      match ending with
      | .returns x => h.invoke base context payload w = .ok (.ok x) w'
      | .raises e trace =>
        ((∀ raised, ¬ e.Defies trace raised) →
          ∃ r, h.invoke base context payload w = .ok (.error r) w') ∧
        ∀ raised,
          (h.invoke base context payload w = .error raised w' ↔ e.Defies trace raised) ∧
          (e.Defies trace raised → e.Hooked raised ∨ trace = .error raised ∨
            ∃ type message, raised = Misplaced.toThrown (Report.oddities type message)) := by
  obtain ⟨_, w', ran, events, call, ending, -, -, rfl, -⟩ :=
    (ends_run (w := w) h base context payload).exists_ended
  refine ⟨ending, w', ran, ?_⟩
  have invoked : h.invoke base context payload w = outcome ending w' := by
    rw [invoke_eq]
    exact Run.bind_of_ok ran
  rw [invoked]
  cases ending with
  | returns x => rfl
  | raises e trace =>
    have reported : outcome (.raises e trace) w' = Run.ended
        ((Report.ofFailure e trace).map (.error : Report → Except Report Value)) w' := by
      rw [outcome]
      cases Report.ofFailure e trace <;> rfl
    rw [reported]
    refine ⟨fun obeys => ?_, fun raised => ⟨?_, Thrown.Defies.hooked⟩⟩
    · cases made : Report.ofFailure e trace with
      | ok r => exact ⟨r, rfl⟩
      | error raised => exact absurd (ofFailure_eq_error_iff.1 made) (obeys raised)
    · have failing : Report.ofFailure e trace = .error raised ↔ e.Defies trace raised :=
        ofFailure_eq_error_iff
      rw [← failing]
      cases Report.ofFailure e trace with
      | ok r => constructor <;> nofun
      | error raised' =>
        constructor
        · rintro ⟨⟩
          rfl
        · rintro ⟨⟩
          rfl

end Handler

/-- An ordinary error the type of which raises an error when it is looked up. -/
def Thrown.untyped : Thrown :=
  ⟨.derived "Odd" (.builtin "ValueError"), [.text "m"],
    .hooks ⟨some (.raises (.runtimeError "no type")), none, none, none⟩⟩

/-- Not every error of the handler is turned into a report. -/
theorem Handler.not_forall_invoke :
    ¬ ∀ (h : Handler) (base context : Context) (payload : Bytes) (w : Worker),
      ∃ s w', h.invoke base context payload w = .ok s w' := by
  intro all
  obtain ⟨s, w', recovered⟩ := all (HandlerOptions.raising .untyped).handler (.ofScope 0)
    (.ofScope 0) [] (.start 0 none)
  cases recovered

end InvokeWorker
