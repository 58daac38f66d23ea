import InvokeWorker.Proofs.Recovery
import InvokeWorker.Proofs.ReportPayload

/-!
# What the Runtime API is told about an error

Several may have a say in what is told about an error. A crash is told about by its class, its text
and the places it has passed, whatever its class defines. Of any other error the report counts that
it supplies itself, if it supplies one; if not, the type that it states comes before the name of its
class, with its text and the places it has passed (`Thrown.Tells`).

* `Run.handleInvoke_tells`: when the handler raises an error, there is one request, which reports
  it, and what is read from its body is what the error tells.
* `Run.not_forall_told_of_raises`: this is not so if the error supplies a report with a lone
  surrogate in it, for such a text cannot be sent.

The error has to let itself be asked (`Thrown.Candid`). The process may end afterwards, which is not
told.
-/

namespace InvokeWorker

open Run (Ends ended)
open Text

/-! ## Reports that are sent as they are -/

/-- A place that can be sent: no surrogate is in its texts, and its line has not too many digits. -/
structure Site.Plain (s : Site) : Prop where
  path : s.path.Scalar
  label : s.label.Scalar
  line : Json.Short s.line

/-- A report that is sent as it is: its fields have their declared types, and there are neither
    surrogates in its texts nor too many digits in its numbers. -/
structure Report.Sound (r : Report) : Prop where
  valid : r.isValid = true
  scalar : ∀ t ∈ r.texts, t.Scalar
  short : ∀ n ∈ r.integers, Json.Short n

section Sound

variable {type message : Text} {sites : List Site} {r : Report}

theorem Report.sound_of (in_type : type.Scalar) (in_message : message.Scalar)
    (plain : ∀ s ∈ sites, s.Plain) (exit : Bool) :
    (Report.of type message (sites.map Site.frame) exit).Sound where
  valid := by
    have frames : (sites.map Site.frame).all Frame.isValid = true := by
      rw [List.all_map, List.all_eq_true]
      exact fun _ _ => rfl
    exact frames
  scalar := by
    have texts_eq : (Report.of type message (sites.map Site.frame) exit).texts =
        type :: message :: (sites.map Site.frame).flatMap Frame.texts := rfl
    rw [texts_eq, List.forall_mem_cons, List.forall_mem_cons, List.flatMap_map]
    refine ⟨in_type, in_message, fun t in_frames => ?_⟩
    obtain ⟨s, mem, in_site⟩ := List.mem_flatMap.1 in_frames
    rw [Site.texts_frame] at in_site
    obtain rfl | rfl := List.mem_pair.1 in_site
    · exact (plain s mem).path
    · exact (plain s mem).label
  short := by
    have integers_eq : (Report.of type message (sites.map Site.frame) exit).integers =
        (sites.map Site.frame).flatMap Frame.integers := rfl
    rw [integers_eq, List.flatMap_map]
    intro n in_frames
    obtain ⟨s, mem, in_site⟩ := List.mem_flatMap.1 in_frames
    have integers_frame : s.frame.integers = [s.line] := rfl
    rw [integers_frame] at in_site
    rw [List.mem_singleton.1 in_site]
    exact (plain s mem).line

/-- The paths of valid frames can be listed. -/
theorem Report.listsPaths_of_isValid (valid : r.isValid = true) : r.ListsPaths := by
  obtain ⟨type, message, sites, exit, rfl⟩ := Report.exists_of_isValid valid
  exact Report.listsPaths_of_sites rfl

end Sound

/-! ## What an error tells -/

theorem Lenient.spelled?_eq_inl_iff {v : Value} {t : Text} :
    spelled? v = some (.inl t) ↔ v.text? = some t := by
  rw [spelled?.eq_def, Value.text?.eq_def]
  split <;> simp_all

theorem Value.isOddText_of_scalar {v : Value} {t : Text} (is_text : v.text? = some t)
    (scalar : t.Scalar) : v.isOddText = false := by
  rw [Value.text?.eq_def] at is_text
  split at is_text <;> cases is_text
  · rfl
  · exact scalar_iff.1 scalar

namespace Thrown

/-- What is said for the text of an error: the text, or a remark in place of an ordinary error that
    is raised when it is asked for. -/
inductive Described [Interpreter] (e : Thrown) : Text → Prop
  | shown {t : Text} : e.display = .ok t → Described e t
  | unprintable {raised : Thrown} : e.display = .error raised → raised.isOrdinary = true →
    Described e ("<unprintable " ++ e.errorClass.name ++ " object>")

/-- An error supplies a report: by a method of its class, or because it was made with one that
    fits. -/
inductive Supplies (e : Thrown) : Report → Prop
  | method {hooks : Hooks} {r : Report} : e.detail = .hooks hooks →
    hooks.report = some (.supplies r) → Supplies e r
  | chosen {type message : Value} {stack : List Frame} {r : Report} :
    e.detail = .chosen type message stack → chosenReport? type message stack = some r →
    Supplies e r

/-- An error states a type: a text that is not empty. -/
def States (e : Thrown) (t : Text) : Prop :=
  ∃ v, e.statedType = .ok v ∧ v.text? = some t ∧ t ≠ []

/-- What an error tells that has passed these places: a type, a message and places. -/
inductive Tells [Interpreter] (e : Thrown) (sites : List Site) : Text → Text → List Site → Prop
  | crash {message : Text} : e.isCrash = true → e.Described message →
    Tells e sites e.errorClass.name message sites
  | supplied {type message : Text} {own : List Site} {exit : Bool} : e.isCrash = false →
    e.Supplies (.of type message (own.map Site.frame) exit) → Tells e sites type message own
  | stated {type message : Text} : e.isCrash = false → (∀ r, ¬ e.Supplies r) → e.States type →
    e.Described message → Tells e sites type message sites
  | unstated {message : Text} : e.isCrash = false → (∀ r, ¬ e.Supplies r) →
    (∀ t, ¬ e.States t) → e.Described message → Tells e sites e.errorClass.name message sites

/-- An error that lets itself be asked. Its report and its type can be looked up, or are missing;
    what it raises itself is ordinary; its name, its text and its type have no surrogates in them;
    and a report that it supplies has fields of the declared types. -/
structure Candid [Interpreter] (e : Thrown) : Prop where
  readable : ∀ hooks raised, e.detail = .hooks hooks → hooks.report = some (.unreadable raised) →
    raised.isIn .attribute = true
  typed : ∀ hooks raised, e.detail = .hooks hooks → hooks.errorType = some (.raises raised) →
    raised.isIn .attribute = true
  supplying : ∀ hooks raised, e.detail = .hooks hooks → hooks.report = some (.raises raised) →
    raised.isOrdinary = true
  shown : ∀ raised, e.display = .error raised → raised.isOrdinary = true
  name : e.errorClass.name.Scalar
  text : ∀ t, e.display = .ok t → t.Scalar
  type : ∀ t, e.States t → t.Scalar
  valid : ∀ r, e.Supplies r → r.isValid = true
  short : ∀ r, e.Supplies r → ∀ n ∈ r.integers, Json.Short n

variable {e : Thrown} {r : Report} {t type message : Text} {sites own : List Site}

theorem supplies_iff : e.Supplies r ↔ e.ownReport? = .ok (some r) := by
  constructor
  · rintro (⟨detail, supplies⟩ | ⟨detail, chosen⟩)
    · simp only [ownReport?, detail, supplies]
    · simp only [ownReport?, detail, chosen]
  · intro supplied
    rw [ownReport?] at supplied
    split at supplied
    · next detail => exact .chosen detail (Except.ok.inj supplied)
    · next hooks detail =>
      split at supplied
      · next supplies =>
        cases supplied
        exact .method detail supplies
      · split at supplied <;> cases supplied
      · split at supplied <;> cases supplied
      · cases supplied
    · cases supplied

/-- The description is a text, be it of a derived class. -/
theorem Described.exists_describe [Interpreter] (described : e.Described t) :
    ∃ v, e.describe = .ok v ∧ v.text? = some t := by
  cases described with
  | shown shown =>
    rw [describe, shown]
    cases shownAs : e.shownAs? with
    | none => exact ⟨_, rfl, rfl⟩
    | some v =>
      obtain ⟨u, is_text, display⟩ := display_of_shownAs e v shownAs
      cases shown.symm.trans display
      exact ⟨v, rfl, is_text⟩
  | unprintable unshown ordinary =>
    rw [describe, unshown]
    dsimp only
    rw [if_pos ordinary]
    exact ⟨_, rfl, rfl⟩

/-- The report of an error that supplies none takes its type and its text as they are. -/
theorem Titled.ofFailure [Interpreter] {v : Value} (titled : e.Titled v)
    (is_text : v.text? = some type) (in_type : type.Scalar) (described : e.Described message)
    (in_message : message.Scalar) (sites : List Site) :
    Report.ofFailure e (.ok sites) = .ok (.of type message (sites.map Site.frame) e.isCrash) := by
  obtain ⟨m, described, message_text⟩ := described.exists_describe
  have fitting : Report.oddities v m = [] := by
    rw [Report.oddities, Value.isOddText_of_scalar is_text in_type,
      Value.isOddText_of_scalar message_text in_message]
    rfl
  rw [ofFailure_of_titled titled, described]
  dsimp only
  rw [checked_of_texts is_text message_text, fitting]

/-- An error that states a type is reported under it. -/
theorem States.exists_reportedType (states : e.States t) :
    ∃ v, e.reportedType = .ok v ∧ v.text? = some t := by
  obtain ⟨v, stated, is_text, nonempty⟩ := states
  obtain ⟨c, rest, rfl⟩ := List.exists_cons_of_ne_nil nonempty
  refine ⟨v, ?_, is_text⟩
  rw [reportedType, stated]
  dsimp only
  rw [Lenient.spelled?_eq_inl_iff.2 is_text]

namespace Candid

variable [Interpreter] (candid : e.Candid)

include candid

theorem exists_described : ∃ t, e.Described t := by
  cases shown : e.display with
  | ok t => exact ⟨t, .shown shown⟩
  | error raised => exact ⟨_, .unprintable shown (candid.shown raised shown)⟩

theorem scalar_of_described (described : e.Described t) : t.Scalar := by
  cases described with
  | shown shown => exact candid.text _ shown
  | unprintable =>
    have before : Text.Scalar "<unprintable " := scalar_iff.2 rfl
    have after : Text.Scalar " object>" := scalar_iff.2 rfl
    exact only_append.2 ⟨only_append.2 ⟨before, candid.name⟩, after⟩

theorem ownReport?_eq_none (supplies : ∀ r, ¬ e.Supplies r) : e.ownReport? = .ok none := by
  cases own : e.ownReport? with
  | ok supplied =>
    cases supplied with
    | none => rfl
    | some r => exact absurd (supplies_iff.2 own) (supplies r)
  | error raised =>
    obtain ⟨hooks, detail, ⟨unreadable, other⟩ | ⟨raises, extraordinary⟩⟩ :=
      ownReport_eq_error_iff.1 own
    · cases other.symm.trans (candid.readable hooks raised detail unreadable)
    · cases extraordinary.symm.trans (candid.supplying hooks raised detail raises)

/-- An error that states no type is reported under the name of its class. -/
theorem reportedType_of_unstated (states : ∀ t, ¬ e.States t) :
    e.reportedType = .ok (.text e.errorClass.name) := by
  cases reported : e.reportedType with
  | error raised =>
    obtain ⟨hooks, detail, raises, other⟩ := reportedType_eq_error_iff.1 reported
    cases other.symm.trans (candid.typed hooks raised detail raises)
  | ok v =>
    rw [reportedType] at reported
    split at reported
    · cases reported
    · next stated =>
      split at reported
      · next c rest spelled =>
        have is_text := Lenient.spelled?_eq_inl_iff.1 spelled
        exact absurd ⟨_, stated, is_text, List.cons_ne_nil c rest⟩ (states _)
      · exact reported.symm

/-- Such an error always tells something. -/
theorem exists_tells (sites : List Site) : ∃ type message own, e.Tells sites type message own := by
  obtain ⟨message, described⟩ := candid.exists_described
  -- Who has a say is asked in the order of precedence.
  cases crash : e.isCrash with
  | true => exact ⟨_, message, sites, .crash crash described⟩
  | false =>
    by_cases supplies : ∃ r, e.Supplies r
    · obtain ⟨r, supplies⟩ := supplies
      obtain ⟨type, message, own, exit, rfl⟩ := Report.exists_of_isValid (candid.valid r supplies)
      exact ⟨type, message, own, .supplied crash supplies⟩
    · have supplies := not_exists.1 supplies
      by_cases states : ∃ t, e.States t
      · obtain ⟨type, states⟩ := states
        exact ⟨type, message, sites, .stated crash supplies states described⟩
      · have states := not_exists.1 states
        exact ⟨_, message, sites, .unstated crash supplies states described⟩

/-- The report of such an error is just what the error tells, and is sent as it is. -/
theorem exists_ofFailure (scalar : ∀ r, e.Supplies r → ∀ t ∈ r.texts, t.Scalar)
    (plain : ∀ s ∈ sites, s.Plain) (tells : e.Tells sites type message own) :
    ∃ exit, Report.ofFailure e (.ok sites) =
        .ok (.of type message (own.map Site.frame) exit) ∧
      (Report.of type message (own.map Site.frame) exit).Sound := by
  cases tells with
  | crash crash described =>
    have in_message := candid.scalar_of_described described
    exact ⟨_, (Titled.crash crash).ofFailure rfl candid.name described in_message _,
      Report.sound_of candid.name in_message plain _⟩
  | @supplied _ _ _ exit crash supplies =>
    refine ⟨exit, ?_, candid.valid _ supplies, scalar _ supplies, candid.short _ supplies⟩
    rw [ofFailure_of_no_crash crash, Report.ofError, supplies_iff.1 supplies]
  | stated crash supplies states described =>
    obtain ⟨v, reported, is_text⟩ := states.exists_reportedType
    have titled : e.Titled v := .other crash (candid.ownReport?_eq_none supplies) reported
    have in_type := candid.type _ states
    have in_message := candid.scalar_of_described described
    exact ⟨_, titled.ofFailure is_text in_type described in_message _,
      Report.sound_of in_type in_message plain _⟩
  | unstated crash supplies states described =>
    have titled : e.Titled _ := .other crash (candid.ownReport?_eq_none supplies)
      (candid.reportedType_of_unstated states)
    have in_message := candid.scalar_of_described described
    exact ⟨_, titled.ofFailure rfl candid.name described in_message _,
      Report.sound_of candid.name in_message plain _⟩

end Candid

end Thrown

/-! ## What is sent -/

/-- From `w` to `w'` there was this request, and no other one. -/
def Worker.Asks (w : Worker) (request : Request) (w' : Worker) : Prop :=
  ∃ events, w'.journal = w.journal ++ events ∧ events.filterMap Event.request? = [request]

/-- From `w` to `w'` there was one request: it has reported the failure of an invoke by these bytes,
    and was taken. -/
def Client.Files (c : Client) (i : Invoke) (b : Bytes) (w w' : Worker) : Prop :=
  ∃ request, w.Asks request w' ∧
    Posted w.replies (c.invocationUrl i.id "error") (.bytes b) request .accepted

/-- The headers of an invoke are well formed, and the handler raises an error that has passed these
    places. -/
inductive HandlerOptions.Raises [Interpreter] (options : HandlerOptions) (i : Invoke) (w : Worker)
    (e : Thrown) (sites : List Site) : Prop
  | intro {context : Context} {v v' : Worker} :
    Context.build i options.base options.settings (w.naming i) = .ok context v →
    options.handler.run options.base context i.payload v =
      .ok (.raises e (.ok sites)) v' → Raises options i w e sites

section Sent

variable {c : Client} {i : Invoke} {options : HandlerOptions} {w w' v : Worker} {e : Thrown}
  {r : Report} {sites : List Site} {request : Request}

/-- A request behind events without one. -/
theorem Worker.Grows.asks (before : w.Grows (·.request? = none) v) :
    w.Asks request (v.note (.request request)) := by
  obtain ⟨events, journal, none⟩ := before
  refine ⟨events ++ [.request request], ?_, ?_⟩
  · rw [Worker.note, journal, List.append_assoc]
  · rw [List.filterMap_append, List.filterMap_eq_nil_iff.2 none]
    rfl

theorem Event.request?_of_quiet {event : Event} (quiet : event.isLoud = false) :
    event.request? = none := by
  rw [Event.isLoud, Bool.or_eq_false_iff] at quiet
  exact Option.isNone_iff_eq_none.1 (Option.isSome_eq_false_iff.1 quiet.2)

/-- A call is no request. -/
theorem Called.request?_eq_none {events : List Event} {call : Option Event}
    (called : Called events call) : ∀ event ∈ events, event.request? = none := by
  intro event mem
  cases loud : event.isLoud with
  | false => exact Event.request?_of_quiet loud
  | true =>
    have seen : event ∈ events.filter Event.isLoud := List.mem_filter.2 ⟨mem, loud⟩
    rw [called.loud, Option.mem_toList] at seen
    have call := called.isCall event seen
    cases event <;> first | rfl | cases call

/-- When the handler fails, there is one request, the report of that. -/
theorem HandlerOptions.Raises.ends_handleInvoke [Interpreter] (raises : options.Raises i w e sites)
    (bound : i.client = some c) (takes : c.Takes w.replies i)
    (made : Report.ofFailure e (.ok sites) = .ok r) (lists : r.ListsPaths) :
    Ends (Run.handleInvoke i options) w fun _ w' => c.Files i r.payload w w' := by
  obtain @⟨context, v, v', built, ran⟩ := raises
  -- Neither the context nor the call of the handler makes a request.
  have built_keeps := ends_build (w := w.naming i) i options.base options.settings
  rw [Ends, built] at built_keeps
  have ran_keeps := ends_run (w := v) options.handler options.base context i.payload
  rw [Ends, ran] at ran_keeps
  obtain ⟨events, call, _, adds, called, -⟩ := ran_keeps
  have replies : v'.replies = w.replies := adds.replies.trans built_keeps.1.replies
  have unasked : w.Grows (·.request? = none) v' := by
    refine ⟨events, ?_, called.request?_eq_none⟩
    rw [adds.journal, built_keeps.1.journal, List.append_nil]
    rfl
  have reported : Ends (Run.reportFailure i r) v' fun s w' =>
      s = .ok () ∧ c.Files i r.payload w w' := by
    rw [← replies] at takes
    refine ((ends_reportFailure i r).and (ends_reportFailure_of_takes bound lists takes)).mono ?_
    rintro _ w' ⟨⟨w₁, ⟨⟨events, adds, quiet⟩, -⟩, reported⟩, rfl, -⟩
    rcases reported with _ | ⟨bound', posted, answered⟩
    cases bound.symm.trans bound'
    cases answered
    have before := unasked.trans ⟨events, adds.journal, fun event mem =>
      Event.request?_of_quiet (quiet event mem)⟩
    rw [adds.replies, replies] at posted
    exact ⟨rfl, _, before.asks, posted⟩
  have settled : Ends (Run.reportAndStopIfFatal i r) v' fun _ w' => c.Files i r.payload w w' := by
    refine reported.bind ?_ ?_
    · rintro _ w' ⟨-, files⟩
      cases r.isFatal <;> exact files
    · rintro _ _ ⟨⟨⟩, -⟩
  exact ends_handleInvoke_of_raises built ran made settled fun _ _ => id

/-- What is taken in one request can be told from the journal. -/
theorem Client.Files.unique {b b' : Bytes} (files : c.Files i b w w') (files' : c.Files i b' w w') :
    b = b' := by
  obtain ⟨request, ⟨events, journal, only⟩, posted⟩ := files
  obtain ⟨request', ⟨events', journal', only'⟩, posted'⟩ := files'
  rw [List.append_cancel_left (journal.symm.trans journal'), only'] at only
  cases only
  obtain ⟨body, made, read⟩ := posted.body
  obtain ⟨body', made', read'⟩ := posted'.body
  cases made
  cases made'
  exact Except.ok.inj (read.trans read'.symm)

end Sent

namespace Run

/-- Where the handler raises an error that lets itself be asked, and that supplies no report with a
    surrogate in its texts, there is one request if the Runtime API takes it: it reports the error,
    and what is read from its body is what the error tells. -/
theorem handleInvoke_tells [Interpreter] (i : Invoke) (options : HandlerOptions) (c : Client)
    (w : Worker) (e : Thrown) (sites : List Site) (bound : i.client = some c)
    (takes : c.Takes w.replies i) (raises : options.Raises i w e sites) (candid : e.Candid)
    (plain : ∀ s ∈ sites, s.Plain) (scalar : ∀ r, e.Supplies r → ∀ t ∈ r.texts, t.Scalar) :
    ∃ s w' b, handleInvoke i options w = ended s w' ∧ c.Files i b w w' ∧
      (∃ type message own, e.Tells sites type message own) ∧
      ∀ type message own, e.Tells sites type message own →
        Payload.decode b = .ok (Report.told type message own) := by
  obtain ⟨type, message, own, tells⟩ := candid.exists_tells sites
  obtain ⟨exit, made, sound⟩ := candid.exists_ofFailure scalar plain tells
  obtain ⟨s, w', handled, files⟩ := (raises.ends_handleInvoke bound takes made
    (Report.listsPaths_of_isValid sound.valid)).exists_ended
  refine ⟨s, w', _, handled, files, ⟨type, message, own, tells⟩, ?_⟩
  intro type' message' own' tells'
  obtain ⟨exit', made', sound'⟩ := candid.exists_ofFailure scalar plain tells'
  -- There is only one report, whatever else the error is taken to tell.
  rw [Except.ok.inj (made.symm.trans made')]
  exact Report.decode_payload_of sound'.scalar sound'.short

end Run

/-! ## Two errors of classes of handler code -/

/-- A handler that does nothing but raise an error, which has passed these places. -/
def HandlerOptions.raisingAt (e : Thrown) (sites : List Site) : HandlerOptions :=
  ⟨.of .raw fun _ _ => ⟨[], .raises e (.ok sites)⟩, .ofScope 0, none⟩

/-- An invoke with well-formed headers. -/
def Invoke.sample : Invoke :=
  ⟨"a", [], .traced "a" "", some ⟨"h"⟩⟩

theorem HandlerOptions.raises_raisingAt [Interpreter] (e : Thrown) (sites : List Site) :
    (raisingAt e sites).Raises .sample (.start 0 none) e sites :=
  .intro rfl rfl

theorem Client.takes_sample : Client.Takes ⟨"h"⟩ (Worker.start 0 none).replies .sample :=
  ⟨_, rfl, rfl⟩

/-- A place in the code of a handler. -/
def Site.sample : Site :=
  ⟨"/var/task/app.py", 7, "handle"⟩

theorem Site.plain_sample : Site.sample.Plain :=
  ⟨scalar_iff.2 rfl, scalar_iff.2 rfl, Json.short_of_lt_ten (by decide)⟩

/-- An ordinary error with a type of its own, the method of which fails to supply a report. -/
def Thrown.misleading : Thrown :=
  ⟨.derived "Odd" (.builtin "ValueError"), [.text "m"],
    .hooks ⟨some (.gives (.text "Custom")), some (.raises (.runtimeError "no report")), none, none⟩⟩

theorem Thrown.not_supplies_misleading (r : Report) : ¬ misleading.Supplies r := by
  rintro (⟨⟨⟩, ⟨⟩⟩ | ⟨⟨⟩, -⟩)

theorem Thrown.candid_misleading : misleading.Candid where
  readable := by rintro _ _ ⟨⟩ ⟨⟩
  typed := by rintro _ _ ⟨⟩ ⟨⟩
  supplying := by
    rintro _ _ ⟨⟩ ⟨⟩
    rfl
  shown := by rintro _ ⟨⟩
  name := scalar_iff.2 rfl
  text := by
    rintro _ ⟨⟩
    exact scalar_iff.2 rfl
  type := by
    rintro _ ⟨_, ⟨⟩, ⟨⟩, -⟩
    exact scalar_iff.2 rfl
  valid r supplies := absurd supplies (not_supplies_misleading r)
  short r supplies := absurd supplies (not_supplies_misleading r)

/-- The type that an error states is told, since its method fails to supply a report. -/
theorem Run.handleInvoke_tells_misleading :
    Client.Takes ⟨"h"⟩ (Worker.start 0 none).replies .sample ∧
    (HandlerOptions.raisingAt .misleading [.sample]).Raises .sample (.start 0 none) .misleading
      [.sample] ∧
    Thrown.misleading.Candid ∧ Site.sample.Plain ∧ ∃ s w' b,
      Run.handleInvoke .sample (.raisingAt .misleading [.sample]) (.start 0 none) = ended s w' ∧
      Client.Files ⟨"h"⟩ .sample b (.start 0 none) w' ∧
      Payload.decode b = .ok (Report.told "Custom" "m" [.sample]) := by
  have raises := HandlerOptions.raises_raisingAt .misleading [.sample]
  have plain : ∀ s ∈ [Site.sample], s.Plain := List.forall_mem_singleton.2 Site.plain_sample
  have tells : Thrown.misleading.Tells [.sample] "Custom" "m" [.sample] :=
    .stated rfl Thrown.not_supplies_misleading ⟨_, rfl, rfl, by decide⟩ (.shown rfl)
  obtain ⟨s, w', b, handled, files, -, told⟩ := Run.handleInvoke_tells .sample _ ⟨"h"⟩
    (.start 0 none) .misleading _ rfl Client.takes_sample raises Thrown.candid_misleading plain
    fun r supplies => absurd supplies (Thrown.not_supplies_misleading r)
  exact ⟨Client.takes_sample, raises, Thrown.candid_misleading, Site.plain_sample, s, w', b,
    handled, files, told _ _ _ tells⟩

/-- An ordinary error that supplies a report with a lone surrogate in it. -/
def Thrown.garbled : Thrown :=
  ⟨.derived "Odd" (.builtin "ValueError"), [.text "m"],
    .hooks ⟨none, some (.supplies (.of "T" [0xD800] [] false)), none, none⟩⟩

theorem Thrown.supplies_garbled {r : Report} (supplies : garbled.Supplies r) :
    r = .of "T" [0xD800] [] false := by
  rcases supplies with ⟨⟨⟩, ⟨⟩⟩ | ⟨⟨⟩, -⟩
  rfl

theorem Thrown.candid_garbled : garbled.Candid where
  readable := by rintro _ _ ⟨⟩ ⟨⟩
  typed := by rintro _ _ ⟨⟩ ⟨⟩
  supplying := by rintro _ _ ⟨⟩ ⟨⟩
  shown := by rintro _ ⟨⟩
  name := scalar_iff.2 rfl
  text := by
    rintro _ ⟨⟩
    exact scalar_iff.2 rfl
  type := by rintro _ ⟨_, ⟨⟩, ⟨⟩, -⟩
  valid r supplies := by
    rw [supplies_garbled supplies]
    rfl
  short r supplies := by
    rw [supplies_garbled supplies]
    exact nofun

/-- A report that an error supplies is not told if there is a lone surrogate in it. -/
theorem Run.not_forall_told_of_raises :
    ¬ ∀ (i : Invoke) (options : HandlerOptions) (c : Client) (w : Worker) (e : Thrown)
      (sites : List Site), i.client = some c → c.Takes w.replies i → options.Raises i w e sites →
      e.Candid → (∀ s ∈ sites, s.Plain) →
        ∃ s w' b, Run.handleInvoke i options w = ended s w' ∧ c.Files i b w w' ∧
          ∀ type message own, e.Tells sites type message own →
            Payload.decode b = .ok (Report.told type message own) := by
  intro all
  have raises := HandlerOptions.raises_raisingAt .garbled []
  obtain ⟨s, w', b, handled, files, told⟩ := all .sample _ ⟨"h"⟩ (.start 0 none) .garbled [] rfl
    Client.takes_sample raises Thrown.candid_garbled nofun
  -- What is sent is the payload of the report, which is that of the fallback.
  have ends := raises.ends_handleInvoke (r := .of "T" [0xD800] [] false) rfl Client.takes_sample
    rfl rfl
  obtain ⟨s', w'', handled', files'⟩ := ends.exists_ended
  have same : w'' = w' := by
    rw [handled] at handled'
    cases s <;> cases s' <;> cases handled' <;> rfl
  subst same
  cases files.unique files'
  have supplies : Thrown.garbled.Supplies (.of "T" [0xD800] [] false) := .method rfl rfl
  have said := told "T" [0xD800] [] (.supplied rfl supplies)
  have failed : ∃ fault, (Report.of "T" [0xD800] [] false).document? = .error fault := ⟨_, rfl⟩
  obtain ⟨fault, failed⟩ := failed
  obtain ⟨message, replaced⟩ := Report.exists_decode_of_fault failed
  cases said.symm.trans replaced

end InvokeWorker
