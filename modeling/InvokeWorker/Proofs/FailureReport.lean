import InvokeWorker.Proofs.LoopErrors
import InvokeWorker.Proofs.WireText

/-!
# How a failure is reported

A report goes out twice, as a log line and as the body of a request, and a trace document goes with
the request. Reports may hold anything, and so may the frames in them.

* `Run.reportFailure_files`: whatever is in a report, its text is logged once, as an error, and then
  there is one POST of its bytes, which stand for this text. The trace document is a header of the
  request if it can be written and is not too long, and does not stand in the way. What the POST
  raises is made an error of the Runtime API, or is let through.
* `Run.not_forall_isApiError_of_reportFailure`: an error can be let through.

The paths of the frames have to be such that they can be listed (`Report.ListsPaths`).
-/

namespace InvokeWorker

open Run (Ends ended)

/-- The trace document that goes with a report, if it can be written. It is made of what the payload
    has left of the report. -/
def Report.cause? [Interpreter] (r : Report) (directory : Option Text) : Option Bytes :=
  (r.left.trace? (directory.getD [])).toOption.map fun d => Utf8.encodeLax (d.render .wire)

namespace Worker

/-- A log line, with what identifies the invoke. -/
def line (w : Worker) (entry : LogEntry) : Event :=
  .log entry (w.correlation.trace.map Correlation.shownTrace)
    (w.correlation.request.filter fun id => !id.isEmpty)

/-- The warning that a trace document is dropped, if it is. -/
def dropped [Interpreter] (w : Worker) (r : Report) : List Event :=
  match r.left.trace? (w.directory.getD []) with
  | .ok _ => []
  | .error fault => [w.line (.of "WARNING" Run.failureLogger
      ("Dropping X-Ray error cause that could not be serialized: " ++ fault.message))]

/-- The state when a report is about to be sent: it was logged. -/
def reporting [Interpreter] (w : Worker) (r : Report) : Worker :=
  w.noting (w.line (.of "ERROR" Run.failureLogger r.payloadText) :: w.dropped r)

end Worker

/-- What becomes of an error of a POST that reports a failure: an ordinary one is made an error of
    the Runtime API by its text and its status code; if one of these cannot be had, what is raised
    instead is let through, as is an error that is not ordinary. -/
inductive Thrown.Surfaces [Interpreter] (x : Thrown) : Thrown → Prop
  | api {shown : Text} {status : Value} : x.isOrdinary = true → x.display = .ok shown →
    x.statusCode = .ok status → Surfaces x (.runtimeApi
      ("unexpected error occurred when sending the function error to the API: " ++ shown) status)
  | unshown {raised : Thrown} : x.isOrdinary = true → x.display = .error raised → Surfaces x raised
  | uncoded {shown : Text} {raised : Thrown} : x.isOrdinary = true → x.display = .ok shown →
    x.statusCode = .error raised → Surfaces x raised
  | stop : x.isOrdinary = false → Surfaces x x

/-- How reporting a failure ends when its POST has ended so. -/
inductive Concluded [Interpreter] : Except Thrown Unit → Except Thrown Unit → Prop
  | taken : Concluded (.ok ()) (.ok ())
  | failed {x e : Thrown} : x.Surfaces e → Concluded (.error x) (.error e)

/-- The request that reports a failure at a URL: the bytes of the report are its body, and the trace
    document is a header of it, if there is one and it is not too long. -/
structure Reports [Interpreter] (r : Report) (u : Url) (directory : Option Text)
    (request : Request) : Prop where
  method : request.method = "POST"
  url : request.url = u.toText
  contentType : request.contentType = some (Bytes.ofAscii ContentType.json)
  body : request.body = r.payload
  cause : request.cause = (r.cause? directory).filter fun b => b.length < Client.causeLimit

/-- What the POST of a report comes to: it is sent, and the reply to it counts, unless its address
    makes no URL. -/
inductive Sent [Interpreter] (url : Text) (r : Report) (w : Worker) :
    Except Thrown Unit → Worker → Prop
  | unsent {e : Thrown} : Client.normalize url = .error e →
    Sent url r w (.error e) (w.reporting r)
  | sent {u : Url} {request : Request} : Client.normalize url = .ok u →
    Reports r u w.directory request →
    Sent url r w (Client.afterReply url (Client.replyTo w.replies u))
      ((w.reporting r).note (.request request))

section Reporting

variable [Interpreter] {c : Client} {i : Invoke} {r : Report} {w w' : Worker} {url : Text}
  {s : Except Thrown Unit}

/-- Behind the log line of a report its trace document is made, or dropped with a warning. -/
theorem ends_traceDocument_of_lists (lists : r.ListsPaths) :
    Ends (Run.traceDocument r.left) (w.log (.of "ERROR" Run.failureLogger r.payloadText))
      fun s v => s = .ok (r.cause? w.directory) ∧ v = w.reporting r := by
  -- The paths are listed first, and an error in that is not caught: this is what `lists` excludes.
  refine Ends.ofExcept_bind (fun _ _ => Ends.get_bind ?_) fun e unlisted => ?_
  · split
    · next d made =>
      have made : r.left.trace? (w.directory.getD []) = .ok d := made
      rw [Report.cause?, Worker.reporting, Worker.dropped, made]
      exact ⟨rfl, rfl⟩
    · next fault failed =>
      have failed : r.left.trace? (w.directory.getD []) = .error fault := failed
      rw [Report.cause?, Worker.reporting, Worker.dropped, failed]
      refine ⟨rfl, ?_⟩
      simp [Worker.log, Worker.note, Worker.noting, Worker.line]
  · rw [r.checkPaths_left] at unlisted
    cases lists.symm.trans unlisted

/-- A report is bytes, and its content type is a header, so only its address can be at fault. -/
theorem sent_of_concludes (concluded : Client.Concludes url (.bytes r.payload) ContentType.json
    (r.cause? w.directory) (w.reporting r) s w') : Sent url r w s w' := by
  cases concluded with
  | unmade unmade =>
    obtain failed | failed | failed | ⟨body, x, made, failed, -⟩ := unmade
    · exact .unsent failed
    · cases failed
    · cases failed
    · cases made
      cases failed
  | made parsed typed made read =>
    cases typed
    cases made
    cases read
    exact .sent parsed ⟨rfl, rfl, rfl, rfl, rfl⟩

theorem concluded_replacing {run : Run Unit} (ran : run w = ended s w') :
    Ends (run.replacing (Run.asApiError
      "unexpected error occurred when sending the function error to the API")) w
      fun s' v => v = w' ∧ Concluded s s' := by
  have ends : Ends run w fun r v => r = s ∧ v = w' := by
    rw [Ends, ran]
    cases s <;> exact ⟨rfl, rfl⟩
  refine ends.replacing ?_ ?_
  · rintro ⟨⟩ v ⟨rfl, rfl⟩
    exact ⟨rfl, .taken⟩
  · rintro x v ⟨rfl, rfl⟩
    split
    · next ordinary =>
      rw [Run.asApiError]
      split
      · next unshown => exact ⟨rfl, .failed (.unshown ordinary unshown)⟩
      · next shown =>
        split
        · next uncoded => exact ⟨rfl, .failed (.uncoded ordinary shown uncoded)⟩
        · next status => exact ⟨rfl, .failed (.api ordinary shown status)⟩
    · next extraordinary => exact ⟨rfl, .failed (.stop (Bool.eq_false_iff.2 extraordinary))⟩

end Reporting

namespace Run

/-- Whatever is in a report, it is logged, once, as the text that its bytes stand for. Then the
    bytes are given to one POST, with the trace document if it can be written; if it cannot, a
    warning was logged, and nothing else. What the POST ends with decides how this ends. -/
theorem reportFailure_files [Interpreter] (i : Invoke) (r : Report) (c : Client) (w : Worker)
    (bound : i.client = some c) (lists : r.ListsPaths) :
    Utf8.text? r.payload = some r.payloadText ∧ ∃ s w',
      Client.post (c.invocationUrl i.id "error") (.bytes r.payload) ContentType.json
        (r.cause? w.directory) (w.reporting r) = ended s w' ∧
      Sent (c.invocationUrl i.id "error") r w s w' ∧
      ∃ s', reportFailure i r w = ended s' w' ∧ Concluded s s' := by
  refine ⟨r.text?_payload, ?_⟩
  obtain ⟨s, w', posted, concludes⟩ := (concludes_post (w := w.reporting r)
    (c.invocationUrl i.id "error") (.bytes r.payload) ContentType.json
    (r.cause? w.directory)).exists_ended
  refine ⟨s, w', posted, sent_of_concludes concludes, ?_⟩
  have failed : i.fail (.bytes r.payload) ContentType.json (r.cause? w.directory) (w.reporting r) =
      ended s w' := by
    rw [Invoke.fail, Invoke.boundClient, bound]
    exact posted
  have reported : Ends (reportFailure i r) w fun s' v => v = w' ∧ Concluded s s' := by
    refine Ends.log_bind ((ends_traceDocument_of_lists lists).bind ?_ ?_)
    · rintro cause v ⟨⟨⟩, rfl⟩
      exact concluded_replacing failed
    · rintro e v ⟨⟨⟩, -⟩
  obtain ⟨s', v, ran, rfl, concluded⟩ := reported.exists_ended
  exact ⟨s', ran, concluded⟩

/-- A report with a frame that has no place on the wire is filed, without a trace document. -/
theorem reportFailure_files_of_bare :
    ∃ r : Report, r.stack = some [.other .bare] ∧ r.ListsPaths ∧ ∃ u request w',
      Reports r u none request ∧ request.cause = none ∧
      w'.journal = ((Worker.start 0 none).reporting r).journal ++ [.request request] ∧
      reportFailure ⟨"a", [], [], some ⟨"h"⟩⟩ r (.start 0 none) = .ok () w' := by
  have lists : (Report.mk (.text "E") (.text "m") (some [.other .bare]) (.bool false)).ListsPaths :=
    rfl
  obtain ⟨-, s, w', posted, sent, s', ran, concluded⟩ := reportFailure_files
    ⟨"a", [], [], some ⟨"h"⟩⟩ _ ⟨"h"⟩ (.start 0 none) rfl lists
  obtain ⟨u, parsed⟩ : ∃ u, Client.normalize (Client.invocationUrl ⟨"h"⟩ "a" "error") = .ok u :=
    ⟨_, rfl⟩
  cases sent with
  | unsent failed => cases parsed.symm.trans failed
  | @sent u request parsed reports =>
    have reply : Client.replyTo (Worker.start 0 none).replies u = .accepted := by
      rw [Client.replyTo]
      split
      · rfl
      · split <;> rfl
    rw [reply] at concluded
    cases concluded
    exact ⟨_, rfl, lists, u, request, _, reports, reports.cause, rfl, ran⟩

/-- Not every error that is raised here is one of the Runtime API. -/
theorem not_forall_isApiError_of_reportFailure :
    ¬ ∀ (i : Invoke) (r : Report) (c : Client) (w w' : Worker) (e : Thrown), i.client = some c →
      reportFailure i r w = .error e w' → e.IsApiError := by
  intro all
  obtain ⟨message, status, same⟩ := all ⟨"a", [], [], some ⟨"h"⟩⟩ (.of "E" "m" [] false) ⟨"h"⟩
    { Worker.start 0 none with
      replies := ⟨.accepted, .failure (.builtin "KeyboardInterrupt" []), .accepted⟩ } _
    (.builtin "KeyboardInterrupt" []) rfl rfl
  cases same

end Run

end InvokeWorker
