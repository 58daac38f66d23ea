import InvokeWorker.Report.Basic
import InvokeWorker.Value.Show

/-!
# Reports of errors

Most errors are reported and forgotten, but a *crash* leaves the process in an unknown state: an
error that asks the process to stop, or one of exhausted memory, an exhausted stack or a failed
interpreter. The report of a crash is fatal and says what the error is. The report of any other
error is what the error itself supplies; if it supplies none, its type is the one the error states
or else the name of its class.
-/

namespace InvokeWorker

variable [Interpreter]

namespace Thrown

/-- Whether an error leaves the process in an unknown state. -/
def isCrash (e : Thrown) : Bool :=
  !e.isOrdinary || e.isIn .memory || e.isIn .recursion || e.isIn .system

/-- The error type of invokes with malformed headers. -/
def malformedInvokeType : Text := "Runtime.MalformedInvoke"

/-- The report of a type, a message and frames that were chosen, if they fit. -/
def chosenReport? (type message : Value) (stack : List Frame) : Option Report :=
  (Report.read ⟨some ("error_type", type), some ("error_message", message),
    some ("stack_trace", .items stack), none⟩).toOption

/-- The report an error supplies itself. An ordinary error in doing so counts as no report, but one
    in looking up how it does so is passed on. -/
def ownReport? (e : Thrown) : Except Thrown (Option Report) :=
  match e.detail with
  | .chosen type message stack => .ok (chosenReport? type message stack)
  | .hooks h => match h.report with
    | some (.supplies report) => .ok (some report)
    | some (.unreadable raised) => if raised.isIn .attribute then .ok none else .error raised
    | some (.raises raised) => if raised.isOrdinary then .ok none else .error raised
    | _ => .ok none
  | _ => .ok none

/-- The value an error states as its type. -/
def statedType (e : Thrown) : Except Thrown Value :=
  match e.detail with
  | .chosen type _ _ => .ok type
  | .hooks h => match h.errorType with
    | some (.gives v) => .ok v
    | some (.raises raised) => if raised.isIn .attribute then .ok .null else .error raised
    | none => .ok (if e.isIn .malformedInvoke then .text malformedInvokeType else .null)
  | _ => .ok (if e.isIn .malformedInvoke then .text malformedInvokeType else .null)

/-- The type an error is reported under: a text it states, or the name of its class. -/
def reportedType (e : Thrown) : Except Thrown Value :=
  match e.statedType with
  | .error raised => .error raised
  | .ok v => match Lenient.spelled? v with
    | some (.inl (_ :: _)) => .ok v
    | _ => .ok (.text e.errorClass.name)

end Thrown

namespace Report

/-- A report whose type and message are checked. Its frames are those of the code that was
    running, which need no check, but to list them may fail. -/
def checked (type message : Value) (trace : Traceback) (shouldExit : Bool) :
    Except Thrown Report :=
  match trace with
  | .error raised => .error raised
  | .ok sites =>
    let (m₁, type) := readGiven Lenient.text [] (some ("error_type", type))
    let (m₂, message) := readGiven Lenient.text [] (some ("error_message", message))
    match m₁ ++ m₂ with
    | [] => .ok (.of type message (sites.map Site.frame) shouldExit)
    | misfits => .error (Misplaced.toThrown misfits)

/-- The report of an error that is no crash. -/
def ofError (e : Thrown) (trace : Traceback) : Except Thrown Report :=
  match e.ownReport? with
  | .error raised => .error raised
  | .ok (some report) => .ok report
  | .ok none => match e.reportedType with
    | .error raised => .error raised
    | .ok type => match e.describe with
      | .error raised => .error raised
      | .ok message => checked type message trace false

/-- The report of a crash. -/
def ofCrash (e : Thrown) (trace : Traceback) : Except Thrown Report :=
  match e.describe with
  | .error raised => .error raised
  | .ok message => checked (.text e.errorClass.name) message trace true

/-- The report of an error that handler code has raised. -/
def ofFailure (e : Thrown) (trace : Traceback) : Except Thrown Report :=
  if e.isCrash then ofCrash e trace else ofError e trace

end Report

end InvokeWorker
