import InvokeWorker.Correlation
import InvokeWorker.Json.Writer
import InvokeWorker.Log.Failure
import InvokeWorker.Log.Percent
import InvokeWorker.Value.Encode

/-!
# Log lines

A log line is one JSON object: when, how severe, by whom, what, for which invoke, and whatever else
is attached to the record. The fields every line has cannot be taken by an attachment. A record may
bring its own trace header and request id; otherwise those of the invoke being processed are shown.

The worker's own records (`LogEntry`) are texts with a few attachments; `LogRecord` is the general
case, where message, arguments and attachments are values of any kind. If it reports a failure, the
text of that is made before and shown as it is.
-/

namespace InvokeWorker

variable [Interpreter]

namespace LogLevel

/-- The levels with a name, by number. -/
def names : List (Int × Text) :=
  [(50, "CRITICAL"), (40, "ERROR"), (30, "WARNING"), (20, "INFO"), (10, "DEBUG"), (0, "NOTSET")]

/-- The name a record of a level is made with. -/
def name (level : Int) : Text :=
  (names.lookup level).getD (("Level " : Text) ++ Text.ofInt level)

end LogLevel

/-- A record of the worker itself. -/
structure LogEntry where
  /-- The name of the level. -/
  level : Text
  /-- The logger. -/
  logger : Text
  /-- The message. -/
  message : Text
  /-- What is attached. -/
  extras : List (Text × Document)
  /-- The failure that is reported. -/
  failure : Option Failure

namespace LogEntry

/-- A record with a message only. -/
def of (level logger message : Text) : LogEntry :=
  ⟨level, logger, message, [], none⟩

end LogEntry

/-- A record. -/
structure LogRecord where
  /-- The logger. -/
  logger : Text
  /-- The name of the level. -/
  level : Text
  /-- The message. -/
  message : Value
  /-- What is written into the message. -/
  args : List Value
  /-- When the record was made, in seconds since the start of 1970. -/
  created : Double
  /-- What is attached. -/
  extras : List (Text × Value)
  /-- The text of the failure that is reported. -/
  failure : Option Text

namespace LogRecord

/-- Names that no attachment can be shown under. -/
def reserved : List Text :=
  ["args", "asctime", "created", "exc_info", "exc_text", "filename", "funcName", "levelname",
    "levelno", "lineno", "module", "msecs", "message", "msg", "name", "pathname", "process",
    "processName", "relativeCreated", "stack_info", "taskName", "thread", "threadName"]

/-! ## When -/

/-- A number of seconds is beyond all dates. -/
def tooFar : Thrown :=
  .builtin "OverflowError" "timestamp out of range for platform time_t"

/-- A year is beyond the calendar. -/
def tooLarge : Thrown :=
  .ofClass (.builtin "OSError") [.int 75, .text "Value too large for defined data type"]

/-- The whole seconds of a time and the microseconds above them, rounded to the even one of two
    neighbours. -/
def secondsAndMicros (d : Double) : Except Thrown (Int × Int) :=
  match d with
  | .nan => .error (.valueError "Invalid value NaN (not a number)")
  | .infinity _ => .error tooFar
  | d =>
    let whole := d.truncate.getD 0
    let micros := ((d.sub (.ofIntRatio whole 1)).mul (.ofIntRatio 1000000 1)).round.getD 0
    if whole < -(2 ^ 63) ∨ 2 ^ 63 ≤ whole then .error tooFar
    else if 1000000 ≤ micros then .ok (whole + 1, micros - 1000000)
    else if micros < 0 then .ok (whole - 1, micros + 1000000)
    else .ok (whole, micros)

/-- The time a record shows, to the millisecond. -/
def time (created : Double) : Except Thrown Text :=
  match secondsAndMicros created with
  | .error e => .error e
  | .ok (seconds, micros) =>
    let ms := seconds * 1000 + micros / 1000
    match Instant.ofMillis? ms with
    | .ok t => .ok t.isoMillis
    | .error _ =>
      let year := (Instant.Date.ofDays (seconds.fdiv 86400)).year
      if year - 1900 < -(2 ^ 31) ∨ 2 ^ 31 ≤ year - 1900 then .error tooLarge
      else .error (.valueError ("year " ++ Text.ofInt (year.bmod (2 ^ 32)) ++ " is out of range"))

/-! ## For which invoke -/

/-- An attachment that is there and counts as true. -/
def ownValue? (r : LogRecord) (name : Text) : Option Value :=
  match r.extras.lookup name with
  | some v => if v.isTrue then some v else none
  | none => none

/-- What is shown for a trace header: its root, or the header if it names none. Only a text can be
    read as a header. -/
def shownTrace (v : Value) : Except Thrown Document :=
  match v with
  | .text t => .ok (.text (Correlation.shownTrace t))
  | .custom ⟨_, .text t, _⟩ => .ok (.text (Correlation.shownTrace t))
  | .bytes _ => .error (.typeError "a bytes-like object is required, not 'str'")
  | .byteArray _ => .error (.typeError "a bytes-like object is required, not 'str'")
  | .custom ⟨_, .bytes _, _⟩ =>
    .error (.typeError "a bytes-like object is required, not 'str'")
  | v => .error (.builtin "AttributeError"
      ("'" ++ v.plainTypeName ++ "' object has no attribute 'split'"))

/-- What a line is about: the record's own attachment of this name, or what is known of the invoke,
    unless that is empty. -/
def about? (r : LogRecord) (name : Text) (known : Option Text) : Option Value :=
  (ownValue? r name).or ((known.filter fun t => !t.isEmpty).map .text)

/-- The trace header a line is about: the record's own or that of the invoke. -/
def trace? (c : Correlation) (r : LogRecord) : Option Value :=
  about? r "trace_id" c.trace

/-- The request id a line is about: the record's own or that of the invoke. -/
def request? (c : Correlation) (r : LogRecord) : Option Value :=
  about? r "aws_request_id" c.request

/-! ## What -/

/-- The message with the arguments written into it, if there are any. -/
def text (r : LogRecord) : Except Thrown Text :=
  match r.message.display with
  | .error e => .error e
  | .ok t => if r.args.isEmpty then .ok t else Percent.format t (.of r.args)

/-- Whether an attachment is shown. -/
def isShown (name : Text) : Bool :=
  !reserved.contains name && !Text.startsWith name "_"

/-- The document of an attachment; a value that has none is shown as a text. -/
def extraDocument (v : Value) : Except Thrown Document :=
  match v.document? Value.displayed (nestingLimit - 1) with
  | .ok d => .ok d
  | .error fault => .error fault.toThrown

/-- Adds the attachments to the fields of a line; a field that is there already stays. -/
def addExtras : List (Text × Value) → List (Text × Document) →
    Except Thrown (List (Text × Document))
  | [], fields => .ok fields
  | (name, v) :: rest, fields =>
    if !isShown name || (fields.lookup name).isSome then addExtras rest fields
    else match extraDocument v with
      | .error e => .error e
      | .ok d => addExtras rest (fields ++ [(name, d)])

/-- The name of the field a failure is shown in. -/
def failureField : Text := "exception"

/-- The attachments with the failure among them. It takes the place of an attachment of its name,
    or else comes last. -/
def allExtras (r : LogRecord) : List (Text × Value) :=
  match r.failure with
  | none => r.extras
  | some shown =>
    let failure := (failureField, Value.text shown)
    if (r.extras.lookup failureField).isSome then
      r.extras.map fun (name, v) => if name = failureField then failure else (name, v)
    else r.extras ++ [failure]

/-- The fields of a line in order. -/
def fields (c : Correlation) (r : LogRecord) : Except Thrown (List (Text × Document)) := do
  let time ← time r.created
  let message ← r.text
  let start : List (Text × Document) :=
    [("_time", .text time), ("level", .text r.level), ("logger", .text r.logger),
      ("message", .text message)]
  let withTrace ← match trace? c r with
    | none => pure start
    | some v => do
      let shown ← shownTrace v
      pure (start ++ [(("trace_id" : Text), shown)])
  let withRequest ← match request? c r with
    | none => pure withTrace
    | some v => do
      let shown ← extraDocument v
      pure (withTrace ++ [(("aws_request_id" : Text), shown)])
  addExtras r.allExtras withRequest

/-- The line of a record. -/
def line (c : Correlation) (r : LogRecord) : Except Thrown Text :=
  (fields c r).map fun fields => (Document.object fields).render .readable

end LogRecord

end InvokeWorker
