import InvokeWorker.Number.Double
import InvokeWorker.Time.Instant
import InvokeWorker.Value.ErrorClass

/-!
# Values, errors and reports

Handler code is free in what it returns and raises, so the worker deals with values of every kind:
plain data, byte sequences, containers, streams, errors, and objects of classes it has never heard
of. `Value` lists the kinds that are told apart somewhere, and an object of an unknown class is
known by its capabilities (`Custom`).

An error that was raised (`Thrown`) has a class, arguments and, depending on the class, more: an
error may carry the report to be sent for it. A report (`Report`) is what the Runtime API is told
about a failed invoke. Its fields are values, since handler code can build reports without any
check; `Report.IsValid` in a later module says when the fields have their declared types.
-/

namespace InvokeWorker

/-- The content of a stream in memory. -/
inductive Content where
  /-- Bytes. -/
  | octets (b : Bytes)
  /-- A text. -/
  | text (t : Text)
  deriving DecidableEq, Repr

/-- How many octets or code points there are. -/
def Content.length : Content → Nat
  | octets b => b.length
  | text t => t.length

mutual

/-- A value of handler code. -/
inductive Value where
  /-- No value. -/
  | null
  /-- A truth value. -/
  | bool (b : Bool)
  /-- An integer of any size. -/
  | int (n : Int)
  /-- A double-precision number. -/
  | float (d : Double)
  /-- A text. -/
  | text (t : Text)
  /-- An immutable byte sequence. -/
  | bytes (b : Bytes)
  /-- A mutable byte sequence. -/
  | byteArray (b : Bytes)
  /-- A view of a byte sequence. -/
  | memoryView (b : Bytes)
  /-- A view that was released, so that nothing can be seen any more. -/
  | releasedView
  /-- A list. -/
  | list (items : List Value)
  /-- A tuple. -/
  | tuple (items : List Value)
  /-- A set. -/
  | set (items : List Value)
  /-- An immutable set. -/
  | frozenSet (items : List Value)
  /-- A mapping, its entries in insertion order. -/
  | mapping (entries : List (Value × Value))
  /-- A date and time. -/
  | instant (t : Instant)
  /-- A readable stream in memory. -/
  | stream (content : Content)
  /-- A generator that nothing was taken from yet. -/
  | generator (pieces : Pieces)
  /-- A body with its content type. The worker itself makes one of bytes and a text only. -/
  | typed (body mediaType : Value)
  /-- An object without any capability. -/
  | bare
  /-- A list that holds itself. -/
  | selfList
  /-- A mapping that holds itself under `self`. -/
  | selfMapping
  /-- An error as a value. -/
  | error (e : Thrown)
  /-- An object of a class of handler code. -/
  | custom (object : Custom)

/-- What one gets from an iteration before it ends or fails. -/
structure Pieces where
  /-- The items. -/
  items : List Value
  /-- The error it is ended by, if any. -/
  failure : Option Thrown

/-- An object of a class of handler code: what it is derived from and what it offers. -/
structure Custom where
  /-- The name of its class. -/
  name : Text
  /-- The value it is as an instance of the class it derives from; `bare` for a plain object. -/
  core : Value
  /-- What its class defines of its own. -/
  own : Capabilities

/-- What a class of handler code defines of its own. -/
structure Capabilities where
  /-- The content type. -/
  contentType : Option Member
  /-- How to close it. -/
  close : Option Member
  /-- How to read it. -/
  read : Option Reading
  /-- What iterating over it yields. -/
  pieces : Option Pieces
  /-- What the method to list the entries of a mapping yields. -/
  entries : Option Pieces
  /-- The error that looking it up among other values raises. -/
  lookupFault : Option Thrown
  /-- The text. -/
  shown : Option Text

/-- A member of an object. -/
inductive Member where
  /-- A method that returns a value. -/
  | returns (v : Value)
  /-- A method that raises an error. -/
  | raises (e : Thrown)
  /-- A plain attribute. -/
  | attribute (v : Value)

/-- What reading an object gives. -/
inductive Reading where
  /-- A method that returns one chunk after the other. -/
  | method (chunks : Pieces)
  /-- A plain attribute in place of the method. -/
  | attribute (v : Value)

/-- An error that was raised. -/
structure Thrown where
  /-- Its class. -/
  errorClass : ErrorClass
  /-- The arguments it was made from. -/
  args : List Value
  /-- What else it carries. -/
  detail : Detail

/-- What an error carries beside its arguments. -/
inductive Detail where
  /-- Nothing. -/
  | plain
  /-- The type, message and frames handler code wants to be reported. -/
  | chosen (type message : Value) (stack : List Frame)
  /-- The status the Runtime API answered. -/
  | status (code : Value)
  /-- The report of the crash. -/
  | crash (report : Report)
  /-- What a class of handler code defines. -/
  | hooks (h : Hooks)

/-- What a class of errors of handler code defines. -/
structure Hooks where
  /-- The error type to report. -/
  errorType : Option Hook
  /-- The report to send. -/
  report : Option ReportHook
  /-- The text of the error. -/
  shown : Option Hook
  /-- A status code. -/
  statusCode : Option Hook

/-- An attribute or method of an error. -/
inductive Hook where
  /-- Gives a value. -/
  | gives (v : Value)
  /-- Raises an error itself. -/
  | raises (e : Thrown)

/-- The member of an error that supplies its report. -/
inductive ReportHook where
  /-- An attribute that raises an error when it is looked up. -/
  | unreadable (e : Thrown)
  /-- A plain attribute, not a method. -/
  | attribute (v : Value)
  /-- A method that returns something else than a report. -/
  | returns (v : Value)
  /-- A method that returns a report. -/
  | supplies (report : Report)
  /-- A method that raises an error itself. -/
  | raises (e : Thrown)

/-- The failure of one invoke. -/
structure Report where
  /-- The type of the error. -/
  errorType : Value
  /-- The message of the error. -/
  message : Value
  /-- The frames, outermost first; none at all if they were left out on purpose. -/
  stack : Option (List Frame)
  /-- Whether the process must exit after the report. -/
  shouldExit : Value

/-- An item of a stack trace. -/
inductive Frame where
  /-- A frame: where the code stands and what it is called. -/
  | site (path line label : Value)
  /-- Anything else that was put into the list. -/
  | other (v : Value)
  /-- Anything else that has a path like a frame. -/
  | pathed (path : Hook) (v : Value)

end

instance : Inhabited Value := ⟨.null⟩

instance : Inhabited Thrown := ⟨⟨.builtin "Exception", [], .plain⟩⟩

instance : Inhabited Hook := ⟨.gives .null⟩

instance : Inhabited ReportHook := ⟨.attribute .null⟩

instance : Inhabited Frame := ⟨.other .null⟩

/-- Nothing is defined. -/
def Capabilities.none : Capabilities :=
  ⟨.none, .none, .none, .none, .none, .none, .none⟩

/-- A place in code. -/
structure Site where
  /-- The file. -/
  path : Text
  /-- The line. -/
  line : Int
  /-- What the code there is called. -/
  label : Text
  deriving DecidableEq, Repr

/-- The places an error has passed, outermost first, or the error of listing them. Who lists them
    looks for the file of each, so that a place whose file has no proper name makes it fail. -/
abbrev Traceback := Except Thrown (List Site)

namespace Thrown

/-- An error of a built-in class with a message. -/
def builtin (name message : Text) : Thrown :=
  ⟨.builtin name, [.text message], .plain⟩

/-- Whether an error belongs to a family. -/
def isIn (e : Thrown) (family : Family) : Bool :=
  e.errorClass.isIn family

/-- An error code may be expected to recover from. -/
def isOrdinary (e : Thrown) : Bool :=
  e.isIn .ordinary

/-- A value of the wrong type. -/
def typeError (message : Text) : Thrown := builtin "TypeError" message

/-- A value that is not acceptable. -/
def valueError (message : Text) : Thrown := builtin "ValueError" message

/-- Something is asked of a view that was released. -/
def releasedView : Thrown := valueError "operation forbidden on released memoryview object"

/-- A failure of a computation. -/
def runtimeError (message : Text) : Thrown := builtin "RuntimeError" message

/-- Too deep a nesting. -/
def recursionError (message : Text) : Thrown := builtin "RecursionError" message

/-- An invoke with malformed headers. -/
def malformedInvoke (message : Text) : Thrown :=
  ⟨.malformedInvoke, [.text message], .plain⟩

/-- The Runtime API cannot be reached or refuses a request. -/
def runtimeApi (message : Text) (status : Value) : Thrown :=
  ⟨.runtimeApi, [.text message], .status status⟩

/-- An error whose report is chosen, without frames. -/
def chosen (type message : Text) : Thrown :=
  ⟨.handler, [.text message], .chosen (.text type) (.text message) []⟩

/-- What is raised after a fatal failure has been reported. -/
def handlerCrash (report : Report) : Thrown :=
  ⟨.handlerCrash,
    [.text "calling the handler function resulted in a crash, the process should exit"],
    .crash report⟩

/-- Input that does not fit its declared shape; the message lists the places and faults. -/
def validation (message : Text) : Thrown :=
  ⟨⟨"ValidationError", some "pydantic_core._pydantic_core", [.ordinary, .value]⟩, [.text message],
    .plain⟩

end Thrown

/-- The error an iteration fails with. The error that says that it has ended is no failure. -/
def Pieces.fault? (p : Pieces) : Option Thrown :=
  p.failure.filter fun e => !e.isIn .stopIteration

/-- The items of an iteration that does not fail. -/
def Pieces.all (p : Pieces) : Except Thrown (List Value) :=
  match p.fault? with
  | some e => .error e
  | none => .ok p.items

end InvokeWorker
