import InvokeWorker.Text.Basic

/-!
# Classes of errors

Handler code and the transport raise errors of many classes. The worker never inspects a class
beyond its name, the module it is at home in and a few families it may belong to, so that is what
a class is here. `ErrorClass.builtin` knows the classes every handler can rely on.
-/

namespace InvokeWorker

/-- The families of errors that are treated alike somewhere. An error outside `ordinary` asks the
    process to stop. -/
inductive Family where
  /-- Errors that code may be expected to recover from. -/
  | ordinary
  /-- Memory is exhausted. -/
  | memory
  /-- The stack is exhausted. -/
  | recursion
  /-- The interpreter has failed. -/
  | system
  /-- Errors that carry an error number of the operating system. -/
  | os
  /-- A key is missing. -/
  | key
  /-- An attribute is missing. -/
  | attribute
  /-- A value of the wrong type. -/
  | type
  /-- A value that is not acceptable. -/
  | value
  /-- A text has no encoding. -/
  | encoding
  /-- Bytes are the encoding of no text. -/
  | decoding
  /-- A text cannot be translated. -/
  | translation
  /-- Several errors at once. -/
  | group
  /-- The source of code is malformed. -/
  | source
  /-- An iteration has ended. -/
  | stopIteration
  /-- A request to exit with a status. -/
  | exit
  /-- The transport failed. -/
  | transport
  /-- Errors of the worker itself. -/
  | worker
  /-- Invokes with malformed headers. -/
  | malformedInvoke
  deriving DecidableEq, Repr

/-- A class of errors. -/
structure ErrorClass where
  /-- The name. -/
  name : Text
  /-- The module a class is at home in, unless it is built in. -/
  home : Option Text
  /-- The families the class belongs to. -/
  families : List Family
  deriving DecidableEq, Repr

namespace ErrorClass

/-- Whether a class belongs to a family. -/
def isIn (c : ErrorClass) (family : Family) : Bool :=
  c.families.contains family

/-- Whether errors of the class are about an encoding, a decoding or a translation. -/
def isCoding (c : ErrorClass) : Bool :=
  c.isIn .encoding || c.isIn .decoding || c.isIn .translation

/-- The class with its module, as a report of an uncaught error shows it. -/
def qualifiedName (c : ErrorClass) : Text :=
  match c.home with
  | none => c.name
  | some home => home ++ 46 :: c.name

/-- The built-in classes outside the ordinary errors. -/
def exceptional : List (Text × List Family) :=
  [("BaseException", []), ("SystemExit", [.exit]), ("KeyboardInterrupt", []),
    ("GeneratorExit", []), ("BaseExceptionGroup", [.group])]

/-- The built-in ordinary classes that belong to a second family. -/
def special : List (Text × List Family) :=
  [("MemoryError", [.memory]), ("RecursionError", [.recursion]), ("SystemError", [.system]),
    ("KeyError", [.key]), ("AttributeError", [.attribute]), ("StopIteration", [.stopIteration]),
    ("SyntaxError", [.source]), ("IndentationError", [.source]), ("TabError", [.source]),
    ("TypeError", [.type]), ("ValueError", [.value]), ("UnicodeError", [.value]),
    ("UnicodeEncodeError", [.value, .encoding]), ("UnicodeDecodeError", [.value, .decoding]),
    ("UnicodeTranslateError", [.value, .translation]), ("ExceptionGroup", [.group])]

/-- The built-in classes of operating-system errors and the error numbers that select them. -/
def ofOperatingSystem : List (Text × List Int) :=
  [("OSError", []), ("EnvironmentError", []), ("IOError", []), ("BlockingIOError", [11, 114, 115]),
    ("ChildProcessError", [10]), ("ConnectionError", []), ("BrokenPipeError", [32, 108]),
    ("ConnectionAbortedError", [103]), ("ConnectionRefusedError", [111]),
    ("ConnectionResetError", [104]), ("FileExistsError", [17]), ("FileNotFoundError", [2]),
    ("InterruptedError", [4]), ("IsADirectoryError", [21]), ("NotADirectoryError", [20]),
    ("PermissionError", [1, 13]), ("ProcessLookupError", [3]), ("TimeoutError", [110])]

/-- A built-in class by its name. A name no other list knows is that of an ordinary class. -/
def builtin (name : Text) : ErrorClass :=
  match exceptional.lookup name with
  | some families => ⟨name, none, families⟩
  | none =>
    match special.lookup name with
    | some families => ⟨name, none, .ordinary :: families⟩
    | none =>
      if (ofOperatingSystem.lookup name).isSome then
        let name : Text := if name = "EnvironmentError" ∨ name = "IOError" then "OSError" else name
        ⟨name, none, [.ordinary, .os]⟩
      else ⟨name, none, [.ordinary]⟩

/-- The class an operating-system error of an error number belongs to, if it has one of its own. -/
def ofErrorNumber? (n : Int) : Option ErrorClass :=
  (ofOperatingSystem.find? fun (_, numbers) => numbers.contains n).map fun (name, _) => builtin name

/-- The cancellation of an asynchronous task. -/
def cancelled : ErrorClass :=
  ⟨"CancelledError", some "asyncio.exceptions", []⟩

/-- The transport's errors that are not failures of the transport. -/
def transportMisuse : List Text :=
  ["InvalidURL", "CookieConflict", "StreamError", "StreamConsumed", "StreamClosed",
    "ResponseNotRead", "RequestNotRead"]

/-- A class of the transport. -/
def transport (name : Text) : ErrorClass :=
  ⟨name, some "httpx",
    if transportMisuse.contains name then [.ordinary] else [.ordinary, .transport]⟩

/-- The module the worker's own classes are at home in. -/
def workerHome : Text := "services.runtime.core.exceptions"

/-- A class of the worker's own errors. -/
def worker (name : Text) : ErrorClass :=
  ⟨name, some workerHome, [.ordinary, .worker]⟩

/-- An invoke with malformed headers. -/
def malformedInvoke : ErrorClass :=
  ⟨"MalformedInvokeError", some workerHome, [.ordinary, .worker, .malformedInvoke]⟩

/-- The Runtime API cannot be reached or refuses a request. -/
def runtimeApi : ErrorClass := worker "RuntimeAPIError"

/-- The handler failed fatally and has been reported. -/
def handlerCrash : ErrorClass := worker "HandlerCrashError"

/-- An error whose report handler code has chosen; not one of the worker's own. -/
def handler : ErrorClass := ⟨"HandlerError", some workerHome, [.ordinary]⟩

/-- A class that handler code derives from another one. -/
def derived (name : Text) (base : ErrorClass) : ErrorClass :=
  ⟨name, some "app", base.families⟩

end ErrorClass

end InvokeWorker
