import InvokeWorker.Response.Capability
import InvokeWorker.Text.Encoding
import InvokeWorker.Worker.Basic

/-!
# Body, content type and release of a response

Of a result that is a body, `Response.source` gives what is sent and `Response.contentType` the
content type it declares. A declaration that fails or is no text is passed over. Afterwards a result
that holds a resource is released, whatever has come of sending it (`Response.releasing`); a release
that fails is logged.

To pass over an error means to log its text (`Response.passOver`). So it has to be an ordinary one
and to have a text; otherwise it is not passed over.
-/

namespace InvokeWorker.Response

variable [Interpreter]

/-- The logger of what happens to responses. -/
def logger : Text := "runtime.negotiator"

/-- What is sent for a result: bytes for text and for bytes of every kind, the body of one with a
    content type, or the result itself. -/
def source (v : Value) : Except Thrown Value :=
  match v with
  | .null => .ok (.bytes [])
  | .releasedView => .error .releasedView
  | v => match v.packed?, v.text? with
    | some body, _ => .ok body
    | none, none => .ok v
    | none, some t => match Utf8.encode? t with
      | .ok b => .ok (.bytes b)
      | .error fault => .error (.builtin "UnicodeEncodeError" fault.message)

/-- What a value says that was returned as a content type: a text, or nothing. -/
def declared (v : Value) (default_ : Text) : Text :=
  v.text?.getD default_

/-- Logs an ordinary error by its text. If it has none, what is raised in its place is passed on, as
    is an error of another kind. -/
def passOver (e : Thrown) (entry : Text → LogEntry) : Run Unit := do
  if e.isOrdinary then
    let shown ← Run.ofExcept e.display
    Run.log (entry shown)
  else throw e

/-- The remark that a declaration of a content type has failed. -/
def undeclared (shown : Text) : LogEntry :=
  .of "WARNING" logger ("Ignoring content type of handler response: " ++ shown)

/-- The content type a result declares, or the default. -/
def contentType (v : Value) (default_ : Text) : Run Text := do
  match v with
  | .typed _ mediaType => return declared mediaType default_
  | .custom o => match o.own.contentType, o.core with
    | some (.returns v), _ =>
      Run.note (.method "content_type")
      return declared v default_
    | some (.raises e), _ =>
      Run.note (.method "content_type")
      passOver e undeclared
      return default_
    | none, .typed _ mediaType => return declared mediaType default_
    | _, _ => return default_
  | _ => return default_

/-- What is sent for a result and its content type. -/
def negotiate (v : Value) : Run (Value × Text) := do
  let body ← Run.ofExcept (source v)
  let type ← contentType v ContentType.octets
  return (body, type)

/-- The remark that a result could not be released. -/
def unreleased (e : Thrown) (shown : Text) : LogEntry :=
  { LogEntry.of "WARNING" logger ("Failed to release handler response: " ++ shown) with
    extras := [("error_type", .text e.errorClass.name)] }

/-- An error of calling what is not a method. -/
def notCallable (v : Value) : Thrown :=
  .typeError ("'" ++ v.plainTypeName ++ "' object is not callable")

/-- Releases a result that holds a resource: by the method its class has for that, or as the stream
    or generator it is. -/
def release (v : Value) : Run Unit := do
  match v with
  | .stream _ => Run.note .closed
  | .generator _ => Run.note .closed
  | .custom o => match o.own.close, o.core with
    | some (.returns _), _ => Run.note (.method "close")
    | some (.raises e), _ =>
      Run.note (.method "close")
      passOver e (unreleased e)
    | some (.attribute .null), _ => return
    | some (.attribute v), _ => passOver (notCallable v) (unreleased (notCallable v))
    | none, .stream _ => Run.note .closed
    | none, .generator _ => Run.note .closed
    | none, _ => return
  | _ => return

/-- Does something with a result and releases it afterwards. -/
def releasing {α : Type} (v : Value) (run : Run α) : Run α :=
  run.andFinally (release v)

end InvokeWorker.Response
