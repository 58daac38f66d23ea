import InvokeWorker.Value.Parts

/-!
# What a result is capable of

The worker does not ask of which class a result is but what can be done with it: whether it is
text or bytes, can be read, can be iterated over, declares a content type, or holds a resource that
has to be released.
-/

namespace InvokeWorker.Value

/-- What is sent for a value that is no body by itself but holds one: as a sequence that can be
    changed, as a view, or with its content type. Views have no derived classes. -/
def packed? : Value → Option Value
  | byteArray b => some (bytes b)
  | memoryView b => some (bytes b)
  | typed body _ => some body
  | custom ⟨_, byteArray b, _⟩ => some (bytes b)
  | custom ⟨_, typed body _, _⟩ => some body
  | _ => none

/-- Whether the value is a mutable byte sequence, be it of a derived class. -/
def isByteArray : Value → Bool
  | byteArray _ => true
  | custom ⟨_, byteArray _, _⟩ => true
  | _ => false

/-- Whether the value can be read. -/
def isReadable : Value → Bool
  | stream _ => true
  | custom o => match o.own.read, o.core with
    | some (.method _), _ => true
    | some (.attribute _), _ => false
    | none, stream _ => true
    | none, _ => false
  | _ => false

/-- Whether the value is a container: it can be iterated over, but never to obtain a body. -/
def isContainer : Value → Bool
  | list _ => true
  | tuple _ => true
  | set _ => true
  | frozenSet _ => true
  | mapping _ => true
  | selfList => true
  | selfMapping => true
  | custom ⟨_, core, _⟩ => isContainer core
  | _ => false

/-- Whether the value can be iterated over. -/
def isIterable : Value → Bool
  | text _ => true
  | bytes _ => true
  | byteArray _ => true
  | memoryView _ => true
  | releasedView => true
  | stream _ => true
  | generator _ => true
  | custom ⟨_, core, own⟩ => own.pieces.isSome || isIterable core
  | v => v.isContainer

/-- Whether the value has a method that declares its content type. -/
def declaresContentType : Value → Bool
  | typed _ _ => true
  | custom o => match o.own.contentType, o.core with
    | some (.returns _), _ => true
    | some (.raises _), _ => true
    | none, typed _ _ => true
    | _, _ => false
  | _ => false

/-- Whether the value can be sent as it is. -/
def isBody (v : Value) : Bool :=
  match v with
  | null => true
  | v => v.packed?.isSome || v.text?.isSome || v.bytes?.isSome || v.isReadable ||
      (v.isIterable && !v.isContainer)

/-- Whether the value is a body that needs no encoding: it is bytes, can be read, or is a body and
    declares its content type. -/
def passesThrough (v : Value) : Bool :=
  v.isByteArray || v.bytes?.isSome || v.isReadable || (v.declaresContentType && v.isBody)

end InvokeWorker.Value
