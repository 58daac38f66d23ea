import InvokeWorker.Response.Negotiation

/-!
# Bodies of requests

The body of a request is made from a value. Bytes and text are sent with their length; so is a
stream, whose end can be looked up. Anything else that can be iterated over is sent in chunks of
unstated length: it is read if it has something to read it with, otherwise its items are joined.
What is joined has to be bytes. A mapping is no body, nor is a value that cannot be iterated over.
-/

namespace InvokeWorker

/-- A body before it is read. -/
structure Body where
  /-- The stated length; without one the body is sent in chunks. -/
  length : Option Nat
  /-- What reading it gives. -/
  content : Except Thrown Bytes

namespace Body

/-- A body of bytes. -/
def ofBytes (b : Bytes) : Body := ⟨some b.length, .ok b⟩

/-- The content of the stream a value is, be it of a derived class. -/
def stream? : Value → Option Content
  | .stream content => some content
  | .custom ⟨_, .stream content, _⟩ => some content
  | _ => none

/-- Whether a value is a mapping, be it of a derived class. -/
def isMapping : Value → Bool
  | .mapping _ => true
  | .selfMapping => true
  | .custom ⟨_, core, _⟩ => isMapping core
  | _ => false

/-- Joins items; the first one that is no byte sequence is named. -/
def joinFrom (position : Nat) : List Value → Except Thrown Bytes
  | [] => .ok []
  | v :: rest => match v.octets? with
    | some b => (joinFrom (position + 1) rest).map (b ++ ·)
    | none => .error (.typeError ("sequence item " ++ Text.ofNat position
        ++ ": expected a bytes-like object, " ++ v.plainTypeName ++ " found"))

/-- Joins the items of an iteration that does not fail. -/
def join (p : Pieces) : Except Thrown Bytes :=
  match p.all with
  | .error e => .error e
  | .ok items => joinFrom 0 items

/-- What reading a stream gives. Texts are read as they are, and are no bytes. -/
def ofStream : Content → Except Thrown Bytes
  | .octets b => .ok b
  | .text [] => .ok []
  | .text t => joinFrom 0 [.text t]

/-- The chunks that a method returns before there is nothing more to read. It has to end by that:
    the error that ends an iteration is as bad as any other one there. -/
def chunks (p : Pieces) : Pieces :=
  let read := p.items.takeWhile Value.isTrue
  match p.items.drop read.length with
  | .releasedView :: _ => ⟨read, some .releasedView⟩
  | _ :: _ => ⟨read, none⟩
  | [] => ⟨read, p.failure.map fun e =>
    if e.isIn .stopIteration then .runtimeError "generator raised StopIteration" else e⟩

/-- What iterating over a value gives. -/
def iterated (v : Value) : Except Thrown Bytes :=
  match v with
  | .generator p => join p
  | .releasedView => .error .releasedView
  | .custom ⟨_, core, own⟩ => match own.pieces, core with
    | some p, _ => join p
    | none, .generator p => join p
    | none, core => joinFrom 0 core.items
  | v => joinFrom 0 v.items

/-- What reading or iterating over a value gives. -/
def read (v : Value) : Except Thrown Bytes :=
  match v with
  | .stream content => ofStream content
  | .custom o => match o.own.read, o.core with
    | some (.method p), _ => join (chunks p)
    | some (.attribute a), _ => .error (Response.notCallable a)
    | none, .stream content => ofStream content
    | none, _ => iterated (.custom o)
  | v => iterated v

/-- The body made from a value. -/
def of (v : Value) : Except Thrown Body :=
  match v, v.bytes?, v.text? with
  | .null, _, _ => .ok (ofBytes [])
  | _, some b, _ => .ok (ofBytes b)
  | _, none, some t => match Utf8.encode? t with
    | .ok b => .ok (ofBytes b)
    | .error fault => .error (.builtin "UnicodeEncodeError" fault.message)
  | v, none, none =>
    if v.isIterable && !isMapping v then .ok ⟨(stream? v).map Content.length, read v⟩
    else .error (.typeError ("Unexpected type for 'content', " ++ v.typeShown))

end Body

end InvokeWorker
