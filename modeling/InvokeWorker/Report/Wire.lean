import InvokeWorker.Json.Writer
import InvokeWorker.Report.Basic
import InvokeWorker.Text.Encoding
import InvokeWorker.Value.Show

/-!
# Reports on the wire

A report is sent as a JSON object of error type, message and stack trace, and beside it goes a
trace document: the working directory, the error with its frames, and the paths of the frames
without repetitions. Values of every kind can stand in an unchecked report; those that have no
place in JSON make the document fail. A report that fails is replaced by one that says so
(`Report.payload`), so there always is something to send; a trace document that fails is dropped.
But the list of the paths is checked before (`Report.checkPaths`): it takes no malformed text of a
derived class, and each path is looked for among those listed so far, which may fail.
-/

namespace InvokeWorker

variable [Interpreter]

/-- Why a value has no place on the wire. -/
inductive WireFault where
  /-- A value of this type has none. -/
  | unknownType (shown : Text)
  /-- A key of this type has none. -/
  | unknownKey (shown : Text)
  /-- A container cannot be a key. -/
  | containerKey (typeName : Text)
  /-- A text holds surrogates. -/
  | surrogates (fault : Utf8.Unencodable)
  /-- Bytes are not UTF-8. -/
  | octets (fault : Utf8.Undecodable)
  /-- A container holds itself. -/
  | circular
  /-- Containers are nested too deeply. -/
  | tooDeep
  /-- An iteration has failed. -/
  | raised (shown : Text)
  deriving DecidableEq, Repr

namespace WireFault

/-- What is said about a value of an unknown type. -/
def unknownMessage (shown : Text) : Text :=
  "Unable to serialize unknown type: " ++ shown

/-- The wording of octets that are not UTF-8. -/
def octetsMessage (fault : Utf8.Undecodable) : Text :=
  match fault.kind with
  | .truncated => "incomplete utf-8 byte sequence from index " ++ Text.ofNat fault.start
  | _ => "invalid utf-8 sequence of " ++ Text.ofNat fault.run.length ++ " bytes from index "
      ++ Text.ofNat fault.start

/-- The wording of a fault. -/
def message : WireFault → Text
  | unknownType shown => unknownMessage shown
  | unknownKey shown =>
    "Error serializing to JSON: PydanticSerializationError: " ++ unknownMessage shown
  | containerKey name =>
    "Error serializing to JSON: TypeError: `" ++ name ++ "` not valid as object key"
  | surrogates fault => "Error serializing to JSON: UnicodeEncodeError: " ++ fault.message
  | octets fault => "Error serializing to JSON: " ++ octetsMessage fault
  | circular => "Error serializing to JSON: ValueError: Circular reference detected (id repeated)"
  | tooDeep => "Error serializing to JSON: ValueError: Circular reference detected (depth exceeded)"
  | raised shown => "Error serializing to JSON: " ++ shown

/-- A text with replacement characters in place of the three octets of each surrogate. -/
def lossy (t : Text) : Text :=
  t.flatMap fun c => if c.isSurrogate then List.replicate 3 0xFFFD else [c]

/-- The fault of an iteration that an error has ended: what it is and what it says, if it can. -/
def ofThrown (e : Thrown) : WireFault :=
  raised (e.errorClass.name ++ (": " : Text) ++ match e.display with
    | .ok shown => lossy shown
    | .error _ => "<exception str() failed>")

end WireFault

namespace Wire

/-- How deeply values may be nested within a value on the wire. -/
def nestingLimit : Nat := 254

/-- A text that can be sent. -/
def text (t : Text) : Except WireFault Text :=
  match Utf8.unencodable? t with
  | some fault => .error (.surrogates fault)
  | none => .ok t

/-- The text of bytes. -/
def octets (b : Bytes) : Except WireFault Text :=
  match Utf8.decode? false b with
  | .ok t => .ok t
  | .error fault => .error (.octets fault)

/-- A date and time, with six digits of a second's fraction if there is one. -/
def instant (t : Instant) : Text :=
  let ms := t.ofDay % 1000
  t.stamp 84 ++ (if ms = 0 then ([] : Text) else 46 :: Text.decimal 3 ms ++ ("000" : Text)) ++ [90]

end Wire

mutual

/-- The text of a key. -/
def Value.wireKey : Value → Except WireFault Text
  | .null => .ok "None"
  | .bool b => .ok (if b then ("true" : Text) else "false")
  | .int n => .ok (Text.ofInt n)
  | .float d => .ok (d.toText .plainExponent "NaN" "inf")
  | .text t => Wire.text t
  | .bytes b => Wire.octets b
  | .byteArray b => Wire.octets b
  | .instant t => .ok (Wire.instant t)
  | .tuple vs => (Value.wireKeys vs).map (Text.join ",")
  | .list _ => .error (.containerKey "list")
  | .set _ => .error (.containerKey "set")
  | .frozenSet _ => .error (.containerKey "frozenset")
  | .mapping _ => .error (.containerKey "dict")
  | .generator _ => .error (.containerKey "generator")
  | .custom ⟨_, .text t, _⟩ => Wire.text t
  | .custom ⟨_, .int n, _⟩ => .ok (Text.ofInt n)
  | .custom ⟨_, .float d, _⟩ => .ok (d.toText .plainExponent "NaN" "inf")
  | .custom ⟨_, .bytes b, _⟩ => Wire.octets b
  | .custom ⟨_, .tuple vs, _⟩ => (Value.wireKeys vs).map (Text.join ",")
  | v => .error (.unknownKey v.typeShown)
termination_by structural v => v

/-- The texts of the keys that make up one key. -/
def Value.wireKeys : List Value → Except WireFault (List Text)
  | [] => .ok []
  | v :: rest => match v.wireKey with
    | .error fault => .error fault
    | .ok t => (Value.wireKeys rest).map (t :: ·)
termination_by structural vs => vs

end

mutual

/-- The document of a value on the wire, within which values are nested at most `depth` deep. -/
def Value.wire (depth : Nat) : Value → Except WireFault Document
  | .null => .ok .null
  | .bool b => .ok (.bool b)
  | .int n => .ok (.int n)
  | .float d => .ok (.float d)
  | .text t => (Wire.text t).map .text
  | .bytes b => (Wire.octets b).map .text
  | .byteArray b => (Wire.octets b).map .text
  | .instant t => .ok (.text (Wire.instant t))
  | .list vs => (Value.wireItems depth vs).map .array
  | .tuple vs => (Value.wireItems depth vs).map .array
  | .set vs => (Value.wireItems depth vs).map .array
  | .frozenSet vs => (Value.wireItems depth vs).map .array
  | .mapping es => (Value.wireMembers depth es).map .object
  | .generator p => p.wire depth
  | .typed body mediaType => match depth with
    | 0 => .error .tooDeep
    | depth + 1 => match body.wire depth with
      | .error fault => .error fault
      | .ok body => (mediaType.wire depth).map fun d =>
        .object [("body", body), ("media_type", d)]
  | .selfList => .error .circular
  | .selfMapping => .error .circular
  | .custom o => o.wire depth
  | v => .error (.unknownType v.typeShown)
termination_by structural v => v

/-- The documents of the values of a list. -/
def Value.wireItems (depth : Nat) : List Value → Except WireFault (List Document)
  | [] => .ok []
  | v :: rest => match depth with
    | 0 => .error .tooDeep
    | inner + 1 => match v.wire inner with
      | .error fault => .error fault
      | .ok d => (Value.wireItems (inner + 1) rest).map (d :: ·)
termination_by structural vs => vs

/-- The members of the entries of a mapping. -/
def Value.wireMembers (depth : Nat) :
    List (Value × Value) → Except WireFault (List (Text × Document))
  | [] => .ok []
  | (k, v) :: rest => match k.wireKey with
    | .error fault => .error fault
    | .ok name => match depth with
      | 0 => .error .tooDeep
      | inner + 1 => match v.wire inner with
        | .error fault => .error fault
        | .ok d => (Value.wireMembers (inner + 1) rest).map ((name, d) :: ·)
termination_by structural es => es

/-- The document of an iteration, whose items are written as they come. -/
def Pieces.wire (depth : Nat) : Pieces → Except WireFault Document
  | ⟨items, failure⟩ => match Value.wireItems depth items with
    | .error fault => .error fault
    | .ok ds => match (Pieces.mk items failure).fault? with
      | some e => .error (.ofThrown e)
      | none => .ok (.array ds)
termination_by structural p => p

/-- The document of an object: that of what it is derived from. -/
def Custom.wire (depth : Nat) : Custom → Except WireFault Document
  | ⟨name, core, own⟩ => match core with
    | .bare => .error (.unknownType (Value.custom ⟨name, .bare, own⟩).typeShown)
    | .stream content =>
      .error (.unknownType (Value.custom ⟨name, .stream content, own⟩).typeShown)
    | core => core.wire depth
termination_by structural o => o

end

/-! ## What is left of a value

A generator yields its items once. So to write a value leaves less of it, and if the value cannot be
written, that depends on how far it was.
-/

/-- What is left of the items of an iteration of which as many were taken as could be written, and
    one more if there is one that could not. -/
def Wire.untaken (depth : Nat) : List Value → List Value
  | [] => []
  | v :: rest => match depth with
    | 0 => rest
    | inner + 1 => if (v.wire inner).isOk then untaken (inner + 1) rest else rest

/-- What is left of a generator. -/
def Pieces.left (depth : Nat) (p : Pieces) : Pieces :=
  if (Value.wireItems depth p.items).isOk then ⟨[], none⟩
  else ⟨Wire.untaken depth p.items, p.failure⟩

mutual

/-- What is left of a value that was written. -/
def Value.left (depth : Nat) : Value → Value
  | .list vs => .list (Value.lefts depth vs)
  | .tuple vs => .tuple (Value.lefts depth vs)
  | .set vs => .set (Value.lefts depth vs)
  | .frozenSet vs => .frozenSet (Value.lefts depth vs)
  | .mapping es => .mapping (Value.leftEntries depth es)
  | .generator p => .generator (p.left depth)
  | .typed body mediaType => match depth with
    | 0 => .typed body mediaType
    | depth + 1 => .typed (body.left depth)
        (if (body.wire depth).isOk then mediaType.left depth else mediaType)
  | .custom ⟨name, core, own⟩ => .custom ⟨name, core.left depth, own⟩
  | v => v
termination_by structural v => v

/-- What is left of the values of a list. -/
def Value.lefts (depth : Nat) : List Value → List Value
  | [] => []
  | v :: rest => match depth with
    | 0 => v :: rest
    | inner + 1 =>
      v.left inner :: if (v.wire inner).isOk then Value.lefts (inner + 1) rest else rest
termination_by structural vs => vs

/-- What is left of the entries of a mapping. -/
def Value.leftEntries (depth : Nat) : List (Value × Value) → List (Value × Value)
  | [] => []
  | (k, v) :: rest => match depth with
    | 0 => (k, v) :: rest
    | inner + 1 =>
      if k.wireKey.isOk then
        (k, v.left inner) ::
          if (v.wire inner).isOk then Value.leftEntries (inner + 1) rest else rest
      else (k, v) :: rest
termination_by structural es => es

end

namespace Frame

/-- The document of an item of a stack trace. -/
def wire : Frame → Except WireFault Document
  | .site path line label => do
    let path ← path.wire Wire.nestingLimit
    let line ← line.wire Wire.nestingLimit
    let label ← label.wire Wire.nestingLimit
    return .object [("path", path), ("line", line), ("label", label)]
  | .other v => v.wire Wire.nestingLimit
  | .pathed _ v => v.wire Wire.nestingLimit

/-- What is left of an item of a stack trace that was written. -/
def left : Frame → Frame
  | .site path line label =>
    let first := (path.wire Wire.nestingLimit).isOk
    let second := first && (line.wire Wire.nestingLimit).isOk
    .site (path.left Wire.nestingLimit) (if first then line.left Wire.nestingLimit else line)
      (if second then label.left Wire.nestingLimit else label)
  | .other v => .other (v.left Wire.nestingLimit)
  | .pathed path v => .pathed path (v.left Wire.nestingLimit)

/-- What is left of the items of a stack trace. -/
def lefts : List Frame → List Frame
  | [] => []
  | f :: rest => f.left :: if f.wire.isOk then lefts rest else rest

/-- The documents of the items of a stack trace, behind those made so far (last first). -/
def wiresOnto (made : List Document) : List Frame → Except WireFault (List Document)
  | [] => .ok made.reverse
  | f :: rest => match f.wire with
    | .error fault => .error fault
    | .ok d => wiresOnto (d :: made) rest

/-- The documents of the items of a stack trace. -/
def wires (fs : List Frame) : Except WireFault (List Document) :=
  wiresOnto [] fs

end Frame

namespace Report

/-- The error type of a report that says that another one cannot be sent. -/
def serializationError : Text := "Runtime.SerializationError"

/-- The document of a report. -/
def document? (r : Report) : Except WireFault Document := do
  let errorType ← r.errorType.wire Wire.nestingLimit
  let message ← r.message.wire Wire.nestingLimit
  let stack ← Frame.wires r.frames
  return .object [("errorType", errorType), ("errorMessage", message), ("stackTrace", .array stack)]

/-- What is left of a report that was written. -/
def left (r : Report) : Report :=
  let first := (r.errorType.wire Wire.nestingLimit).isOk
  let second := first && (r.message.wire Wire.nestingLimit).isOk
  ⟨r.errorType.left Wire.nestingLimit,
    if first then r.message.left Wire.nestingLimit else r.message,
    if second then r.stack.map Frame.lefts else r.stack, r.shouldExit⟩

/-- The document of the report that a report cannot be sent. -/
def fallback (fault : WireFault) : Document :=
  .object [("errorType", .text serializationError), ("errorMessage", .text fault.message),
    ("stackTrace", .array [])]

/-- The text that is sent for a report. -/
def payloadText (r : Report) : Text :=
  match r.document? with
  | .ok d => d.render .wire
  | .error fault => (fallback fault).render .spaced

/-- The bytes that are sent for a report. -/
def payload (r : Report) : Bytes :=
  Utf8.encodeLax r.payloadText

/-- The paths of the frames of a report, first occurrences in order. -/
def paths (r : Report) : List Text :=
  Text.distinct (r.frames.filterMap Frame.path?)

/-- A path as it is listed: as the first frame has it. -/
def listed (r : Report) (path : Text) : Value :=
  (r.frames.findSome? fun f => f.pathAs? path).getD (.text path)

/-- Fails if a path cannot be looked for among the other ones or cannot be listed. -/
def checkPaths (r : Report) : Except Thrown Unit :=
  match r.frames.findSome? Frame.pathFault? with
  | some e => .error e
  | none =>
  let misfits := r.paths.zipIdx.filterMap fun (path, i) => match Lenient.text (r.listed path) with
    | .ok _ => none
    | .error misfit => some ⟨["paths", Text.ofNat i], misfit⟩
  if misfits.isEmpty then .ok () else .error (Misplaced.toThrown misfits)

/-- The trace document of a report. -/
def trace? (r : Report) (directory : Text) : Except WireFault Document := do
  let directory ← Wire.text directory
  let errorType ← r.errorType.wire Wire.nestingLimit
  let message ← r.message.wire Wire.nestingLimit
  let stack ← Frame.wires r.frames
  let paths ← r.paths.mapM Wire.text
  return .object
    [("working_directory", .text directory),
      ("exceptions", .array
        [.object [("type", errorType), ("message", message), ("stack", .array stack)]]),
      ("paths", .array (paths.map .text))]

end Report

end InvokeWorker
