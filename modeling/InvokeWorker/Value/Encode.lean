import InvokeWorker.Json.Document
import InvokeWorker.Value.Show

/-!
# The JSON document of a value

What a value says in JSON. Plain data and containers of it have a document; lists and tuples are
arrays, and the keys of a mapping become texts if they are texts, numbers, truth values or null.
An object is encoded as the value it is derived from, except that a list or tuple with an iteration
of its own is the array of what the iteration yields, and a mapping that lists its entries in a way
of its own, unless it is empty, is the object of these.

A value of any other kind is left to a `fallback`, which either refuses it or supplies a document.
-/

namespace InvokeWorker

variable [Interpreter]

/-- Why a value has no document. -/
inductive EncodeFault where
  /-- A value of this type has none. -/
  | unsupported (typeName : Text)
  /-- A key of this type is none. -/
  | key (typeName : Text)
  /-- A container holds itself. -/
  | circular
  /-- An integer has too many digits. -/
  | digits
  /-- Containers are nested too deeply. -/
  | tooDeep
  /-- The entries of a mapping are not listed in pairs. -/
  | unpaired
  /-- An iteration or the fallback has failed. -/
  | raised (e : Thrown)

namespace EncodeFault

/-- The error a fault is raised as. -/
def toThrown : EncodeFault → Thrown
  | unsupported name => .typeError ("Object of type " ++ name ++ " is not JSON serializable")
  | key name => .typeError ("keys must be str, int, float, bool or None, not " ++ name)
  | circular => .valueError "Circular reference detected"
  | digits => .tooManyDigits
  | tooDeep => .recursionError "maximum recursion depth exceeded while encoding a JSON object"
  | unpaired => .valueError "items must return 2-tuples"
  | raised e => e

/-- Whether a fault counts as one of the value: that has a wrong type or is not acceptable. -/
def isRefusal (fault : EncodeFault) : Bool :=
  fault.toThrown.isIn .type || fault.toThrown.isIn .value

end EncodeFault

namespace Value

/-- The digits of an integer that is a key. -/
def keyDigits? (n : Int) : Except EncodeFault Text :=
  match Text.ofBoundedInt? n with
  | some t => .ok t
  | none => .error .digits

/-- The text of a key of a mapping. -/
def keyText? : Value → Except EncodeFault Text
  | null => .ok "null"
  | bool b => .ok (if b then ("true" : Text) else "false")
  | int n => keyDigits? n
  | float d => .ok (d.toText .signedExponent "NaN" "Infinity")
  | text t => .ok t
  | custom ⟨_, .int n, _⟩ => keyDigits? n
  | custom ⟨_, .float d, _⟩ => .ok (d.toText .signedExponent "NaN" "Infinity")
  | custom ⟨_, .text t, _⟩ => .ok t
  | v => .error (.key v.plainTypeName)

/-- A fallback that refuses every value. -/
def refuse (v : Value) : Except EncodeFault Document :=
  .error (.unsupported v.typeName)

/-- A fallback that takes the display of a value. -/
def displayed (v : Value) : Except EncodeFault Document :=
  match v.display with
  | .ok t => .ok (.text t)
  | .error e => .error (.raised e)

end Value

mutual

/-- The document of a value whose containers are nested at most `depth` deep. -/
def Value.document? (fallback : Value → Except EncodeFault Document) (depth : Nat) :
    Value → Except EncodeFault Document
  | .null => .ok .null
  | .bool b => .ok (.bool b)
  | .int n => if n.natAbs < 10 ^ Text.maxDigits then .ok (.int n) else .error .digits
  | .float d => .ok (.float d)
  | .text t => .ok (.text t)
  | .list items => match depth with
    | 0 => .error .tooDeep
    | depth + 1 => (Value.documents? fallback depth [] items).map .array
  | .tuple items => match depth with
    | 0 => .error .tooDeep
    | depth + 1 => (Value.documents? fallback depth [] items).map .array
  | .mapping entries => match depth with
    | 0 => .error .tooDeep
    | depth + 1 => (Value.members? fallback depth [] entries).map .object
  | .selfList => .error .circular
  | .selfMapping => .error .circular
  | .custom o => o.document? fallback depth
  | v => fallback v
termination_by structural v => v

/-- The documents of the values of a list, behind those made so far (last first). -/
def Value.documents? (fallback : Value → Except EncodeFault Document) (depth : Nat)
    (made : List Document) : List Value → Except EncodeFault (List Document)
  | [] => .ok made.reverse
  | v :: rest => match v.document? fallback depth with
    | .error fault => .error fault
    | .ok d => Value.documents? fallback depth (d :: made) rest
termination_by structural vs => vs

/-- The members of the entries of a mapping, behind those made so far (last first). -/
def Value.members? (fallback : Value → Except EncodeFault Document) (depth : Nat)
    (made : List (Text × Document)) : List (Value × Value) →
    Except EncodeFault (List (Text × Document))
  | [] => .ok made.reverse
  | (k, v) :: rest => match k.keyText? with
    | .error fault => .error fault
    | .ok name => match v.document? fallback depth with
      | .error fault => .error fault
      | .ok d => Value.members? fallback depth ((name, d) :: made) rest
termination_by structural vs => vs

/-- The members of entries that are listed in pairs, behind those made so far (last first). -/
def Value.listed? (fallback : Value → Except EncodeFault Document) (depth : Nat)
    (made : List (Text × Document)) : List Value → Except EncodeFault (List (Text × Document))
  | [] => .ok made.reverse
  | .tuple [k, v] :: rest => match k.keyText? with
    | .error fault => .error fault
    | .ok name => match v.document? fallback depth with
      | .error fault => .error fault
      | .ok d => Value.listed? fallback depth ((name, d) :: made) rest
  | .custom ⟨_, .tuple [k, v], _⟩ :: rest => match k.keyText? with
    | .error fault => .error fault
    | .ok name => match v.document? fallback depth with
      | .error fault => .error fault
      | .ok d => Value.listed? fallback depth ((name, d) :: made) rest
  | _ => .error .unpaired
termination_by structural vs => vs

/-- The array of the items of an iteration. -/
def Pieces.array? (fallback : Value → Except EncodeFault Document) (depth : Nat) :
    Pieces → Except EncodeFault Document
  | ⟨items, failure⟩ => match (Pieces.mk items failure).fault? with
    | some e => .error (.raised e)
    | none => (Value.documents? fallback depth [] items).map .array
termination_by structural p => p

/-- The object of the entries an iteration lists. -/
def Pieces.object? (fallback : Value → Except EncodeFault Document) (depth : Nat) :
    Pieces → Except EncodeFault Document
  | ⟨items, failure⟩ => match (Pieces.mk items failure).fault? with
    | some e => .error (.raised e)
    | none => (Value.listed? fallback depth [] items).map .object
termination_by structural p => p

/-- The document of an object. -/
def Custom.document? (fallback : Value → Except EncodeFault Document) (depth : Nat) :
    Custom → Except EncodeFault Document
  | ⟨name, core, ⟨contentType, close, read, pieces, entries, lookupFault, shown⟩⟩ =>
    match core with
    | .list items => match depth with
      | 0 => .error .tooDeep
      | depth + 1 => match pieces with
        | some p => p.array? fallback depth
        | none => (Value.documents? fallback depth [] items).map .array
    | .tuple items => match depth with
      | 0 => .error .tooDeep
      | depth + 1 => match pieces with
        | some p => p.array? fallback depth
        | none => (Value.documents? fallback depth [] items).map .array
    | .mapping es => match depth with
      | 0 => .error .tooDeep
      | depth + 1 => match es, entries with
        | e :: es, none => (Value.members? fallback depth [] (e :: es)).map .object
        | _ :: _, some p => p.object? fallback depth
        | [], _ => .ok (.object [])
    | .selfList => .error .circular
    | .selfMapping => .error .circular
    | .text t => .ok (.text t)
    | .int n => if n.natAbs < 10 ^ Text.maxDigits then .ok (.int n) else .error .digits
    | .float d => .ok (.float d)
    | _ => fallback (.custom
        ⟨name, core, ⟨contentType, close, read, pieces, entries, lookupFault, shown⟩⟩)
termination_by structural o => o

end

mutual

/-- The value a document stands for. -/
def Document.toValue : Document → Value
  | .null => .null
  | .bool b => .bool b
  | .int n => .int n
  | .float d => .float d
  | .text t => .text t
  | .array items => .list (Document.itemValues [] items)
  | .object members => .mapping (Document.memberValues [] members)
termination_by structural d => d

/-- The values of the items of an array, behind those made so far (last first). -/
def Document.itemValues (made : List Value) : List Document → List Value
  | [] => made.reverse
  | d :: ds => Document.itemValues (d.toValue :: made) ds
termination_by structural ds => ds

/-- The entries of the members of an object, behind those made so far (last first). -/
def Document.memberValues (made : List (Value × Value)) :
    List (Text × Document) → List (Value × Value)
  | [] => made.reverse
  | (name, d) :: ms => Document.memberValues ((.text name, d.toValue) :: made) ms
termination_by structural ms => ms

end

end InvokeWorker
