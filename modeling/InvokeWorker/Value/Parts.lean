import InvokeWorker.Value.Basic

/-!
# What a value holds

Handler code may derive classes from those of texts, bytes and integers. An object of such a class
stands for the value it is an instance of where only that counts.
-/

namespace InvokeWorker.Value

/-- Whether the value is text, be it of a derived class. -/
def text? : Value → Option Text
  | text t => some t
  | custom ⟨_, text t, _⟩ => some t
  | _ => none

/-- Whether the value is an immutable byte sequence, be it of a derived class. -/
def bytes? : Value → Option Bytes
  | bytes b => some b
  | custom ⟨_, bytes b, _⟩ => some b
  | _ => none

/-- The octets of a byte sequence of any kind. Views have no derived classes. -/
def octets? : Value → Option Bytes
  | byteArray b => some b
  | memoryView b => some b
  | custom ⟨_, byteArray b, _⟩ => some b
  | v => v.bytes?

/-- The integer a value is where a number is asked for: an integer, be it of a derived class, or a
    truth value. -/
def index? : Value → Option Int
  | int n => some n
  | bool b => some (if b then 1 else 0)
  | custom ⟨_, int n, _⟩ => some n
  | _ => none

/-- The items a value yields without an iteration of its own. -/
def items : Value → List Value
  | text t => t.map fun c => text [c]
  | bytes b => b.map fun o => int o.toNat
  | byteArray b => b.map fun o => int o.toNat
  | memoryView b => b.map fun o => int o.toNat
  | list vs => vs
  | tuple vs => vs
  | set vs => vs
  | frozenSet vs => vs
  | selfList => [selfList]
  | mapping es => es.map Prod.fst
  | selfMapping => [text "self"]
  | generator p => p.items
  | custom ⟨_, core, _⟩ => items core
  | _ => []

end InvokeWorker.Value
