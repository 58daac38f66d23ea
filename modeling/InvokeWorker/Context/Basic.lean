import InvokeWorker.Context.Scope
import InvokeWorker.Invoke.Invocation
import InvokeWorker.Value.Equal

/-!
# Contexts

A context is handed to handler code with every invoke. It belongs to a cancellation scope and
carries values under keys; a value that is added hides earlier ones under an equal key. A context
derived with a deadline has a scope of its own, one derived with a value shares that of its parent.
-/

namespace InvokeWorker

/-- What a context can carry. -/
inductive Slot where
  /-- A value. -/
  | value (v : Value)
  /-- The invocation. -/
  | invocation (i : Invocation)
  /-- The post-invoke signal. -/
  | signal

/-- A context. -/
structure Context where
  /-- Its scope. -/
  scope : Nat
  /-- What it carries, the latest first. -/
  bindings : List (Value × Slot)

namespace Context

/-- The key of the invocation. -/
def invocationKey : Value := .text "lambda-context"

/-- The key of the trace header. -/
def traceKey : Value := .text "x-amzn-trace-id"

/-- The key of the post-invoke signal. -/
def signalKey : Value := .text "post-invoke-signal"

/-- A context of a scope that carries nothing. -/
def ofScope (scope : Nat) : Context := ⟨scope, []⟩

/-- What a binding says about a key: nothing is bound under no key at all. -/
def binds (key : Value) (bound : Value) : Bool :=
  match bound with
  | .null => false
  | bound => bound.same key

/-- What a context carries under a key. -/
def lookup? (c : Context) (key : Value) : Option Slot :=
  (c.bindings.find? fun (bound, _) => binds key bound).map (·.2)

/-- A context that carries one more thing. -/
def withSlot (c : Context) (key : Value) (slot : Slot) : Context :=
  { c with bindings := (key, slot) :: c.bindings }

/-- A context that carries one more value. -/
def withValue (c : Context) (key value : Value) : Context :=
  c.withSlot key (.value value)

/-- The invocation a context belongs to. -/
def invocation? (c : Context) : Option Invocation :=
  match c.lookup? invocationKey with
  | some (.invocation i) => some i
  | _ => none

/-- Whether a context carries the post-invoke signal. -/
def hasSignal (c : Context) : Bool :=
  match c.lookup? signalKey with
  | some .signal => true
  | _ => false

end Context

end InvokeWorker
