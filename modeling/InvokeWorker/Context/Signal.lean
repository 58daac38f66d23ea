import InvokeWorker.Value.Basic

/-!
# The post-invoke signal

Handler code that goes on working after an invoke can hold the worker back: it arms the signal and
sets the event it gets once the work is done. The worker waits for the event that was armed last
and clears the slot, whether the event was set or not.
-/

namespace InvokeWorker

/-- The state of the signal. -/
structure PostInvokeSignal where
  /-- For every event handed out so far whether it is set. -/
  events : List Bool
  /-- The event in the slot. -/
  slot : Option Nat
  deriving DecidableEq, Repr, Inhabited

namespace PostInvokeSignal

/-- No event was handed out. -/
def initial : PostInvokeSignal := ⟨[], none⟩

/-- Whether an event is in the slot. -/
def armed (s : PostInvokeSignal) : Bool :=
  s.slot.isSome

/-- Puts a new event into the slot. -/
def arm (s : PostInvokeSignal) : PostInvokeSignal :=
  ⟨s.events ++ [false], some s.events.length⟩

/-- Sets an event that was handed out. -/
def set? (s : PostInvokeSignal) (event : Nat) : Option PostInvokeSignal :=
  if event < s.events.length then some { s with events := s.events.set event true } else none

/-- Whether an event is set. -/
def isSet (s : PostInvokeSignal) (event : Nat) : Bool :=
  s.events.getD event false

/-- The signal after a wait: the slot is empty. -/
def cleared (s : PostInvokeSignal) : PostInvokeSignal :=
  { s with slot := none }

/-- Whether a wait finds the event in the slot set. -/
def fires (s : PostInvokeSignal) : Bool :=
  match s.slot with
  | none => false
  | some event => s.isSet event

end PostInvokeSignal

end InvokeWorker
