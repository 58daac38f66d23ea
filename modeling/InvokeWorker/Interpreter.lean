/-!
# The interpreter

Values and texts are walked through by recursion, on a stack the interpreter keeps limited. How
deeply they may be nested before a `RecursionError` depends on that limit and on how much of the
stack is in use already, so the worker is described for every interpreter that leaves it some room.
-/

namespace InvokeWorker

/-- What the interpreter that runs the worker leaves of its stack. -/
class Interpreter where
  /-- How deeply containers may be nested to be shown or encoded. -/
  shown : Nat
  /-- How deeply JSON texts may be nested to be read. -/
  read : Nat
  le_shown : 500 ≤ shown
  le_read : 500 ≤ read

/-- An interpreter with the usual limit of 1000 frames, of which the worker itself takes ten. -/
instance Interpreter.usual : Interpreter := ⟨990, 990, by decide, by decide⟩

end InvokeWorker
