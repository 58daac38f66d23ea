import InvokeWorker.Value.Equal
import InvokeWorker.Value.Show

/-!
# The text of a failure

A log line may carry an error with the places the error has passed, outermost first. The text has
a line for each place and ends with the error's class and message. Places that repeat more than
three times in a row are counted instead of listed. Of errors that are raised while another one is
handled, of notes and of the source code of a place the text here says nothing.
-/

namespace InvokeWorker

variable [Interpreter]

/-- An error and the places it has passed. -/
structure Failure where
  /-- The error. -/
  error : Thrown
  /-- The places, outermost first. -/
  sites : List Site

namespace Failure

/-- How often a place is listed before repetitions are counted. -/
def listedRepetitions : Nat := 3

/-- The line of a place. -/
def siteLine (s : Site) : Text :=
  "  File \"" ++ s.path ++ "\", line " ++ Text.ofInt s.line ++ ", in " ++ s.label

/-- The line that counts the repetitions that are not listed. -/
def repetitionLine (count : Nat) : Text :=
  "  [Previous line repeated " ++ Text.ofNat count ++ " more time" ++
    (if 1 < count then ("s]" : Text) else "]")

/-- The lines of places in a row: how often each is repeated is at hand. -/
def runLines (run : Site × Nat) : List Text :=
  let (site, count) := run
  List.replicate (min count listedRepetitions) (siteLine site)
    ++ (if listedRepetitions < count then [repetitionLine (count - listedRepetitions)] else [])

/-- Places with the number of times they occur in a row. -/
def runs (sites : List Site) : List (Site × Nat) :=
  sites.foldr
    (fun site runs => match runs with
      | (next, count) :: rest =>
        if next = site then (next, count + 1) :: rest else (site, 1) :: (next, count) :: rest
      | [] => [(site, 1)])
    []

/-- The message of an error: what it shows, or a remark that it fails to. For an error of malformed
    source that is its first argument, or a remark that there is none. -/
def message (e : Thrown) : Text :=
  let shown :=
    if !e.isIn .source then e.display
    else if (e.args.head?.getD .null).isTrue then Value.displayFirst e.args
    else .ok "<no detail available>"
  match shown with
  | .ok shown => shown
  | .error _ => "<exception str() failed>"

/-- The line of an error: its class, and its message unless that is empty. An error of malformed
    source always shows its message. -/
def errorLine (e : Thrown) : Text :=
  let shown := message e
  e.errorClass.qualifiedName ++
    (if shown.isEmpty && !e.isIn .source then ([] : Text) else (": " : Text) ++ shown)

/-- The text of a failure. -/
def text (f : Failure) : Text :=
  let places := (runs f.sites).flatMap runLines
  let heading : List Text :=
    if f.sites.isEmpty then [] else ["Traceback (most recent call last):"]
  Text.join [10] (heading ++ places ++ [errorLine f.error])

end Failure

end InvokeWorker
