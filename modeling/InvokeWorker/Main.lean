import InvokeWorker.Worker.Session

/-!
# The program

Runs the worker on a recorded session, whose file is the only argument. The worker is configured by
the environment and a file of variables in the working directory. What it sends goes to the standard
output, its log to the standard error.
-/

namespace InvokeWorker

/-- A text as a string. -/
def Text.toString (t : Text) : String :=
  String.ofList (t.map fun c => Char.ofNat c.val)

/-- The settings that are set in the environment of the process. -/
def environmentOfProcess : IO (List (Text × Text)) :=
  Settings.names.filterMapM fun name => do
    return (← IO.getEnv name.toString).map fun value => (name, Text.ofString value)

/-- The content of a file, if it can be read. -/
def contentOf (path : Text) : IO (Option Bytes) := do
  try
    return some (← IO.FS.readBinFile path.toString).toList
  catch _ => return none

/-- Writes a line. -/
def writeLine (output : IO.FS.Stream) (t : Text) : IO Unit :=
  output.write ⟨(Utf8.encodeLax t ++ [10]).toArray⟩

/-- Runs the worker on the session in a file and returns the status to exit with. -/
def runSession (path : Text) : IO UInt32 := do
  let some session := (← contentOf path).bind Session.read
    | do
      (← IO.getStderr).putStrLn "The session cannot be read."
      return 2
  let environment ← environmentOfProcess
  let logFile := LogSetup.workerFile environment
  let files := (← contentOf logFile).toList.map fun content => (logFile, content)
  let file := ((← contentOf ".env").bind Utf8.text?).getD []
  let directory := Text.ofString (← IO.currentDir).toString
  let (worker, status) := session.run ⟨environment, files⟩ file (some directory)
  for event in worker.journal do
    if let some line := event.shown? session.now then
      writeLine (← if event.request?.isSome then IO.getStdout else IO.getStderr) line
  return UInt32.ofNat status.toNat

end InvokeWorker

/-- The program. -/
def main (args : List String) : IO UInt32 :=
  match args with
  | [path] => InvokeWorker.runSession (InvokeWorker.Text.ofString path)
  | _ => do
    (← IO.getStderr).putStrLn "Exactly one argument is expected: the file of a session."
    return 2
