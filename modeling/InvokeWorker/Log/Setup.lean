import InvokeWorker.Config.Settings
import InvokeWorker.Log.Template
import InvokeWorker.Worker.Basic
import InvokeWorker.Yaml.Reader

/-!
# Setting up the log

The log is set up from a YAML file, in which variables of the process are replaced first. Without
the file nothing but the level is set. The worker's own file is named by a setting unless it is
given.
-/

namespace InvokeWorker

variable [Interpreter]

/-- What a process is started with: its environment and the files it can read. -/
structure Surroundings where
  /-- The environment. -/
  environment : List (Text × Text)
  /-- The files. -/
  files : List (Text × Bytes)

namespace LogSetup

/-- The file the log is set up from unless another one is given. -/
def defaultFile : Text := "logging.yml"

/-- The name of the setting of the level. -/
def levelName : Text := "LOG_LEVEL"

/-- A text is no YAML. -/
def malformed : Thrown := ⟨⟨"YAMLError", some "yaml", [.ordinary]⟩, [], .plain⟩

/-- The level that is set in the environment. -/
def level (environment : List (Text × Text)) : Text :=
  (environment.lookup levelName).getD AppSettings.defaultLevel

/-- The variables a file may refer to; the level always is among them. -/
def knownVariables (environment : List (Text × Text)) : List (Text × Text) :=
  if (environment.lookup levelName).isSome then environment
  else environment ++ [(levelName, AppSettings.defaultLevel)]

/-- The text of a file. -/
def fileText (content : Bytes) : Except Thrown Text :=
  match Utf8.decode? false content with
  | .ok t => .ok (Dotenv.normalizeBreaks t)
  | .error fault =>
    let fault : DecodingFault := ⟨.utf8 false, fault.start, fault.run, fault.kind.message⟩
    .error (.builtin "UnicodeDecodeError" fault.message)

/-- The document a configuration is shown as. -/
def document (v : Value) : Except Thrown Document :=
  match v.document? Value.displayed nestingLimit with
  | .ok d => .ok d
  | .error fault => .error fault.toThrown

/-- Sets up the log from a file. -/
def fromFile (s : Surroundings) (path : Text) : Run Unit := do
  match s.files.lookup path with
  | none => Run.note (.configuredLevel (level s.environment))
  | some content =>
    let template ← Run.ofExcept (fileText content)
    let text := Template.substitute (knownVariables s.environment) template
    Run.note (.reading text)
    match Yaml.read text with
    | .error _ => throw malformed
    | .ok v => Run.note (.configured (← Run.ofExcept (document v)))

/-- The file of the worker that is named by a setting. -/
def workerFile (environment : List (Text × Text)) : Text :=
  (environment.lookup Settings.logConfigPathName).getD Settings.defaultLogConfigPath

/-- Sets up the log of the worker, from a file that is given or else named by a setting. -/
def ofWorker (s : Surroundings) (given : Text) : Run Unit := do
  let path := if given.isEmpty then workerFile s.environment else given
  Run.note (.setup path)
  fromFile s path

end LogSetup

end InvokeWorker
