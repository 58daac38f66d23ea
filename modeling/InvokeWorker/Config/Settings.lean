import InvokeWorker.Config.Dotenv
import InvokeWorker.Invoke.Invocation
import InvokeWorker.Value.Lenient

/-!
# Settings

The worker is configured by named settings. A setting may be given directly, in the environment of
the process or in a file of variables, and the first of these that has it counts. It is read
leniently; all settings that do not fit are listed, in the order in which they are declared.
-/

namespace InvokeWorker

/-- The settings every process has. -/
structure AppSettings where
  /-- The level of the log. -/
  logLevel : Text
  /-- Whether certificates are verified. -/
  verifySsl : Bool
  deriving DecidableEq, Repr

/-- The settings of the worker. -/
structure Settings where
  /-- Those every process has. -/
  app : AppSettings
  /-- Host and port of the Runtime API. -/
  runtimeApi : Text
  /-- The handler, as module and function. -/
  handler : Text
  /-- What the function is configured with. -/
  function : FunctionSettings
  /-- The file the log is set up from. -/
  logConfigPath : Text
  deriving DecidableEq, Repr

/-- Where settings are looked up: given directly, in the environment, in a file of variables. -/
structure SettingSources where
  /-- What is given directly. -/
  given : List (Text × Value)
  /-- The environment. -/
  environment : List (Text × Text)
  /-- The text of the file of variables. -/
  file : Text

namespace SettingSources

/-- The sources, the first one that has a setting counts. -/
def layers (s : SettingSources) : List (List (Text × Value)) :=
  let texts (vs : List (Text × Text)) := vs.map fun (name, t) => (name, Value.text t)
  [s.given, texts s.environment, texts (Dotenv.parse s.environment s.file)]

/-- The value of a setting that may be called by any of several names; within a source the first
    name counts. -/
def value? (s : SettingSources) (names : List Text) : Option Value :=
  s.layers.findSome? fun layer => names.findSome? fun name => layer.lookup name

/-- Reads a setting, which may be absent if it has a default. -/
def read {α : Type} (s : SettingSources) (names : List Text)
    (read : Value → Except Misfit α) (default_ : Option α) (stand : α) : List Misplaced × α :=
  let place : List Text := names.take 1
  match s.value? names with
  | none => match default_ with
    | some a => ([], a)
    | none => ([⟨place, .missing⟩], stand)
  | some v => match read v with
    | .ok a => ([], a)
    | .error misfit => ([⟨place, misfit⟩], stand)

/-- Reads a text. -/
def text (s : SettingSources) (name : Text) (default_ : Text) : List Misplaced × Text :=
  s.read [name] Lenient.text (some default_) []

end SettingSources

namespace AppSettings

/-- The level of the log unless another one is set. -/
def defaultLevel : Text := "INFO"

/-- Reads the settings every process has, with the misfits. -/
def readFrom (s : SettingSources) : List Misplaced × AppSettings :=
  let (m₁, level) := s.text "LOG_LEVEL" defaultLevel
  let (m₂, verify) := s.read ["VERIFY_SSL"] Lenient.bool (some false) false
  (m₁ ++ m₂, ⟨level, verify⟩)

/-- The settings every process has. -/
def load (s : SettingSources) : Except Thrown AppSettings :=
  match readFrom s with
  | ([], settings) => .ok settings
  | (misfits, _) => .error (Misplaced.toThrown misfits)

end AppSettings

namespace Settings

/-- The file the log is set up from unless another one is set. -/
def defaultLogConfigPath : Text := "/var/runtime/config/runtime_log.yaml"

/-- The name of the setting of that file. -/
def logConfigPathName : Text := "LOG_CONFIG_PATH"

/-- The names of all settings. -/
def names : List Text :=
  ["LOG_LEVEL", "VERIFY_SSL", "AWS_LAMBDA_RUNTIME_API", "_HANDLER", "HANDLER",
    "AWS_LAMBDA_FUNCTION_NAME", "AWS_LAMBDA_FUNCTION_VERSION", "AWS_LAMBDA_FUNCTION_MEMORY_SIZE",
    "AWS_LAMBDA_LOG_GROUP_NAME", "AWS_LAMBDA_LOG_STREAM_NAME", logConfigPathName]

/-- Reads the settings of the worker, with the misfits. -/
def readFrom (s : SettingSources) : List Misplaced × Settings :=
  let (m₀, app) := AppSettings.readFrom s
  let (m₁, api) := s.read ["AWS_LAMBDA_RUNTIME_API"] Lenient.text none []
  let (m₂, handler) := s.read ["_HANDLER", "HANDLER"] Lenient.text
    (some "lambda_function.lambda_handler") []
  let (m₃, name) := s.text "AWS_LAMBDA_FUNCTION_NAME" []
  let (m₄, version) := s.text "AWS_LAMBDA_FUNCTION_VERSION" "$LATEST"
  let (m₅, memory) := s.read ["AWS_LAMBDA_FUNCTION_MEMORY_SIZE"] Lenient.int (some 128) 0
  let (m₆, group) := s.text "AWS_LAMBDA_LOG_GROUP_NAME" []
  let (m₇, stream) := s.text "AWS_LAMBDA_LOG_STREAM_NAME" []
  let (m₈, path) := s.text logConfigPathName defaultLogConfigPath
  (m₀ ++ m₁ ++ m₂ ++ m₃ ++ m₄ ++ m₅ ++ m₆ ++ m₇ ++ m₈,
    ⟨app, api, handler, ⟨name, version, memory, group, stream⟩, path⟩)

/-- The settings of the worker. -/
def load (s : SettingSources) : Except Thrown Settings :=
  match readFrom s with
  | ([], settings) => .ok settings
  | (misfits, _) => .error (Misplaced.toThrown misfits)

end Settings

end InvokeWorker
