import InvokeWorker.Log.Setup
import InvokeWorker.Worker.Loop

/-!
# Starting the worker

The process sets up its log, reads its settings, finds the handler by the name of its module and
function, and runs the invoke loop. Whatever ends the loop is logged, and the process exits with the
status 1, so that its host can start it again in a clean state.
-/

namespace InvokeWorker

variable [Interpreter]

/-- What a module binds a name to. -/
inductive Binding where
  /-- The handler. -/
  | handler
  /-- A value that cannot be called. -/
  | value (v : Value)

/-- The modules that can be loaded, with what they bind. -/
abbrev Modules := List (Text × List (Text × Binding))

namespace Modules

/-- The error of a module that does not exist. -/
def notFound (message : Text) : Thrown :=
  .builtin "ModuleNotFoundError" message

/-- Loads a module. A module that is not known is looked for in its parent, which has to exist;
    but no module has others inside. Each parent costs one unit of fuel. -/
def loadNamed (modules : Modules) :
    (fuel : Nat) → Text → Except Thrown (List (Text × Binding))
  | 0, name => .error (notFound ("No module named " ++ name.quoted))
  | fuel + 1, name =>
    match modules.lookup name with
    | some bindings => .ok bindings
    | none =>
      match Text.cutLast? 46 name with
      | some (c :: parent, _) => match loadNamed modules fuel (c :: parent) with
        | .error e => .error e
        | .ok _ => .error (notFound ("No module named " ++ name.quoted ++ "; "
            ++ Text.quoted (c :: parent) ++ " is not a package"))
      | _ => .error (notFound ("No module named " ++ name.quoted))

/-- Loads a module by its full name. -/
def load (modules : Modules) (name : Text) : Except Thrown (List (Text × Binding)) :=
  if Text.startsWith name "." then
    .error (.typeError ("the 'package' argument is required to perform a relative import for "
      ++ name.quoted))
  else loadNamed modules (name.length + 1) name

/-- An error of finding the handler. -/
def importError (message : Text) : Thrown :=
  .builtin "ImportError" message

/-- Finds the handler by the name of its module and function; says why it cannot be found. -/
def resolve (modules : Modules) (name : Text) : Except Thrown Unit :=
  match Text.cutLast? 46 name with
  | some (c :: module, d :: function) =>
    match modules.load (c :: module) with
    | .error e => .error e
    | .ok bindings =>
      let bindings := bindings ++ [(("__name__" : Text), Binding.value (.text (c :: module)))]
      match bindings.lookup (d :: function) with
      | some .handler => .ok ()
      | none => .error (missing (c :: module) (d :: function))
      | some (.value .null) => .error (missing (c :: module) (d :: function))
      | some (.value _) => .error (importError ("Handler '" ++ name ++ "' is not callable"))
  | _ => .error (importError ("Bad handler '" ++ name ++ "': expected module.function"))
where
  /-- The error of a name that a module does not bind. -/
  missing (module function : Text) : Thrown :=
    importError ("Handler '" ++ function ++ "' missing on module '" ++ module ++ "'")

end Modules

namespace Run

/-- The logger of the process. -/
def mainLogger : Text := "runtime.main"

/-- The logger of new clients. -/
def clientFactoryLogger : Text := "services.common.core.http_client"

/-- A request to exit with a status. -/
def exit {α : Type} (status : Int) : Run α :=
  throw ⟨.builtin "SystemExit", [.int status], .plain⟩

/-- Opens a client of HTTP. Options that are not given are taken from the settings: certificates
    are verified or not, and the proxies of the host are left aside. -/
def openClient (verifySsl : Bool) (options : List (Text × Document)) : Run Unit := do
  let verify := match options.lookup ("verify" : Text) with
    | none => .bool verifySsl
    | some .null => .bool verifySsl
    | some d => d
  let others := options.filter fun (name, _) => name ≠ "verify"
  let others := if (others.lookup ("trust_env" : Text)).isSome then others
    else others ++ [(("trust_env" : Text), Document.bool false)]
  let shown ← ofExcept verify.toValue.display
  log (.of "DEBUG" clientFactoryLogger ("Creating sync HTTP client (verify=" ++ shown ++ ")"))
  note (.client (("verify", verify) :: others))
  modify fun w => { w with closed := w.closed ++ [false] }

/-- Opens a client of the Runtime API; its requests never time out. -/
def openApiClient (address : Text) (settings : AppSettings) : Run Client := do
  openClient settings.verifySsl [("timeout", .null)]
  return ⟨address⟩

/-- Closes the client that was opened last. -/
def closeClient : Run Unit :=
  modify fun w => { w with closed := w.closed.set (w.closed.length - 1) true }

/-- Runs the loop until it ends, logs why, and exits. The base context is a new one unless it is
    given. -/
def start (settings : Settings) (handler : Handler) (base : Option Context)
    (deliveries : List Delivery) : Run Unit := do
  let options ← HandlerOptions.prepare handler base (some settings.function)
  let client ← openApiClient settings.runtimeApi settings.app
  let stopping : Run Unit := do
    match ← (loop client settings.runtimeApi options deliveries).outcome with
    | .ok () => return
    | .error e =>
      if e.isIn .worker then
        let shown ← ofExcept e.display
        log { LogEntry.of "CRITICAL" mainLogger ("Invoke loop stopped: " ++ shown) with
          extras := [("error_type", .text e.errorClass.name)] }
        exit 1
      else throw e
  stopping.andFinally closeClient

/-- Finds the handler, or logs why it cannot be found and exits. -/
def resolveHandler (modules : Modules) (name : Text) : Run Unit := do
  match modules.resolve name with
  | .ok () => return
  | .error e =>
    let shown ← ofExcept e.display
    log ⟨"CRITICAL", mainLogger, "Unable to import handler '" ++ name ++ "': " ++ shown,
      [("error_type", .text e.errorClass.name)], some ⟨e, []⟩⟩
    exit 1

/-- Runs the process: log, settings, handler, loop. -/
def boot (s : Surroundings) (file : Text) (modules : Modules) (handler : Handler)
    (deliveries : List Delivery) : Run Unit := do
  LogSetup.ofWorker s []
  match Settings.load ⟨[], s.environment, file⟩ with
  | .error e =>
    let shown ← ofExcept e.display
    log (.of "CRITICAL" mainLogger ("Failed to load configuration: " ++ shown))
    exit 1
  | .ok settings =>
    resolveHandler modules settings.handler
    start settings handler none deliveries

end Run

end InvokeWorker
