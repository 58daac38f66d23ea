import InvokeWorker.Invoke.Header
import InvokeWorker.Json.Reader
import InvokeWorker.Value.Basic

/-!
# Documents in headers

Two headers hold JSON documents: what is known about the application an invoke comes from, and the
identity it is made under. Every field of these documents may be left out. A field that is `null`
counts as left out, and so does a `null` within an object one level below; a field of another type
than the declared one makes the document malformed. All faults of a document are listed, in the
order of its declared fields.
-/

namespace InvokeWorker

/-- The application an invoke comes from. -/
structure ClientApplication where
  /-- The installation. -/
  installationId : Text
  /-- The title. -/
  appTitle : Text
  /-- The version. -/
  appVersionCode : Text
  /-- The package. -/
  appPackageName : Text
  deriving DecidableEq, Repr

/-- What is known about the client of an invoke. -/
structure ClientContext where
  /-- The application. -/
  client : ClientApplication
  /-- Its environment. -/
  env : List (Text × Text)
  /-- What the application has added. -/
  custom : List (Text × Text)
  deriving DecidableEq, Repr

/-- The identity an invoke is made under. -/
structure Identity where
  /-- The identity. -/
  id : Text
  /-- The pool of the identity. -/
  poolId : Text
  deriving DecidableEq, Repr

/-- An application about which nothing is known. -/
def ClientApplication.unknown : ClientApplication := ⟨[], [], [], []⟩

/-- A client about which nothing is known. -/
def ClientContext.unknown : ClientContext := ⟨.unknown, [], []⟩

/-- No identity. -/
def Identity.unknown : Identity := ⟨[], []⟩

namespace HeaderDocument

/-- A fault of a document: the place, as names and positions from the outside in, and the kind. -/
structure Fault where
  /-- The place. -/
  place : List Text
  /-- The kind of fault. -/
  kind : Text
  deriving DecidableEq, Repr

/-- The wording of a fault; the document itself is the place `$`. -/
def Fault.message (fault : Fault) : Text :=
  (if fault.place.isEmpty then ("$" : Text) else Text.join "." fault.place) ++ ": " ++ fault.kind

/-- The wording of all faults of a document. -/
def message (faults : List Fault) : Text :=
  Text.join "; " (faults.map Fault.message)

/-- What a reader of a part of a document gives: faults, or a value if there are none. -/
abbrev Outcome (α : Type) := List Fault × α

/-- Reads a text at a place; where it is none, `[]` stands for it. -/
def text (place : List Text) : Document → Outcome Text
  | .text t => ([], t)
  | _ => ([⟨place, "string_type"⟩], [])

/-- The values of an object with `null` replaced by the empty text. -/
def withoutNull (members : List (Text × Document)) : List (Text × Document) :=
  members.map fun (name, d) => (name, match d with
    | .null => .text []
    | d => d)

/-- A field of the document as it is read: a `null` in an object is the empty text. -/
def field (d : Document) : Document :=
  match d with
  | .object members => .object (withoutNull members)
  | d => d

/-- Reads a member that is a text. It may be called by any of several names, the first of which
    that is present counts; it is empty if it is missing or `null`. -/
def textMember (place : List Text) (names : List Text) (members : List (Text × Document)) :
    Outcome Text :=
  match names.findSome? fun name => (members.lookup name).map fun d => (name, d) with
  | none => ([], [])
  | some (_, .null) => ([], [])
  | some (name, d) => text (place ++ [name]) (field d)

/-- Reads an object of texts. -/
def texts (place : List Text) : Document → Outcome (List (Text × Text))
  | .object members =>
    let read := members.map fun (name, d) => (name, text (place ++ [name]) d)
    (read.flatMap fun (_, faults, _) => faults, read.map fun (name, _, t) => (name, t))
  | _ => ([⟨place, "dict_type"⟩], [])

/-- Reads a member that is an object of texts; it is empty if it is missing or `null`. -/
def textsMember (name : Text) (members : List (Text × Document)) : Outcome (List (Text × Text)) :=
  match members.lookup name with
  | none => ([], [])
  | some .null => ([], [])
  | some d => texts [name] (field d)

/-- Reads the application. -/
def application (place : List Text) : Document → Outcome ClientApplication
  | .object members =>
    let (f₁, installationId) := textMember place ["installation_id"] members
    let (f₂, appTitle) := textMember place ["app_title"] members
    let (f₃, appVersionCode) := textMember place ["app_version_code"] members
    let (f₄, appPackageName) := textMember place ["app_package_name"] members
    (f₁ ++ f₂ ++ f₃ ++ f₄, ⟨installationId, appTitle, appVersionCode, appPackageName⟩)
  | _ => ([⟨place, "model_type"⟩], .unknown)

/-- Reads the member that is the application. -/
def applicationMember (members : List (Text × Document)) : Outcome ClientApplication :=
  match members.lookup ("client" : Text) with
  | none => ([], .unknown)
  | some .null => ([], .unknown)
  | some d => application ["client"] (field d)

/-- Reads what is known about the client; `null` means that nothing is. -/
def clientContext : Document → Outcome ClientContext
  | .null => ([], .unknown)
  | .object members =>
    let (f₁, client) := applicationMember members
    let (f₂, env) := textsMember "env" members
    let (f₃, custom) := textsMember "custom" members
    (f₁ ++ f₂ ++ f₃, ⟨client, env, custom⟩)
  | _ => ([⟨[], "model_type"⟩], .unknown)

/-- Reads the identity; `null` means that there is none. -/
def identity : Document → Outcome Identity
  | .null => ([], .unknown)
  | .object members =>
    let (f₁, id) := textMember [] ["cognitoIdentityId", "cognito_identity_id"] members
    let (f₂, poolId) := textMember [] ["cognitoIdentityPoolId", "cognito_identity_pool_id"] members
    (f₁ ++ f₂, ⟨id, poolId⟩)
  | _ => ([⟨[], "model_type"⟩], .unknown)

/-- The JSON of headers: 201 levels deep at most, and no surrogate on its own. -/
def rules : JsonRules := ⟨201, false⟩

/-- Reads the text of a header; an empty one gives `absent`. What is wrong is said behind a remark
    that names the document. -/
def parse {α : Type} (remark : Text) (absent : α) (read : Document → Outcome α) (t : Text) :
    Except Thrown α :=
  if t.isEmpty then .ok absent
  else match Json.read rules t with
    | .error _ => .error (.malformedInvoke (remark ++ message [⟨[], "json_invalid"⟩]))
    | .ok d => match read d with
      | ([], value) => .ok value
      | (faults, _) => .error (.malformedInvoke (remark ++ message faults))

end HeaderDocument

/-- The client context a header states. -/
def ClientContext.parse (t : Text) : Except Thrown ClientContext :=
  HeaderDocument.parse "failed to unmarshal client context json: " .unknown
    HeaderDocument.clientContext t

/-- The identity a header states. -/
def Identity.parse (t : Text) : Except Thrown Identity :=
  HeaderDocument.parse "failed to unmarshal cognito identity json: " .unknown
    HeaderDocument.identity t

end InvokeWorker
