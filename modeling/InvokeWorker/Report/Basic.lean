import InvokeWorker.Value.Lenient

/-!
# Reports of failed invokes

A report can be built in two ways. `Report.read` takes fields leniently, as texts, integers and
truth values of several spellings, and lists every field that does not fit; what it returns is
*valid*: each field has its declared type. Without a check a report can hold anything.
-/

namespace InvokeWorker

namespace Frame

/-- A frame whose fields have their declared types. -/
def of (path : Text) (line : Int) (label : Text) : Frame :=
  .site (.text path) (.int line) (.text label)

/-- Whether an item of a stack trace is a frame with a text, an integer and a text. -/
def isValid : Frame → Bool
  | .site (.text _) (.int _) (.text _) => true
  | _ => false

/-- The value a frame gives as its path. Another error than that of a missing attribute in looking
    it up is passed on. -/
def givenPath : Frame → Except Thrown Value
  | .site path _ _ => .ok path
  | .other _ => .ok .null
  | .pathed (.gives path) _ => .ok path
  | .pathed (.raises e) _ => if e.isIn .attribute then .ok .null else .error e

/-- The path of a frame, if it is a text. -/
def path? (f : Frame) : Option Text :=
  match f.givenPath with
  | .ok path => path.text?
  | .error _ => none

/-- The value a frame gives as its path, if that is a certain text. -/
def pathAs? (f : Frame) (path : Text) : Option Value :=
  match f.givenPath with
  | .ok given => if given.text? = some path then some given else none
  | .error _ => none

/-- The error of looking for the path of a frame among other ones. -/
def pathFault? (f : Frame) : Option Thrown :=
  match f.givenPath with
  | .error e => some e
  | .ok (.custom ⟨_, .text _, own⟩) => own.lookupFault
  | .ok _ => none

/-- A field of a frame as it is given under its name, or a default. -/
def readField {α : Type} (place : List Text) (name : Text) (read : Value → Except Misfit α)
    (absent : α) (entries : List (Value × Value)) : List Misplaced × α :=
  match Value.lookup? entries (.text name) with
  | none => ([], absent)
  | some v => match read v with
    | .ok a => ([], a)
    | .error misfit => ([⟨place ++ [name], misfit⟩], absent)

/-- Reads a frame from a mapping. -/
def read (place : List Text) (v : Value) : List Misplaced × Frame :=
  match Lenient.entries? v with
  | none => ([⟨place, .model⟩], .other v)
  | some entries =>
    let (m₁, path) := readField place "path" Lenient.text [] entries
    let (m₂, line) := readField place "line" Lenient.int 0 entries
    let (m₃, label) := readField place "label" Lenient.text [] entries
    (m₁ ++ m₂ ++ m₃, .of path line label)

end Frame

/-- The frame of a place. -/
def Site.frame (s : Site) : Frame := .of s.path s.line s.label

namespace Report

/-- A report of the declared types. -/
def of (errorType message : Text) (stack : List Frame) (shouldExit : Bool) : Report :=
  ⟨.text errorType, .text message, some stack, .bool shouldExit⟩

/-- Whether every field of a report has its declared type. -/
def isValid : Report → Bool
  | ⟨.text _, .text _, some stack, .bool _⟩ => stack.all Frame.isValid
  | _ => false

/-- Whether the process must exit after the report. -/
def isFatal (r : Report) : Bool :=
  r.shouldExit.isTrue

/-- The stack of a report, with nothing in it if it was left out. -/
def frames (r : Report) : List Frame :=
  r.stack.getD []

/-- The stack trace a report is to be read from: a value, or items that are frames already. -/
inductive StackInput where
  /-- A value. -/
  | value (v : Value)
  /-- Frames and other items. -/
  | items (fs : List Frame)

/-- The fields a report is to be read from, each with the name it is given by. -/
structure Draft where
  /-- The type of the error. -/
  errorType : Option (Text × Value)
  /-- The message of the error. -/
  message : Option (Text × Value)
  /-- The stack trace. -/
  stack : Option (Text × StackInput)
  /-- Whether the process must exit. -/
  shouldExit : Option (Text × Value)

/-- A field, given by one of two names; the first one counts. -/
def givenBy (fields : List (Text × Value)) (names : List Text) : Option (Text × Value) :=
  names.findSome? fun name => (fields.lookup name).map fun v => (name, v)

/-- The draft of fields given by name, by the names of the wire or by their own. -/
def Draft.ofFields (fields : List (Text × Value)) : Draft :=
  ⟨givenBy fields ["errorType", "error_type"], givenBy fields ["errorMessage", "error_message"],
    (givenBy fields ["stackTrace", "stack_trace"]).map fun (name, v) => (name, .value v),
    givenBy fields ["should_exit"]⟩

/-- Reads a field that is given, or takes its default. -/
def readGiven {α : Type} (read : Value → Except Misfit α) (absent : α)
    (given : Option (Text × Value)) : List Misplaced × α :=
  match given with
  | none => ([], absent)
  | some (name, v) => match read v with
    | .ok a => ([], a)
    | .error misfit => ([⟨[name], misfit⟩], absent)

/-- Reads the items of a stack trace; what is a frame already is kept as it is. -/
def readItems (name : Text) (items : List Frame) : List Misplaced × List Frame :=
  let read := items.zipIdx.map fun (item, i) => match item with
    | .site path line label => ([], Frame.site path line label)
    | .other v => Frame.read [name, Text.ofNat i] v
    | .pathed _ v => Frame.read [name, Text.ofNat i] v
  (read.flatMap (·.1), read.map (·.2))

/-- Reads a stack trace. -/
def readStack (given : Option (Text × StackInput)) : List Misplaced × List Frame :=
  match given with
  | none => ([], [])
  | some (name, .items fs) => readItems name fs
  | some (name, .value v) => match Lenient.pieces? v with
    | none => ([⟨[name], .list⟩], [])
    | some p =>
      if p.fault?.isSome then ([⟨[name, Text.ofNat p.items.length], .iteration⟩], [])
      else readItems name (p.items.map .other)

/-- Reads a report, or lists what does not fit. -/
def read (draft : Draft) : Except (List Misplaced) Report :=
  let (m₁, errorType) := readGiven Lenient.text [] draft.errorType
  let (m₂, message) := readGiven Lenient.text [] draft.message
  let (m₃, stack) := readStack draft.stack
  let (m₄, shouldExit) := readGiven Lenient.bool false draft.shouldExit
  match m₁ ++ m₂ ++ m₃ ++ m₄ with
  | [] => .ok (.of errorType message stack shouldExit)
  | misfits => .error misfits

end Report

end InvokeWorker
