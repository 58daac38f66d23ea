import InvokeWorker.Number.Double
import InvokeWorker.Text.Basic

/-!
# JSON documents

What a JSON text says: `null`, truth values, numbers, texts, arrays, and objects as lists of
members in the order they are written. Integers and doubles are told apart, and the doubles include
the infinities and the not-a-number, for which JSON has no notation of its own but both writers
and readers of the field agree on one.
-/

namespace InvokeWorker

/-- A JSON document. -/
inductive Document where
  /-- `null`. -/
  | null
  /-- `true` or `false`. -/
  | bool (b : Bool)
  /-- A number without fraction and exponent. -/
  | int (n : Int)
  /-- A number with a fraction or an exponent. -/
  | float (d : Double)
  /-- A text. -/
  | text (t : Text)
  /-- An array. -/
  | array (items : List Document)
  /-- An object. -/
  | object (members : List (Text × Document))
  deriving Inhabited, Repr, BEq

namespace Document

/-- The members of an object after one more: a new name goes to the end, the value of a known name
    is replaced. -/
def insertMember (members : List (Text × Document)) (name : Text) (value : Document) :
    List (Text × Document) :=
  if members.any fun (n, _) => n = name then
    members.map fun (n, v) => if n = name then (n, value) else (n, v)
  else members ++ [(name, value)]

/-- The members left when later ones replace earlier ones of the same name. -/
def mergeMembers (members : List (Text × Document)) : List (Text × Document) :=
  members.foldl (fun merged (name, value) => insertMember merged name value) []

/-- The value of a member of an object. -/
def member? (name : Text) : Document → Option Document
  | object members => members.lookup name
  | _ => none

end Document

end InvokeWorker
