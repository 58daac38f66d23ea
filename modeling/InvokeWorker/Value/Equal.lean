import InvokeWorker.Value.Parts

/-!
# Equality of values

Values are compared by content, as keys of contexts and mappings are: truth values and numbers
numerically, whatever their kind; texts, byte sequences and containers by what they hold. An object
whose class derives from one of these is compared as the value it is an instance of. Objects without
content equal nothing, since two of them are never the same one.
-/

namespace InvokeWorker

namespace Value

/-- What counts of a value where it is compared: an object of a class of handler code counts as the
    value it is an instance of. -/
def content : Value → Value
  | custom ⟨_, core, _⟩ => content core
  | v => v

/-- The numerical value of a number or truth value. -/
def number? : Value → Option Double
  | bool b => some (.ofIntRatio (if b then 1 else 0) 1)
  | int n => some (.ofIntRatio n 1)
  | float d => some d
  | _ => none

/-- A truth value or integer as an integer. -/
def integer? : Value → Option Int
  | bool b => some (if b then 1 else 0)
  | int n => some n
  | _ => none

/-- Whether two numbers are equal; integers are compared exactly. -/
def sameNumber (a b : Value) : Bool :=
  match a, b with
  | float x, float y => x.eq y
  | float x, b => x.isFinite && x.integer?.isSome && x.integer? == b.integer?
  | a, float y => y.isFinite && y.integer?.isSome && y.integer? == a.integer?
  | a, b => a.integer?.isSome && a.integer? == b.integer?

end Value

mutual

/-- Whether two values are equal. -/
def Value.same : Value → Value → Bool
  | .null, b => match b with
    | .null => true
    | _ => false
  | .text s, b => match b.content with
    | .text t => s = t
    | _ => false
  | .bytes s, b => b.content.octets? == some s
  | .byteArray s, b => b.content.octets? == some s
  | .memoryView s, b => b.content.octets? == some s
  | .list as, b => match b.content with
    | .list bs => Value.sameItems as bs
    | _ => false
  | .tuple as, b => match b.content with
    | .tuple bs => Value.sameItems as bs
    | _ => false
  | .set as, b => match b with
    | .set bs => as.length = bs.length && Value.allIn as bs
    | .frozenSet bs => as.length = bs.length && Value.allIn as bs
    | _ => false
  | .frozenSet as, b => match b with
    | .set bs => as.length = bs.length && Value.allIn as bs
    | .frozenSet bs => as.length = bs.length && Value.allIn as bs
    | _ => false
  | .mapping as, b => match b.content with
    | .mapping bs => as.length = bs.length && Value.allEntriesIn as bs
    | _ => false
  | .instant s, b => match b with
    | .instant t => s = t
    | _ => false
  | .typed s m, b => match b with
    | .typed t n => s.same t && m.same n
    | _ => false
  | .custom ⟨_, core, _⟩, b => core.same b
  | a, b => Value.sameNumber a b.content
termination_by structural v => v

/-- Whether two lists hold equal values in the same order. -/
def Value.sameItems : List Value → List Value → Bool
  | [], bs => bs.isEmpty
  | a :: as, bs => match bs with
    | [] => false
    | b :: bs => a.same b && Value.sameItems as bs
termination_by structural vs => vs

/-- Whether every value of the first list equals one of the second. -/
def Value.allIn : List Value → List Value → Bool
  | [], _ => true
  | a :: as, bs => bs.any (fun b => a.same b) && Value.allIn as bs
termination_by structural vs => vs

/-- Whether every entry of the first mapping has an equal one in the second. -/
def Value.allEntriesIn : List (Value × Value) → List (Value × Value) → Bool
  | [], _ => true
  | (k, v) :: as, bs => bs.any (fun (l, w) => k.same l && v.same w) && Value.allEntriesIn as bs
termination_by structural vs => vs

end

namespace Value

/-- A mapping's entries after one more: a new key goes to the end, the value of a known key is
    replaced. -/
def insertEntry (entries : List (Value × Value)) (key value : Value) : List (Value × Value) :=
  if entries.any fun (k, _) => k.same key then
    entries.map fun (k, v) => if k.same key then (k, value) else (k, v)
  else entries ++ [(key, value)]

/-- The mapping made from entries given one after the other. -/
def ofEntries (entries : List (Value × Value)) : Value :=
  .mapping (entries.foldl (fun built (k, v) => insertEntry built k v) [])

/-- The values of a list without repetitions, first occurrences kept. -/
def distinct (items : List Value) : List Value :=
  items.foldl (fun seen v => if seen.any fun w => w.same v then seen else seen ++ [v]) []

/-- The value of a key in a mapping's entries. -/
def lookup? (entries : List (Value × Value)) (key : Value) : Option Value :=
  (entries.find? fun (k, _) => k.same key).map (·.2)

/-- Whether a value counts as true where one is asked for: zero and what is empty do not. Who may
    come upon a view that was released has to look for that first. -/
def isTrue : Value → Bool
  | null => false
  | bool b => b
  | int n => n ≠ 0
  | float d => !d.isZero
  | text t => !t.isEmpty
  | bytes b => !b.isEmpty
  | byteArray b => !b.isEmpty
  | memoryView b => !b.isEmpty
  | releasedView => false
  | list items => !items.isEmpty
  | tuple items => !items.isEmpty
  | set items => !items.isEmpty
  | frozenSet items => !items.isEmpty
  | mapping entries => !entries.isEmpty
  | custom ⟨_, core, _⟩ => isTrue core
  | _ => true

end Value

end InvokeWorker
