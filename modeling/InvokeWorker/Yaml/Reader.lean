import InvokeWorker.Value.Equal
import InvokeWorker.Yaml.Scalar
import InvokeWorker.Yaml.Text

/-!
# Reading YAML

A node is a scalar, a sequence or a mapping. Sequences and mappings are written as *blocks*, whose
entries start in one column, or between brackets. Whether a block may start somewhere depends on
what stands before it in the line (`fresh`): after a dash it may, after the colon of a key it may
not. A key fits into one line.

A node can be named and referred to, and a scalar can be told what it stands for by a tag. A mapping
takes over the entries of the mappings its `<<` refers to, unless it has its own.
-/

namespace InvokeWorker.Yaml

/-- What is said about a node in front of it. -/
structure Properties where
  /-- Its name. -/
  anchor : Option Text
  /-- Its tag. -/
  tag : Option Text
  deriving DecidableEq

namespace Properties

/-- Nothing is said. -/
def none : Properties := ⟨.none, .none⟩

/-- Whether nothing is said. -/
def isNone (p : Properties) : Bool :=
  p.anchor.isNone && p.tag.isNone

end Properties

/-- The longest key there can be. -/
def maxKeyLength : Nat := 1024

/-- A code point of a name. -/
def isNameCharacter (c : CodePoint) : Bool :=
  c.isLetter || c.isDigit || c = 45 || c = 95

/-- Code points that no YAML text may hold. -/
def isForbidden (c : CodePoint) : Bool :=
  let n := c.val
  !(n = 9 || n = 10 || n = 13 || (0x20 ≤ n && n ≤ 0x7E) || n = 0x85 || (0xA0 ≤ n && n ≤ 0xD7FF)
    || (0xE000 ≤ n && n ≤ 0xFFFD) || 0x10000 ≤ n)

/-- Reads the name behind `&` or `*`. -/
def readName : Read Text := do
  Read.forward 1
  let rest := (← get).rest
  let name := rest.takeWhile isNameCharacter
  if name.isEmpty then refuse
  Read.forward name.length
  match ← Read.peek with
  | none => return name
  | some c =>
    if (("?:,]\x7d%@ \t\n" : Text) ++ [96]).contains c then return name else refuse

/-- Reads a tag. Only those of the standard are known. -/
def readTag : Read Text := do
  let rest := (← get).rest
  let tag := rest.takeWhile fun c => c ≠ 32 && c ≠ 9 && c ≠ 10
  Read.forward tag.length
  return tag

/-- Reads the properties of a node. -/
def readProperties : (fuel : Nat) → Properties → Read Properties
  | 0, p => return p
  | fuel + 1, p => do
    match ← Read.peek with
    | some 38 =>
      if p.anchor.isSome then refuse
      let name ← readName
      modify fun c => { c with rest := c.rest.dropWhile (· = 32),
                               column := c.column + (c.rest.takeWhile (· = 32)).length }
      readProperties fuel { p with anchor := some name }
    | some 33 =>
      if p.tag.isSome then refuse
      let tag ← readTag
      modify fun c => { c with rest := c.rest.dropWhile (· = 32),
                               column := c.column + (c.rest.takeWhile (· = 32)).length }
      readProperties fuel { p with tag := some tag }
    | _ => return p

/-- Names a node. -/
def define (p : Properties) (v : Value) : Read Value := do
  match p.anchor with
  | none => return v
  | some name =>
    modify fun c => { c with anchors := (name, v) :: c.anchors }
    return v

/-- The value of a scalar with a tag. -/
def tagged (tag t : Text) : Read Value :=
  match tag = "!" ∨ tag = "!!str", resolve t with
  | _, v =>
    if tag = "!" ∨ tag = "!!str" then return .text t
    else if tag = "!!null" then return .null
    else match v with
      | .int n => if tag = "!!int" then return .int n
          else if tag = "!!float" then return .float (.ofIntRatio n 1) else refuse
      | .float d => if tag = "!!float" then return .float d else refuse
      | .bool b => if tag = "!!bool" then return .bool b else refuse
      | _ => refuse

/-- The value of a scalar; `plain` scalars stand for more than texts. -/
def scalar (p : Properties) (plain : Bool) (t : Text) : Read Value := do
  match p.tag with
  | some tag => define p (← tagged tag t)
  | none =>
    if plain && t = "=" then refuse
    define p (if plain then resolve t else .text t)

/-- A sequence or mapping, which may have the tag of its kind. -/
def collection (p : Properties) (tag : Text) (v : Value) : Read Value :=
  if p.tag.isNone || p.tag = some tag then define p v else refuse

/-- A node that is referred to. -/
def readAlias : Read Value := do
  let name ← readName
  match (← get).anchors.lookup name with
  | some v => return v
  | none => refuse

/-- An entry of a mapping. -/
structure Entry where
  /-- The key. -/
  key : Value
  /-- Whether the key asks for the entries of other mappings. -/
  merges : Bool
  /-- The value. -/
  value : Value

/-- Whether a value can be a key. -/
def isKey : Value → Bool
  | .list _ => false
  | .mapping _ => false
  | _ => true

/-- The entries of the mappings a merge refers to, the first mapping last. -/
def mergedEntries : Value → Read (List (Value × Value))
  | .mapping es => return es
  | .list vs => do
    let parts ← vs.reverse.mapM fun v => match v with
      | .mapping es => pure es
      | _ => refuse
    return parts.flatten
  | _ => refuse

/-- The mapping of some entries. -/
def mappingOf (entries : List Entry) : Read Value := do
  let merged ← (entries.filter (·.merges)).mapM fun e => mergedEntries e.value
  let own := entries.filter (!·.merges)
  if own.all fun e => isKey e.key then
    return Value.ofEntries (merged.flatten ++ own.map fun e => (e.key, e.value))
  else refuse

/-- Whether a plain scalar asks for the entries of other mappings. -/
def isMerge (c : Cursor) : Bool :=
  Text.startsWith c.rest "<<" && isBlankOrEnd (c.rest.drop 2).head? ||
    Text.startsWith c.rest "<<:" && isBlankOrEnd (c.rest.drop 3).head?

/-- What follows a key is a colon in the line the key starts in, and not too far away. -/
def atColon (flow : Bool) (start : Cursor) : Read Bool := do
  let c ← get
  let isColon := if flow then c.rest.head? = some 58 else c.atIndicator 58
  if isColon then
    if c.line = start.line ∧ start.rest.length - c.rest.length ≤ maxKeyLength then return true
    else refuse
  else return false

mutual

/-- Reads a node between brackets, or an inline node of a block whose parent is indented by `parent`
    columns less one. -/
def readInline (flow : Bool) (parent : Nat) : (fuel : Nat) → Properties → Read Value
  | 0, _ => refuse
  | fuel + 1, p => do
    let c ← get
    match c.rest with
    | [] => refuse
    | d :: rest =>
      if d = 42 then if p.isNone then readAlias else refuse
      else if d = 91 then do
        Read.forward 1
        collection p "!!seq" (.list (← readFlowItems fuel []))
      else if d = 123 then do
        Read.forward 1
        collection p "!!map" (← mappingOf (← readFlowEntries fuel []))
      else if d = 34 then do scalar p false (← readQuoted true)
      else if d = 39 then do scalar p false (← readQuoted false)
      else if !flow && (d = 124 || d = 62) then do scalar p false (← readBlock (d = 62) parent)
      else if startsPlain flow d rest.head? then do scalar p true (← readPlain flow parent)
      else refuse
termination_by structural fuel => fuel

/-- Reads a node between brackets with its properties; it may be empty. -/
def readFlowNode : (fuel : Nat) → Read Value
  | 0 => refuse
  | fuel + 1 => do
    let p ← readProperties 3 .none
    if p.isNone then readInline true 0 fuel p
    else
      discard Read.skipBlank
      match ← Read.peek with
      | some 44 => scalar p true []
      | some 93 => scalar p true []
      | some 125 => scalar p true []
      | some 58 => scalar p true []
      | _ => readInline true 0 fuel p
termination_by structural fuel => fuel

/-- Reads the value behind the colon of a key between brackets. -/
def readFlowValue : (fuel : Nat) → Read Value
  | 0 => refuse
  | fuel + 1 => do
    Read.forward 1
    discard Read.skipBlank
    match ← Read.peek with
    | some 44 => return .null
    | some 93 => return .null
    | some 125 => return .null
    | _ => readFlowNode fuel
termination_by structural fuel => fuel

/-- Reads the items of a sequence behind those read so far (last first). -/
def readFlowItems : (fuel : Nat) → List Value → Read (List Value)
  | 0, _ => refuse
  | fuel + 1, items => do
    discard Read.skipBlank
    if (← get).atEnd then refuse
    match ← Read.peek with
    | some 93 =>
      Read.forward 1
      return items.reverse
    | _ =>
      let start ← get
      let v ← readFlowNode fuel
      discard Read.skipBlank
      let v ← if ← atColon true start then do
          mappingOf [⟨v, isMerge start, ← readFlowValue fuel⟩]
        else pure v
      discard Read.skipBlank
      match ← Read.peek with
      | some 44 =>
        Read.forward 1
        readFlowItems fuel (v :: items)
      | some 93 => readFlowItems fuel (v :: items)
      | _ => refuse
termination_by structural fuel => fuel

/-- Reads the entries of a mapping behind those read so far (last first). -/
def readFlowEntries : (fuel : Nat) → List Entry → Read (List Entry)
  | 0, _ => refuse
  | fuel + 1, entries => do
    discard Read.skipBlank
    if (← get).atEnd then refuse
    match ← Read.peek with
    | some 125 =>
      Read.forward 1
      return entries.reverse
    | _ =>
      let start ← get
      let key ← readFlowNode fuel
      discard Read.skipBlank
      let value ← if ← atColon true start then readFlowValue fuel else pure .null
      discard Read.skipBlank
      let entries := ⟨key, isMerge start, value⟩ :: entries
      match ← Read.peek with
      | some 44 =>
        Read.forward 1
        readFlowEntries fuel entries
      | some 125 => readFlowEntries fuel entries
      | _ => refuse
termination_by structural fuel => fuel

end

/-- Nothing but a comment follows in the line. -/
def endOfNode : Read Unit := do
  let crossed ← Read.skipBlank
  if crossed || (← get).rest.isEmpty then return
  refuse

mutual

/-- Reads a node of a block at the cursor, which is inside a parent indented by `parent` columns
    less one. Sequences and mappings may start here if `fresh`. -/
def readNode (parent : Nat) (fresh : Bool) : (fuel : Nat) → Read Value
  | 0 => refuse
  | fuel + 1 => do
    let start ← get
    if start.atIndicator 45 then
      if fresh then return .list (← readItems false start.column fuel []) else refuse
    else if start.atIndicator 63 then
      if fresh then mappingOf (← readEntries start.column fuel []) else refuse
    else
      let p ← readProperties 3 .none
      let crossed ← Read.skipBlank
      let c ← get
      if !p.isNone && (crossed || c.rest.isEmpty) then
        if c.atEnd || c.column < parent then
          if c.column + 1 = parent && c.atIndicator 45 && fresh then
            collection p "!!seq" (.list (← readItems true c.column fuel []))
          else scalar p true []
        else readPropertied p parent fuel
      else if !p.isNone && c.atIndicator 58 && fresh then
        set start
        mappingOf (← readEntries start.column fuel [])
      else
        let v ← readInline false parent fuel p
        let afterNode ← get
        let afterNode := { afterNode with
          rest := afterNode.rest.dropWhile (· = 32),
          column := afterNode.column + (afterNode.rest.takeWhile (· = 32)).length }
        if afterNode.atIndicator 58 then
          if fresh then
            set start
            mappingOf (← readEntries start.column fuel [])
          else refuse
        else
          endOfNode
          return v
termination_by structural fuel => fuel

/-- Reads the node the properties on a line of their own belong to. -/
def readPropertied (p : Properties) (parent : Nat) : (fuel : Nat) → Read Value
  | 0 => refuse
  | fuel + 1 => do
    let v ← readNode parent true fuel
    match v with
    | .list _ => collection p "!!seq" v
    | .mapping _ => collection p "!!map" v
    | v => if p.tag.isNone then define p v else refuse
termination_by structural fuel => fuel

/-- Reads what belongs to a key or a dash in `column`, behind it. `fresh` says whether a block may
    start in the same line, `dashes` whether a sequence may start in the same column. -/
def readContent (column : Nat) (fresh dashes : Bool) : (fuel : Nat) → Read Value
  | 0 => refuse
  | fuel + 1 => do
    let crossed ← Read.skipBlank
    let c ← get
    if c.atEnd then return .null
    else if !crossed then readNode (column + 1) fresh fuel
    else if column < c.column then readNode (column + 1) true fuel
    else if c.column = column && dashes && c.atIndicator 45 then
      return .list (← readItems true column fuel [])
    else return .null
termination_by structural fuel => fuel

/-- Reads the items of a sequence whose dashes stand in `column`, behind those read so far (last
    first). Where a key stands in the same column, something else may follow. -/
def readItems (besideKey : Bool) (column : Nat) : (fuel : Nat) → List Value → Read (List Value)
  | 0, _ => refuse
  | fuel + 1, items => do
    Read.forward 1
    let v ← readContent column true false fuel
    let c ← get
    if c.atEnd || c.column < column then return (v :: items).reverse
    else if c.column = column && c.atIndicator 45 then readItems besideKey column fuel (v :: items)
    else if c.column = column && besideKey then return (v :: items).reverse
    else refuse
termination_by structural fuel => fuel

/-- Reads the entries of a mapping whose keys start in `column`, behind those read so far (last
    first). -/
def readEntries (column : Nat) : (fuel : Nat) → List Entry → Read (List Entry)
  | 0, _ => refuse
  | fuel + 1, entries => do
    let start ← get
    let key ← readKey column fuel
    let hasValue := (← get).atIndicator 58
    let explicit := start.atIndicator 63
    let value ← if hasValue then do
        Read.forward 1
        readContent column explicit true fuel
      else if explicit then pure .null
      else refuse
    let entries := ⟨key, !explicit && isMerge start, value⟩ :: entries
    let c ← get
    if c.atEnd || c.column < column then return entries.reverse
    else if c.column = column && !c.atIndicator 45 then readEntries column fuel entries
    else refuse
termination_by structural fuel => fuel

/-- Reads a key in `column` and stops in front of its colon, if it has one. -/
def readKey (column : Nat) : (fuel : Nat) → Read Value
  | 0 => refuse
  | fuel + 1 => do
    let start ← get
    if start.atIndicator 63 then
      Read.forward 1
      let key ← readContent column true true fuel
      let c ← get
      if c.atEnd || c.column ≤ column then return key else refuse
    else
      let p ← readProperties 3 .none
      let key ← if (← get).atIndicator 58 then scalar p true []
        else readInline false (column + 1) fuel p
      modify fun c => { c with
        rest := c.rest.dropWhile (· = 32),
        column := c.column + (c.rest.takeWhile (· = 32)).length }
      if ← atColon false start then return key else refuse
termination_by structural fuel => fuel

end

/-- Skips the directives in front of a document; tells whether there are any. -/
def skipDirectives : (fuel : Nat) → Bool → Read Bool
  | 0, found => return found
  | fuel + 1, found => do
    discard Read.skipBlank
    let c ← get
    if c.column = 0 && c.rest.head? = some 37 then
      set (c.forward (c.rest.takeWhile (· ≠ 10)).length)
      skipDirectives fuel true
    else return found

/-- Reads a document; an empty one is `null`. Nothing may follow but a mark of its end. -/
def readDocument (fuel : Nat) : Read Value := do
  let directives ← skipDirectives fuel false
  let c ← get
  let marked := c.column = 0 && isMarker c.rest && c.rest.head? = some 45
  if directives && !marked then refuse
  let crossed ← if marked then do
      Read.forward 3
      Read.skipBlank
    else pure true
  let c ← get
  let v ← if c.atEnd then pure .null else readNode 0 crossed fuel
  let c ← get
  if c.rest.isEmpty then return v
  if c.column = 0 && isMarker c.rest && c.rest.head? = some 46 then
    Read.forward 3
    discard Read.skipBlank
    if (← get).rest.isEmpty then return v
  refuse

/-- The value a YAML text stands for. -/
def read (t : Text) : Except Malformed Value :=
  if t.any isForbidden then .error .malformed
  else
    let t := match t with
      | 0xFEFF :: rest => rest
      | t => t
    let t := normalizeBreaks t
    match (readDocument (4 * t.length + 10)).run ⟨t, 0, 0, []⟩ with
    | .ok v _ => .ok v
    | .error e _ => .error e

end InvokeWorker.Yaml
