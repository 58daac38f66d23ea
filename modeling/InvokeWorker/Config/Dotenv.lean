import InvokeWorker.Text.Blank

/-!
# Files of variables

A file of variables has a binding on each line: a name, an equals sign and a value, which may stand
between quotes and may be followed by a comment. A line that cannot be read is passed over. Within a
value, `${NAME}` and `${NAME:-default}` stand for a variable bound further up or, failing that, one
of the process.
-/

namespace InvokeWorker.Dotenv

/-- An end of a line. -/
def isBreak (c : CodePoint) : Bool :=
  c = 10 || c = 13

/-- White space within a line. -/
def isSpace (c : CodePoint) : Bool :=
  c.isBlank && !isBreak c

/-- What stands for a letter behind a backslash between double quotes. -/
def escapes : List (CodePoint × CodePoint) :=
  [(92, 92), (39, 39), (34, 34), (97, 7), (98, 8), (102, 12), (110, 10), (114, 13), (116, 9),
    (118, 11)]

/-- What stands for a letter behind a backslash between single quotes. -/
def singleEscapes : List (CodePoint × CodePoint) :=
  [(92, 92), (39, 39)]

/-- Replaces the escapes of a text. -/
def unescape (escapes : List (CodePoint × CodePoint)) : Text → Text
  | 92 :: c :: rest => match escapes.lookup c with
    | some d => d :: unescape escapes rest
    | none => 92 :: unescape escapes (c :: rest)
  | c :: rest => c :: unescape escapes rest
  | [] => []
termination_by t => t.length

/-- What stands before the closing quote and after it. A quote behind a backslash does not close,
    unless no other does: then the last one such does. -/
def quoted? (mark : CodePoint) (read : Text) (last : Option (Text × Text)) :
    Text → Option (Text × Text)
  | 92 :: c :: rest =>
    if c = mark then
      quoted? mark (mark :: 92 :: read) (some ((92 :: read).reverse, rest)) rest
    else quoted? mark (92 :: read) last (c :: rest)
  | c :: rest => if c = mark then some (read.reverse, rest) else quoted? mark (c :: read) last rest
  | [] => last
termination_by t => t.length

/-- Cuts a comment that follows white space off a value. -/
def withoutComment (t : Text) : Text :=
  match t with
  | [] => []
  | c :: rest =>
    if c.isBlank && (rest.dropWhile CodePoint.isBlank).head? = some 35 then []
    else c :: withoutComment rest

/-- Cuts white space off the end. -/
def withoutTrailingBlank (t : Text) : Text :=
  (t.reverse.dropWhile CodePoint.isBlank).reverse

/-- A value and what follows it. -/
def value? (t : Text) : Option (Text × Text) :=
  match t with
  | 39 :: rest => (quoted? 39 [] none rest).map fun (v, rest) => (unescape singleEscapes v, rest)
  | 34 :: rest => (quoted? 34 [] none rest).map fun (v, rest) => (unescape escapes v, rest)
  | t =>
    let line := t.takeWhile (!isBreak ·)
    some (withoutTrailingBlank (withoutComment line), t.drop line.length)

/-- Drops the word `export` if white space follows it. -/
def withoutExport (t : Text) : Text :=
  match Text.after? "export" t with
  | some (c :: rest) => if isSpace c then rest.dropWhile isSpace else t
  | _ => t

/-- A name and what follows it; a comment has no name. -/
def name? (t : Text) : Option (Option Text × Text) :=
  match t with
  | 35 :: _ => some (none, t)
  | 39 :: rest =>
    match rest.takeWhile (· ≠ 39), rest.dropWhile (· ≠ 39) with
    | c :: name, _ :: rest => some (some (c :: name), rest)
    | _, _ => none
  | t =>
    let inside (c : CodePoint) : Bool := c ≠ 61 && c ≠ 35 && !c.isBlank
    match t.takeWhile inside with
    | [] => none
    | name => some (some name, t.dropWhile inside)

/-- What follows the end of a line, behind white space and a comment. -/
def endOfLine? (t : Text) : Option Text :=
  let rest := t.dropWhile isSpace
  let rest := match rest with
    | 35 :: _ => rest.dropWhile (!isBreak ·)
    | rest => rest
  match rest with
  | [] => some []
  | c :: rest => if isBreak c then some rest else none

/-- A binding: a name, if it is none of a comment, and a value, if there is an equals sign. What
    follows is returned too; where the line cannot be read, it starts at the place of the fault. -/
def binding (t : Text) : Except Text (Option Text × Option Text × Text) :=
  let t := withoutExport t
  match name? t with
  | none => .error t
  | some (name, rest) =>
    match rest.dropWhile isSpace with
    | 61 :: rest =>
      let rest := rest.dropWhile isSpace
      match value? rest with
      | none => .error rest
      | some (v, rest) => match endOfLine? rest with
        | none => .error rest
        | some rest => .ok (name, some v, rest)
    | rest => match endOfLine? rest with
      | none => .error rest
      | some rest => .ok (name, none, rest)

/-- The bindings of a text in order. Each line costs one unit of fuel. -/
def bindings : (fuel : Nat) → Text → List (Text × Option Text)
  | 0, _ => []
  | fuel + 1, t =>
    match t.dropWhile CodePoint.isBlank with
    | [] => []
    | t => match binding t with
      | .error rest => bindings fuel ((rest.dropWhile (!isBreak ·)).drop 1)
      | .ok (some name, v, rest) => (name, v) :: bindings fuel rest
      | .ok (none, _, rest) => bindings fuel rest

/-- The reference at the front of a text: name, default and what follows. -/
def reference? (t : Text) : Option (Text × Text × Text) :=
  match t with
  | 36 :: 123 :: rest =>
    let inside (c : CodePoint) : Bool := c ≠ 125 && c ≠ 58
    let name := rest.takeWhile inside
    match rest.dropWhile inside with
    | 125 :: rest => some (name, [], rest)
    | 58 :: 45 :: rest =>
      match rest.dropWhile (· ≠ 125) with
      | 125 :: after => some (name, rest.takeWhile (· ≠ 125), after)
      | _ => none
    | _ => none
  | _ => none

/-- Replaces the references of a value. A variable without a value counts as empty, one that is not
    bound takes the default. -/
def resolve (known : Text → Option (Option Text)) : (fuel : Nat) → Text → Text
  | 0, t => t
  | _, [] => []
  | fuel + 1, c :: rest =>
    match reference? (c :: rest) with
    | some (name, default_, rest) =>
      (match known name with
        | some v => v.getD []
        | none => default_) ++ resolve known fuel rest
    | none => c :: resolve known fuel rest

/-- Replaces the references of bindings, one after the other. -/
def resolveAll (environment : List (Text × Text)) (bound : List (Text × Option Text)) :
    List (Text × Option Text) → List (Text × Option Text)
  | [] => bound
  | (name, v) :: rest =>
    let known (n : Text) : Option (Option Text) :=
      match bound.reverse.lookup n with
      | some v => some v
      | none => (environment.lookup n).map some
    let resolved := v.map fun v => resolve known (v.length + 1) v
    resolveAll environment (bound ++ [(name, resolved)]) rest

/-- Line ends of every kind as single line feeds. -/
def normalizeBreaks : Text → Text
  | 13 :: 10 :: rest => 10 :: normalizeBreaks rest
  | 13 :: rest => 10 :: normalizeBreaks rest
  | c :: rest => c :: normalizeBreaks rest
  | [] => []

/-- The variables a text binds to a value; of several bindings of a name the last counts. -/
def parse (environment : List (Text × Text)) (t : Text) : List (Text × Text) :=
  let t := normalizeBreaks t
  let bound := resolveAll environment [] (bindings (t.length + 1) t)
  let names := Text.distinct (bound.map (·.1))
  names.filterMap fun name => (bound.reverse.lookup name).bind fun v => v.map fun v => (name, v)

end InvokeWorker.Dotenv
