import InvokeWorker.Value.Basic

/-!
# Reading positions in YAML

White space carries meaning in YAML, so a reader has to know the column it stands in. A `Cursor` is
the text that is left with the column and line of its start, and the nodes that have been named so
far. Line ends of every kind are read as line feeds.
-/

namespace InvokeWorker.Yaml

/-- A text is not well-formed YAML. -/
inductive Malformed where
  /-- There is only one way to say so. -/
  | malformed
  deriving DecidableEq, Repr

/-- A position within a text. -/
structure Cursor where
  /-- The text that is left. -/
  rest : Text
  /-- The column, from zero. -/
  column : Nat
  /-- The line, from zero. -/
  line : Nat
  /-- The nodes that have been named, the latest first. -/
  anchors : List (Text × Value)

/-- Something that is read at a cursor. -/
abbrev Read (α : Type) := EStateM Malformed Cursor α

/-- Refuses the text. -/
def refuse {α : Type} : Read α := throw .malformed

/-- Line ends of every kind as line feeds. -/
def normalizeBreaks : Text → Text
  | 13 :: 10 :: rest => 10 :: normalizeBreaks rest
  | c :: rest =>
    (if c = 13 ∨ c = 0x85 ∨ c = 0x2028 ∨ c = 0x2029 then 10 else c) :: normalizeBreaks rest
  | [] => []

/-- A space, tab or line feed, or the end of the text. -/
def isBlankOrEnd : Option CodePoint → Bool
  | none => true
  | some c => c = 32 || c = 9 || c = 10

/-- Whether a line starts here that separates documents. -/
def isMarker (t : Text) : Bool :=
  match t with
  | 45 :: 45 :: 45 :: rest => isBlankOrEnd rest.head?
  | 46 :: 46 :: 46 :: rest => isBlankOrEnd rest.head?
  | _ => false

/-- Skips spaces, comments and line feeds; gives what is left with its column and line. -/
def skipFrom (inComment : Bool) (column line : Nat) : Text → Text × Nat × Nat
  | [] => ([], column, line)
  | c :: rest =>
    if c = 10 then skipFrom false 0 (line + 1) rest
    else if inComment then skipFrom true (column + 1) line rest
    else if c = 32 then skipFrom false (column + 1) line rest
    else if c = 35 then skipFrom true (column + 1) line rest
    else (c :: rest, column, line)

namespace Cursor

/-- The cursor in front of the next thing that is neither white space nor a comment. -/
def skipBlank (c : Cursor) : Cursor :=
  let (rest, column, line) := skipFrom false c.column c.line c.rest
  { c with rest, column, line }

/-- The cursor some code points further in its line. -/
def forward (c : Cursor) (n : Nat) : Cursor :=
  { c with rest := c.rest.drop n, column := c.column + n }

/-- Whether the document ends here. -/
def atEnd (c : Cursor) : Bool :=
  c.rest.isEmpty || (c.column = 0 && isMarker c.rest)

/-- Whether an indicator stands here on its own. -/
def atIndicator (c : Cursor) (indicator : CodePoint) : Bool :=
  match c.rest with
  | d :: rest => d = indicator && isBlankOrEnd rest.head?
  | [] => false

end Cursor

namespace Read

/-- Moves in front of the next thing; tells whether that is on another line. -/
def skipBlank : Read Bool := do
  let before ← get
  let after := before.skipBlank
  set after
  return before.line ≠ after.line

/-- Moves some code points further in a line. -/
def forward (n : Nat) : Read Unit :=
  modify (·.forward n)

/-- The code point at the cursor. -/
def peek : Read (Option CodePoint) := do
  return (← get).rest.head?

end Read

end InvokeWorker.Yaml
