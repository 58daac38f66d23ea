import InvokeWorker.Text.Blank

/-!
# Trace headers

A trace header names the root of a trace, the segment an invoke belongs to and the sampling
decision, as `Root=…;Parent=…;Sampled=…`. `TraceHeader.parse` reads any text: parts without an
equals sign are passed over, of two parts with one key the later counts, and a text that holds a
hyphen and no equals sign at all is taken for a bare root. `TraceHeader.render` writes the header
back without the fields that are missing or empty.
-/

namespace InvokeWorker

/-- What a trace header says. -/
structure TraceHeader where
  /-- The root of the trace; empty if the header names none. -/
  root : Text
  /-- The segment the invoke belongs to. -/
  parent : Option Text
  /-- The sampling decision. -/
  sampled : Option Text
  deriving DecidableEq, Repr

namespace TraceHeader

/-- The key and value of a part: what stands before and after its first equals sign, without the
    white space around either. -/
def field? (part : Text) : Option (Text × Text) :=
  (Text.cutFirst? 61 part).map fun (key, value) => (key.trim, value.trim)

/-- The fields of a header in order. -/
def fields (header : Text) : List (Text × Text) :=
  (Text.splitOn 59 header).filterMap field?

/-- The value of a key: that of the last field with the key. -/
def value? (key : Text) (header : Text) : Option Text :=
  (fields header).reverse.lookup key

/-- Whether a header that names no root is a root itself. -/
def isBareRoot (header : Text) : Bool :=
  header.contains 45 && !header.contains 61

/-- Reads a header. -/
def parse (header : Text) : TraceHeader :=
  let root := (value? "Root" header).getD []
  ⟨if root.isEmpty && isBareRoot header then header.trim else root,
    value? "Parent" header, value? "Sampled" header⟩

/-- A field behind a separator, unless it is missing or empty. -/
def optionalField (key : Text) : Option Text → Text
  | none => []
  | some [] => []
  | some value => 59 :: key ++ 61 :: value

/-- Writes a header. -/
def render (t : TraceHeader) : Text :=
  "Root=" ++ t.root ++ optionalField "Parent" t.parent ++ optionalField "Sampled" t.sampled

end TraceHeader

end InvokeWorker
