import InvokeWorker.Yaml.Cursor

/-!
# The texts of YAML scalars

A scalar is written in one of five ways: plain, between single or double quotes, or as a literal or
folded block. All but the literal block may go on over several lines, which are folded: a line feed
becomes a space, and further ones stay line feeds.
-/

namespace InvokeWorker.Yaml

/-- What a line feed with `extra` further ones is folded to. -/
def folded (extra : Nat) : Text :=
  if extra = 0 then [32] else List.replicate extra 10

/-! ## Plain scalars -/

/-- Skips spaces and line feeds behind a line feed; counts the line feeds. Stops in front of a line
    that separates documents. -/
def skipLines (count column : Nat) : Text → Nat × Nat × Text
  | [] => (count, column, [])
  | c :: rest =>
    if column = 0 ∧ isMarker (c :: rest) then (count, 0, c :: rest)
    else if c = 32 then skipLines count (column + 1) rest
    else if c = 10 then skipLines (count + 1) 0 rest
    else (count, column, c :: rest)

/-- Whether a plain scalar ends in front of a code point. -/
def endsPlain (flow : Bool) (c : CodePoint) (next : Option CodePoint) : Bool :=
  c = 32 || c = 9 || c = 10
    || (c = 58 && (isBlankOrEnd next
      || (flow && (next = some 44 || next = some 91 || next = some 93 || next = some 123
        || next = some 125))))
    || (flow && (c = 44 || c = 63 || c = 91 || c = 93 || c = 123 || c = 125))

/-- The part of a plain scalar up to the next white space or end. -/
def plainChunk (flow : Bool) : Text → Text × Text
  | [] => ([], [])
  | c :: rest =>
    if endsPlain flow c rest.head? then ([], c :: rest)
    else
      let (chunk, rest) := plainChunk flow rest
      (c :: chunk, rest)

/-- Reads a plain scalar behind what is read of it. A line of a block has to be indented by `indent`
    columns to belong to it. Stops in the line the scalar ends in. Each part costs one unit of
    fuel. -/
def plainFrom (flow : Bool) (indent : Nat) : (fuel : Nat) → (read spaces : Text) → Cursor →
    Text × Cursor
  | 0, read, _, c => (read, c)
  | fuel + 1, read, spaces, c =>
    match c.rest.head? == some 35, plainChunk flow c.rest with
    | true, _ => (read, c)
    | _, ([], _) => (read, c)
    | _, (chunk, rest) =>
      let read := read ++ spaces ++ chunk
      let blank := rest.takeWhile (· = 32)
      let c := { c with rest := rest.drop blank.length,
                        column := c.column + chunk.length + blank.length }
      match c.rest with
      | 10 :: rest =>
        let (extra, column, rest) := skipLines 0 0 rest
        let next := { c with rest, column, line := c.line + extra + 1 }
        if next.atEnd || rest.head? = some 35 || (!flow && column < indent) then (read, c)
        else plainFrom flow indent fuel read (folded extra) next
      | _ => if blank.isEmpty then (read, c) else plainFrom flow indent fuel read blank c

/-- Whether a plain scalar can start with a code point. -/
def startsPlain (flow : Bool) (c : CodePoint) (next : Option CodePoint) : Bool :=
  !(("-?:,[]\x7b\x7d#&*!|>'\"%@" : Text) ++ [96, 32, 9, 10]).contains c
    || (!isBlankOrEnd next && (c = 45 || (!flow && (c = 63 || c = 58))))

/-- Reads a plain scalar. -/
def readPlain (flow : Bool) (indent : Nat) : Read Text := do
  let c ← get
  let (t, c) := plainFrom flow indent (c.rest.length + 1) [] [] c
  set c
  return t

/-! ## Quoted scalars -/

/-- What stands for a letter behind a backslash. -/
def escapes : List (CodePoint × CodePoint) :=
  [(48, 0), (97, 7), (98, 8), (116, 9), (9, 9), (110, 10), (118, 11), (102, 12), (114, 13),
    (101, 27), (32, 32), (34, 34), (92, 92), (47, 47), (78, 0x85), (95, 0xA0), (76, 0x2028),
    (80, 0x2029)]

/-- How many hexadecimal digits follow a letter behind a backslash. -/
def escapeLength? (c : CodePoint) : Option Nat :=
  if c = 120 then some 2 else if c = 117 then some 4 else if c = 85 then some 8 else none

/-- The number of hexadecimal digits. -/
def hexValue? (digits : Text) : Option Nat :=
  digits.foldl (fun n c => n.bind fun n => c.hexDigit?.map fun d => 16 * n + d) (some 0)

/-- Skips white space and line feeds behind a line feed within quotes; counts the line feeds. A line
    that separates documents cannot stand there. -/
def skipQuotedLines (count column : Nat) : Text → Option (Nat × Nat × Text)
  | [] => some (count, column, [])
  | c :: rest =>
    if column = 0 ∧ isMarker (c :: rest) then none
    else if c = 32 ∨ c = 9 then skipQuotedLines count (column + 1) rest
    else if c = 10 then skipQuotedLines (count + 1) 0 rest
    else some (count, column, c :: rest)

/-- Reads what is left of a scalar between quotes, behind what is read of it. Each code point costs
    one unit of fuel. -/
def quotedFrom (double : Bool) : (fuel : Nat) → (read : Text) → Read Text
  | 0, _ => refuse
  | fuel + 1, read => do
    let c ← get
    let goOn (chunk : Text) (column line : Nat) (rest : Text) : Read Text := do
      set { c with rest, column, line }
      quotedFrom double fuel (read ++ chunk)
    match c.rest with
    | [] => refuse
    | 39 :: 39 :: rest =>
      if double then goOn [39] (c.column + 1) c.line (39 :: rest)
      else goOn [39] (c.column + 2) c.line rest
    | 92 :: 10 :: rest =>
      if double then
        match skipQuotedLines 0 0 rest with
        | some (extra, column, rest) =>
          goOn (List.replicate extra 10) column (c.line + extra + 1) rest
        | none => refuse
      else goOn [92] (c.column + 1) c.line (10 :: rest)
    | 92 :: letter :: rest =>
      if double then
        match escapes.lookup letter, escapeLength? letter with
        | some d, _ => goOn [d] (c.column + 2) c.line rest
        | none, some n =>
          let digits := rest.take n
          match hexValue? digits, digits.length == n with
          | some value, true =>
            if value < 0x110000 then goOn [.ofNat value] (c.column + 2 + n) c.line (rest.drop n)
            else refuse
          | _, _ => refuse
        | none, none => refuse
      else goOn [92] (c.column + 1) c.line (letter :: rest)
    | d :: rest =>
      if d = (if double then 34 else 39) then
        set { c with rest, column := c.column + 1 }
        return read
      else if d = 32 ∨ d = 9 ∨ d = 10 then
        let blank := c.rest.takeWhile fun d => d = 32 || d = 9
        match c.rest.drop blank.length with
        | 10 :: rest =>
          match skipQuotedLines 0 0 rest with
          | some (extra, column, rest) => goOn (folded extra) column (c.line + extra + 1) rest
          | none => refuse
        | rest => goOn blank (c.column + blank.length) c.line rest
      else goOn [d] (c.column + 1) c.line rest

/-- Reads a scalar between quotes. -/
def readQuoted (double : Bool) : Read Text := do
  Read.forward 1
  quotedFrom double ((← get).rest.length + 1) []

/-! ## Blocks -/

/-- What becomes of the line feeds at the end of a block. -/
inductive Chomping where
  /-- One stays. -/
  | clip
  /-- None stays. -/
  | strip
  /-- All stay. -/
  | keep
  deriving DecidableEq

/-- The header of a block: how it ends and by how many columns it is indented, if that is said. -/
def blockHeader? (t : Text) : Option (Chomping × Option Nat × Text) :=
  let chomping? (c : CodePoint) : Option Chomping :=
    if c = 43 then some .keep else if c = 45 then some .strip else none
  let indentation? (c : CodePoint) : Option Nat :=
    if 49 ≤ c.val ∧ c.val ≤ 57 then some (c.val - 48) else none
  match t with
  | a :: b :: rest =>
    match chomping? a, indentation? a, chomping? b, indentation? b with
    | some ch, _, _, some n => some (ch, some n, rest)
    | some ch, _, _, none => some (ch, none, b :: rest)
    | none, some n, some ch, _ => some (ch, some n, rest)
    | none, some n, none, _ => some (.clip, some n, b :: rest)
    | none, none, _, _ => if a = 48 then none else some (.clip, none, t)
  | [a] => match chomping? a, indentation? a with
    | some ch, _ => some (ch, none, [])
    | none, some n => some (.clip, some n, [])
    | none, none => if a = 48 then none else some (.clip, none, t)
  | [] => some (.clip, none, [])

/-- The greatest column of the spaces in front of a block, up to its first other code point. -/
def blockColumn (greatest column : Nat) : Text → Nat
  | [] => greatest
  | c :: rest =>
    if c = 32 then blockColumn (max greatest (column + 1)) (column + 1) rest
    else if c = 10 then blockColumn greatest 0 rest
    else greatest

/-- Skips the empty lines of a block, and the indentation of the line after them; counts them. -/
def skipBlockLines (indent : Nat) (count column : Nat) : Text → Nat × Nat × Text
  | [] => (count, column, [])
  | c :: rest =>
    if c = 10 then skipBlockLines indent (count + 1) 0 rest
    else if c = 32 ∧ column < indent then skipBlockLines indent count (column + 1) rest
    else (count, column, c :: rest)

/-- Reads the lines of a block behind what is read of it; `pending` are the line feeds in front of
    the next line. Stops at the end of the last line. Each line costs one unit of fuel. -/
def blockFrom (fold : Bool) (chomping : Chomping) (indent : Nat) :
    (fuel : Nat) → (read pending : Text) → Cursor → Text × Cursor
  | 0, read, _, c => (read, c)
  | fuel + 1, read, pending, c =>
    let line := c.rest.takeWhile (· ≠ 10)
    let read := read ++ pending ++ line
    let last := c.forward line.length
    match last.rest with
    | [] => (read, last)
    | _ :: rest =>
      let (extra, column, rest) := skipBlockLines indent 0 0 rest
      let next := { c with rest, column, line := c.line + extra + 1 }
      let isIndented (c : Option CodePoint) : Bool := c = some 32 || c = some 9
      if column = indent ∧ !rest.isEmpty then
        let feed : Text :=
          if fold && !isIndented line.head? && !isIndented rest.head? then
            if extra = 0 then [32] else []
          else [10]
        blockFrom fold chomping indent fuel read (feed ++ List.replicate extra 10) next
      else match chomping with
        | .strip => (read, last)
        | .clip => (read ++ [10], last)
        | .keep => (read ++ List.replicate (extra + 1) 10, last)

/-- Reads a block whose parent is indented by `parent` columns less one. -/
def readBlock (fold : Bool) (parent : Nat) : Read Text := do
  let c ← get
  match blockHeader? (c.rest.drop 1) with
  | none => refuse
  | some (chomping, stated, rest) =>
    let rest := rest.dropWhile (· = 32)
    let rest := match rest with
      | 35 :: _ => rest.dropWhile (· ≠ 10)
      | rest => rest
    match rest with
    | [] => do
      set { c with rest := [] }
      return []
    | 10 :: rest =>
      let header := { c with rest := 10 :: rest }
      let least := max parent 1
      let indent := match stated with
        | some n => least + n - 1
        | none => max least (blockColumn 0 0 rest)
      let (extra, column, rest) := skipBlockLines indent 0 0 rest
      let next := { c with rest, column, line := c.line + extra + 1 }
      let feeds := List.replicate extra 10
      if column = indent ∧ !rest.isEmpty then
        let (t, next) := blockFrom fold chomping indent (rest.length + 1) [] feeds next
        set next
        return t
      else
        set header
        return if chomping = .keep then feeds else []
    | _ => refuse

end InvokeWorker.Yaml
