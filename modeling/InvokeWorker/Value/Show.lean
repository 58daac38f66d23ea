import InvokeWorker.Interpreter
import InvokeWorker.Number.Shortest
import InvokeWorker.Text.Quoted
import InvokeWorker.Value.Parts

/-!
# The texts of values and errors

A value has two texts. Its *literal* is how it is written inside a container or a message that
quotes it; its *display* is how it is written on its own. The two differ for texts, errors, dates
and objects that bring a text of their own. An error's display is what its message says: of one
argument the display, of several the literal of them all, and for the errors of missing keys and
of the operating system a form of their own. So have the errors of malformed source, which name its
place, those of encoding and decoding, which show what stands in the way, and groups of errors.

Both can fail: an integer may have too many digits, a container may be nested too deeply, and the
text an object brings along may be no text or raise an error itself.
-/

namespace InvokeWorker

variable [Interpreter]

/-- How deeply containers may be nested to be shown or encoded. -/
def nestingLimit : Nat := Interpreter.shown

theorem le_nestingLimit {n : Nat} (few : n ≤ 500) : n ≤ nestingLimit :=
  Nat.le_trans few Interpreter.le_shown

/-- An integer's digits exceed the limit of what is written. -/
def Thrown.tooManyDigits : Thrown :=
  .valueError ("Exceeds the limit (4300 digits) for integer string conversion; "
    ++ "use sys.set_int_max_str_digits() to increase the limit")

/-- A container's nesting exceeds the limit of what is shown. -/
def Thrown.tooDeepToShow : Thrown :=
  .recursionError "maximum recursion depth exceeded while getting the repr of an object"

namespace Value

/-- The name of a value's type. -/
def typeName : Value → Text
  | null => "NoneType"
  | bool _ => "bool"
  | int _ => "int"
  | float _ => "float"
  | text _ => "str"
  | bytes _ => "bytes"
  | byteArray _ => "bytearray"
  | memoryView _ => "memoryview"
  | releasedView => "memoryview"
  | list _ => "list"
  | tuple _ => "tuple"
  | set _ => "set"
  | frozenSet _ => "frozenset"
  | mapping _ => "dict"
  | instant _ => "datetime"
  | stream (.octets _) => "BytesIO"
  | stream (.text _) => "StringIO"
  | generator _ => "generator"
  | typed _ _ => "TypedPayload"
  | bare => "object"
  | selfList => "list"
  | selfMapping => "dict"
  | error e => e.errorClass.name
  | custom o => o.name

/-- The name of a value's type with the module it is at home in. -/
def qualifiedTypeName : Value → Text
  | instant _ => "datetime.datetime"
  | stream content => ("_io." : Text) ++ (stream content).typeName
  | typed _ _ => "services.runtime.core.negotiator.TypedPayload"
  | error e => e.errorClass.qualifiedName
  | custom o => ("app." : Text) ++ o.name
  | v => v.typeName

/-- The name of a value's type where a message names what a value cannot do. -/
def plainTypeName : Value → Text
  | instant _ => "datetime.datetime"
  | stream content => ("_io." : Text) ++ (stream content).typeName
  | v => v.typeName

/-- A value's type as messages show it. -/
def typeShown (v : Value) : Text :=
  "<class '" ++ v.qualifiedTypeName ++ "'>"

/-- The text of an object that shows nothing but its type. -/
def anonymous (v : Value) : Text :=
  "<" ++ v.qualifiedTypeName ++ " object>"

/-- The literal of a date and time. -/
def instantLiteral (t : Instant) : Text :=
  let date := t.date
  let (hour, minute, second, ms) := t.clock
  let seconds : List Nat :=
    if ms ≠ 0 then [second, ms * 1000] else if second ≠ 0 then [second] else []
  let numbers := [date.year.toNat, date.month, date.day, hour, minute] ++ seconds
  "datetime.datetime(" ++ Text.join ", " (numbers.map Text.ofNat)
    ++ ", tzinfo=datetime.timezone.utc)"

/-- Integers as literals: the digits, unless there are too many. -/
def intLiteral (n : Int) : Except Thrown Text :=
  match Text.ofBoundedInt? n with
  | some t => .ok t
  | none => .error .tooManyDigits

/-- Numbers as literals: the shortest digits that are read back. -/
def floatLiteral (d : Double) : Text :=
  d.toText .signedExponent "nan" "inf"

/-- Items between brackets. -/
def bracketed (before after : Text) (items : List Text) : Text :=
  before ++ Text.join ", " items ++ after

/-- Items between parentheses; a single one is followed by a comma. -/
def parenthesized : List Text → Text
  | [item] => 40 :: item ++ (",)" : Text)
  | items => bracketed "(" ")" items

end Value

namespace Thrown

/-- Whether a third argument of an operating-system error counts what has been written, instead of
    being the name of a file. -/
def countsWritten (c : ErrorClass) (v : Value) : Bool :=
  c.name = "BlockingIOError" && c.home.isNone && (v.typeName = "int" || v.typeName = "bool")

/-- How many arguments an error keeps: an operating-system error that is about files keeps its
    number and text only. -/
def keptArgs (c : ErrorClass) (args : List Value) : Nat :=
  match args with
  | [_, _, file] => if isAbout file then 2 else 3
  | [_, _, file, _] => if isAbout file then 2 else 4
  | [_, _, file, _, _] => if isAbout file then 2 else 5
  | args => args.length
where
  /-- Whether the error is about a file. -/
  isAbout (file : Value) : Bool :=
    c.isIn .os && file.typeName != "NoneType" && !countsWritten c file

end Thrown

mutual

/-- The literal of a value. -/
def Value.literal (depth : Nat) : Value → Except Thrown Text
  | .null => .ok "None"
  | .bool b => .ok (if b then ("True" : Text) else "False")
  | .int n => Value.intLiteral n
  | .float d => .ok (Value.floatLiteral d)
  | .text t => .ok t.quoted
  | .bytes b => .ok b.quoted
  | .byteArray b => .ok (("bytearray(" : Text) ++ b.quotedMutable ++ (")" : Text))
  | .memoryView _ => .ok "<memory>"
  | .releasedView => .ok "<released memory>"
  | .list items => match depth with
    | 0 => .error .tooDeepToShow
    | depth + 1 => (Value.literals depth items).map (Value.bracketed "[" "]")
  | .tuple items => match depth with
    | 0 => .error .tooDeepToShow
    | depth + 1 => (Value.literals depth items).map Value.parenthesized
  | .set items => match depth with
    | 0 => .error .tooDeepToShow
    | depth + 1 => (Value.literals depth items).map fun shown =>
      if shown.isEmpty then ("set()" : Text) else Value.bracketed "\x7b" "\x7d" shown
  | .frozenSet items => match depth with
    | 0 => .error .tooDeepToShow
    | depth + 1 => (Value.literals depth items).map fun shown =>
      if shown.isEmpty then ("frozenset()" : Text)
      else Value.bracketed "frozenset(\x7b" "\x7d)" shown
  | .mapping entries => match depth with
    | 0 => .error .tooDeepToShow
    | depth + 1 => (Value.entryLiterals depth entries).map (Value.bracketed "\x7b" "\x7d")
  | .instant t => .ok (Value.instantLiteral t)
  | .typed body mediaType => match body.literal depth with
    | .error e => .error e
    | .ok body => (mediaType.literal depth).map fun shown =>
      ("TypedPayload(body=" : Text) ++ body ++ (", media_type=" : Text) ++ shown ++ (")" : Text)
  | .selfList => .ok "[[...]]"
  | .selfMapping => .ok "\x7b'self': \x7b...\x7d\x7d"
  | .error e => e.literal depth
  | .custom o => o.literal depth
  | .stream content => .ok (Value.stream content).anonymous
  | .generator p => .ok (Value.generator p).anonymous
  | .bare => .ok Value.bare.anonymous
termination_by structural v => v

/-- The literals of the values of a list. -/
def Value.literals (depth : Nat) : List Value → Except Thrown (List Text)
  | [] => .ok []
  | v :: rest => match v.literal depth with
    | .error e => .error e
    | .ok shown => (Value.literals depth rest).map (shown :: ·)
termination_by structural vs => vs

/-- The literals of the entries of a mapping: key, colon, value. -/
def Value.entryLiterals (depth : Nat) : List (Value × Value) → Except Thrown (List Text)
  | [] => .ok []
  | (k, v) :: rest => match k.literal depth with
    | .error e => .error e
    | .ok key => match v.literal depth with
      | .error e => .error e
      | .ok shown => (Value.entryLiterals depth rest).map ((key ++ (": " : Text) ++ shown) :: ·)
termination_by structural vs => vs

/-- The literal of an error: its class and the arguments it keeps. -/
def Thrown.literal (depth : Nat) : Thrown → Except Thrown Text
  | ⟨c, args, _⟩ => match depth with
    | 0 => .error .tooDeepToShow
    | depth + 1 => (Value.literals depth args).map fun shown =>
      Value.bracketed (c.name ++ ("(" : Text)) ")" (shown.take (Thrown.keptArgs c args))
termination_by structural e => e

/-- The literal of an object: that of what it is derived from. -/
def Custom.literal (depth : Nat) : Custom → Except Thrown Text
  | ⟨name, core, _⟩ => match core with
    | .bare => .ok ("<app." ++ name ++ " object>")
    | .stream _ => .ok ("<app." ++ name ++ " object>")
    | core => core.literal depth
termination_by structural o => o

end

/-- The display of an object: its own text, or that of what it is derived from. -/
def Custom.display (o : Custom) : Except Thrown Text :=
  match o.own.shown, o.core with
  | some t, _ => .ok t
  | none, .text t => .ok t
  | none, _ => o.literal nestingLimit

/-- The files an operating-system error is about: its third argument and its fifth. -/
def Thrown.files (c : ErrorClass) : List Value → List Value
  | [] => []
  | .null :: _ => []
  | file :: rest =>
    if Thrown.countsWritten c file then []
    else match rest with
      | _ :: .null :: _ => [file]
      | _ :: second :: _ => [file, second]
      | _ => [file]

/-- The message of an operating-system error: its number and text, and the files it is about. -/
def Thrown.osMessage (number message : Text) (files : List Text) : Text :=
  "[Errno " ++ number ++ "] " ++ message ++
    (if files.isEmpty then ([] : Text) else (": " : Text) ++ Text.join " -> " files)

/-! ## Errors with a wording of their own -/

namespace Thrown

/-- A file without the directories it is in. -/
def fileName (path : Text) : Text :=
  match Text.cutLast? 47 path with
  | some (_, name) => name
  | none => path

/-- A line by its number, which counts for nothing if it is too large. -/
def lineNumber (n : Int) : Text :=
  "line " ++ Text.ofInt (if -(2 ^ 63) ≤ n ∧ n < 2 ^ 63 then n else -1)

/-- Where malformed source stands, as far as the error says so: its file and its line, which are
    the first two parts of a second argument. -/
def sourcePlace (args : List Value) : Text :=
  match args with
  | [_, details] =>
    let file := (details.items[0]?.bind Value.text?).map fileName
    let line := match details.items[1]? with
      | some (.int n) => some (lineNumber n)
      | _ => none
    match file.toList ++ line.toList with
    | [] => []
    | places => (" (" : Text) ++ Text.join ", " places ++ (")" : Text)
  | _ => []

/-- How many errors a group holds, which are its second argument. -/
def groupSize (args : List Value) : Text :=
  let count := match args with
    | [_, errors] => errors.items.length
    | _ => 0
  " (" ++ Text.ofNat count ++ " sub-exception" ++ (if 1 < count then ("s)" : Text) else ")")

/-- Positions in a row. -/
def positions (noun : Text) (start stop : Int) : Text :=
  noun ++ "s in position " ++ Text.ofInt start ++ "-" ++ Text.ofInt (stop - 1)

/-- A single position and what is found there. -/
def position (noun found : Text) (start : Int) : Text :=
  noun ++ " " ++ found ++ " in position " ++ Text.ofInt start

/-- The part of a text that an error is about, by its position. A position in front of the text
    makes the error fail to be shown. -/
def textPart (outside : Thrown) (t : Text) (start stop : Int) : Except Thrown Text :=
  if start < t.length ∧ stop = start + 1 then
    if start < 0 then .error outside
    else .ok (position "character"
      ("'" ++ ((t[start.toNat]?.map CodePoint.numbered).getD []) ++ "'") start)
  else .ok (positions "character" start stop)

/-- The part of bytes that an error is about, by its position. -/
def bytesPart (b : Bytes) (start stop : Int) : Text :=
  match b[start.toNat]? with
  | some o =>
    if 0 ≤ start ∧ stop = start + 1 then position "byte" ("0x" ++ Text.hex 2 o.toNat) start
    else positions "byte" start stop
  | none => positions "byte" start stop

/-- What an error of encoding, decoding or translation is about. -/
def codedPart (c : ErrorClass) (subject start stop : Value) : Option (Except Thrown Text) :=
  match start.index?, stop.index? with
  | some start, some stop =>
    if c.isIn .encoding then
      let outside := builtin "SystemError" "<class 'str'> returned a result with an exception set"
      subject.text?.map (textPart outside · start stop)
    else if c.isIn .translation then
      subject.text?.map (textPart (builtin "IndexError" "string index out of range") · start stop)
    else subject.octets?.map fun b => .ok (bytesPart b start stop)
  | _, _ => none

end Thrown

mutual

/-- The display of a value. -/
def Value.display : Value → Except Thrown Text
  | .text t => .ok t
  | .instant t => .ok (t.isoWith 32)
  | .error e => e.display
  | .custom o => o.display
  | v => v.literal nestingLimit
termination_by structural v => v

/-- The display of a single argument of an error; a missing key is shown as a literal. -/
def Value.displayOnly (asLiteral : Bool) : List Value → Except Thrown Text
  | [v] => if asLiteral then v.literal nestingLimit else v.display
  | vs => (Value.literals nestingLimit vs).map Value.parenthesized
termination_by structural vs => vs

/-- The display of the first argument of an error; that of no value if there is none. -/
def Value.displayFirst : List Value → Except Thrown Text
  | v :: _ => v.display
  | [] => .ok "None"
termination_by structural vs => vs

/-- The display of the number and the text of an operating-system error, with its files. -/
def Value.displayNumbered (c : ErrorClass) : List Value → Except Thrown Text
  | number :: vs => match number.display with
    | .error e => .error e
    | .ok number => Value.displayMessage c number vs
  | [] => .ok []
termination_by structural vs => vs

/-- The display of the text of an operating-system error behind its number. -/
def Value.displayMessage (c : ErrorClass) (number : Text) : List Value → Except Thrown Text
  | message :: files => match message.display with
    | .error e => .error e
    | .ok message =>
      (Value.literals nestingLimit (Thrown.files c files)).map (Thrown.osMessage number message)
  | [] => .ok number
termination_by structural vs => vs

/-- The display of an error of encoding, decoding or translation: what it is about and the reason,
    and in front of that the encoding. An error that was not made of these is shown as any other. -/
def Value.displayCoded (c : ErrorClass) : List Value → Except Thrown Text
  | [encoding, subject, start, stop, reason] =>
    match Thrown.codedPart c subject start stop with
    | none => (Value.literals nestingLimit [encoding, subject, start, stop, reason]).map
        Value.parenthesized
    | some part => match reason.display with
      | .error e => .error e
      | .ok reason => match encoding.display with
        | .error e => .error e
        | .ok encoding => part.map fun part =>
          let verb : Text := if c.isIn .encoding then "encode " else "decode "
          ("'" : Text) ++ encoding ++ "' codec can't " ++ verb ++ part ++ ": " ++ reason
  | [subject, start, stop, reason] =>
    match Thrown.codedPart c subject start stop with
    | none => (Value.literals nestingLimit [subject, start, stop, reason]).map Value.parenthesized
    | some part => match reason.display with
      | .error e => .error e
      | .ok reason => part.map fun part => ("can't translate " : Text) ++ part ++ ": " ++ reason
  | [v] => v.display
  | vs => (Value.literals nestingLimit vs).map Value.parenthesized
termination_by structural vs => vs

/-- The display of an error: its message. -/
def Thrown.display : Thrown → Except Thrown Text
  | ⟨c, args, detail⟩ => match detail with
    | .hooks ⟨_, _, some (.gives (.text t)), _⟩ => .ok t
    | .hooks ⟨_, _, some (.gives (.custom ⟨_, .text t, _⟩)), _⟩ => .ok t
    | .hooks ⟨_, _, some (.gives v), _⟩ =>
      .error (.typeError ("__str__ returned non-string (type " ++ v.plainTypeName ++ ")"))
    | .hooks ⟨_, _, some (.raises e), _⟩ => .error e
    | _ =>
      if c.isIn .source then (Value.displayFirst args).map (· ++ Thrown.sourcePlace args)
      else if args.isEmpty then .ok []
      else if c.isIn .group then (Value.displayFirst args).map (· ++ Thrown.groupSize args)
      else if c.isCoding then Value.displayCoded c args
      else if c.isIn .os ∧ 2 ≤ args.length ∧ args.length ≤ 5 then Value.displayNumbered c args
      else Value.displayOnly (c.isIn .key) args
termination_by structural e => e

end

mutual

/-- The text of a derived class that is the display of a value, if it is one. -/
def Value.shownAs? : Value → Option Value
  | .error e => e.shownAs?
  | _ => none
termination_by structural v => v

/-- The text of a derived class that is the display of the first argument of an error. -/
def Value.firstShownAs? : List Value → Option Value
  | v :: _ => v.shownAs?
  | [] => none
termination_by structural vs => vs

/-- The text of a derived class that is the display of an error: the one that its own method returns
    is handed on by the errors it is the only argument of. -/
def Thrown.shownAs? : Thrown → Option Value
  | ⟨c, args, detail⟩ => match detail with
    | .hooks ⟨_, _, some (.gives (.custom ⟨name, .text t, own⟩)), _⟩ =>
      some (.custom ⟨name, .text t, own⟩)
    | .hooks ⟨_, _, some _, _⟩ => none
    | _ =>
      if c.isIn .source then
        if (Thrown.sourcePlace args).isEmpty then Value.firstShownAs? args else none
      else if args.length = 1 && !c.isIn .key && !c.isIn .group then Value.firstShownAs? args
      else none
termination_by structural e => e

end

namespace Thrown

/-- An error's message, or a remark that it cannot be shown because an ordinary error is raised in
    its place. An error that asks the process to stop is passed on. -/
def describe (e : Thrown) : Except Thrown Value :=
  match e.display with
  | .ok shown => .ok (e.shownAs?.getD (.text shown))
  | .error raised =>
    if raised.isOrdinary then .ok (.text ("<unprintable " ++ e.errorClass.name ++ " object>"))
    else .error raised

/-- An error of a class made from arguments. An operating-system error with an error number takes
    the class that the number selects. -/
def ofClass (c : ErrorClass) (args : List Value) : Thrown :=
  match args with
  | number :: _ :: rest =>
    if c.name = "OSError" ∧ c.home = none ∧ rest.length ≤ 3 then
      ⟨(number.index?.bind ErrorClass.ofErrorNumber?).getD c, args, .plain⟩
    else ⟨c, args, .plain⟩
  | _ => ⟨c, args, .plain⟩

/-- The status a request to exit asks for, if the error is one. -/
def exitCode? (e : Thrown) : Option Value :=
  if e.isIn .exit then
    match e.args with
    | [] => some .null
    | [code] => some code
    | codes => some (.tuple codes)
  else none

/-- The status code an error carries. To look it up may raise an error itself. -/
def statusCode (e : Thrown) : Except Thrown Value :=
  match e.detail with
  | .status code => .ok code
  | .hooks h => match h.statusCode with
    | some (.gives code) => .ok code
    | some (.raises raised) => if raised.isIn .attribute then .ok .null else .error raised
    | none => .ok .null
  | _ => .ok .null

end Thrown

end InvokeWorker
