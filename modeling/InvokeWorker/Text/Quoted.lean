import InvokeWorker.Text.Printable

/-!
# Quoted texts

A text or a byte sequence as it is shown inside a message: between quotes, with a backslash in
front of what would end or confuse the quotation. Single quotes are used unless the text holds a
single quote and no double quote. Code points that are not printable are written by number.
-/

namespace InvokeWorker

/-- The quotation mark around a text: single, unless the text holds single quotes only. -/
def Text.quoteMark (t : Text) : CodePoint :=
  if t.contains 39 && !t.contains 34 then 34 else 39

namespace CodePoint

/-- A code point by its number: two, four or eight hexadecimal digits, whichever suffices. -/
def numbered (c : CodePoint) : Text :=
  if c.val < 0x100 then ("\\x" : Text) ++ Text.hex 2 c.val
  else if c.val < 0x10000 then ("\\u" : Text) ++ Text.hex 4 c.val
  else ("\\U" : Text) ++ Text.hex 8 c.val

/-- A code point within quotes; `plain` says which code points may stand for themselves. -/
def quoted (plain : CodePoint → Bool) (mark c : CodePoint) : Text :=
  if c = mark ∨ c = 92 then [92, c]
  else if c = 9 then "\\t"
  else if c = 10 then "\\n"
  else if c = 13 then "\\r"
  else if plain c then [c]
  else numbered c

end CodePoint

/-- The text between quotes, printable code points as they are. -/
def Text.quoted (t : Text) : Text :=
  let mark := t.quoteMark
  mark :: t.flatMap (CodePoint.quoted CodePoint.isPrintable mark) ++ [mark]

/-- The text between quotes, with ASCII code points only. -/
def Text.quotedAscii (t : Text) : Text :=
  let mark := t.quoteMark
  mark :: t.flatMap (CodePoint.quoted (fun c => c.isAscii && c.isPrintable) mark) ++ [mark]

/-- The bytes between quotes behind a `b`, octets beyond ASCII by number. -/
def Bytes.quoted (b : Bytes) : Text :=
  98 :: Text.quotedAscii b.toLatin1

/-- The bytes between quotes behind a `b`, as those of a mutable sequence are shown: single quotes
    are escaped and double quotes are not, whichever are used around. -/
def Bytes.quotedMutable (b : Bytes) : Text :=
  let t := b.toLatin1
  98 :: t.quoteMark :: t.flatMap (CodePoint.quoted (fun c => c.isAscii && c.isPrintable) 39)
    ++ [t.quoteMark]

end InvokeWorker
