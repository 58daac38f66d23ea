import InvokeWorker.Text.Quoted

/-!
# Character sets of one octet

A character set that consists of the first code points has one octet for each of them. A text that
leaves the set has no encoding; the message about it shows where it first does so.
-/

namespace InvokeWorker

/-- A character set of the first `size` code points, at most 256. -/
structure Charset where
  /-- Its name. -/
  name : Text
  /-- How many code points it has. -/
  size : Nat
  deriving DecidableEq, Repr

namespace Charset

/-- The 128 code points of ASCII. -/
def ascii : Charset := ⟨"ascii", 128⟩

/-- The 256 code points of Latin 1. -/
def latin1 : Charset := ⟨"latin-1", 256⟩

/-- Whether a code point belongs to the set. -/
def holds (s : Charset) (c : CodePoint) : Bool :=
  c.val < s.size

/-- The message about code points in a row that are not in the set: one is shown, of several the
    positions. -/
def message (s : Charset) (start : Nat) (run : Text) : Text :=
  let place : Text := match run with
    | [c] => "character '" ++ c.numbered ++ "' in position " ++ Text.ofNat start
    | run => "characters in position " ++ Text.ofNat start ++ "-"
        ++ Text.ofNat (start + run.length - 1)
  "'" ++ s.name ++ "' codec can't encode " ++ place ++ ": ordinal not in range("
    ++ Text.ofNat s.size ++ ")"

/-- The octets of a text, or the message about what is not in the set. -/
def encode? (s : Charset) (t : Text) : Except Text Bytes :=
  match t.dropWhile s.holds with
  | [] => .ok (Bytes.ofAscii t)
  | rest => .error (s.message (t.takeWhile s.holds).length (rest.takeWhile (!s.holds ·)))

end Charset

end InvokeWorker
