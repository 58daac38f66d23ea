import InvokeWorker.Text.Basic

/-!
# White space

The code points that count as white space when a text is stripped: the Unicode property, the
separators `U+001C`…`U+001F` and `U+0085` included, the zero-width space and the byte-order mark
not.
-/

namespace InvokeWorker

/-- A code point with the Unicode property of white space. -/
def CodePoint.isBlank (c : CodePoint) : Bool :=
  (9 ≤ c.val && c.val ≤ 13) || (0x1C ≤ c.val && c.val ≤ 0x20) || c.val = 0x85 || c.val = 0xA0
    || c.val = 0x1680 || (0x2000 ≤ c.val && c.val ≤ 0x200A) || c.val = 0x2028 || c.val = 0x2029
    || c.val = 0x202F || c.val = 0x205F || c.val = 0x3000

namespace Text

/-- The text without its leading white space. -/
def trimLeft (t : Text) : Text :=
  t.dropWhile CodePoint.isBlank

/-- The text without its trailing white space. -/
def trimRight (t : Text) : Text :=
  (trimLeft t.reverse).reverse

/-- The text without white space at either end. -/
def trim (t : Text) : Text :=
  trimRight (trimLeft t)

end Text

end InvokeWorker
