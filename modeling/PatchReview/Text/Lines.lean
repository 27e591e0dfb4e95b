import PatchReview.Text.Basic

/-! Lines. A line ends at a line feed, a carriage return, the pair of both, a vertical tab, a form
feed, a file, group or record separator, U+0085, U+2028 or U+2029. -/
namespace PatchReview.Text

/-- A character that ends a line. -/
def isLineEnd (c : Char) : Bool :=
  ['\n', '\x0b', '\x0c', '\r', '\x1c', '\x1d', '\x1e', '\u0085', '\u2028', '\u2029'].contains c

/-- Puts `c` in front of the first line, which is a new one if there is none. -/
def prependToLine (c : Char) : List (List Char) → List (List Char)
  | [] => [[c]]
  | l :: ls => (c :: l) :: ls

/-- The lines of a text without their ends. What follows the last end is a line only if it is
not empty. -/
def lines : List Char → List (List Char)
  | [] => []
  | '\r' :: '\n' :: rest => [] :: lines rest
  | c :: rest => if isLineEnd c then [] :: lines rest else prependToLine c (lines rest)

/-- The text with every carriage return, alone or before a line feed, turned into one line feed. -/
def normalizeNewlines : List Char → List Char
  | [] => []
  | '\r' :: '\n' :: rest => '\n' :: normalizeNewlines rest
  | '\r' :: rest => '\n' :: normalizeNewlines rest
  | c :: rest => c :: normalizeNewlines rest

end PatchReview.Text
