import PatchReview.Toml.Table

/-! Blanks, line ends and comments of TOML documents. -/
namespace PatchReview.Toml

/-- What is read, and the text behind it. -/
abbrev Read (α : Type) := Except TomlError (α × List Char)

/-- Control characters that may not stand in strings and comments. -/
def isForbidden (c : Char) : Bool := (c.toNat < 32 || c.toNat = 127) && c != '\t'

def isGap (c : Char) : Bool := c == ' ' || c == '\t'

def isLayout (c : Char) : Bool := isGap c || c == '\n'

def skipGaps (s : List Char) : List Char := s.dropWhile isGap

/-- The text behind a comment, if it starts with one: the rest of the document from the line end
on. -/
def skipComment (s : List Char) : Except TomlError (List Char) :=
  match s with
  | '#' :: rest =>
    if (rest.takeWhile (· != '\n')).any isForbidden then .error .malformed
    else .ok (rest.dropWhile (· != '\n'))
  | s => .ok s

/-- The text behind blanks, line ends and comments. `inComment` tells whether the text starts in
a comment. -/
def skipLayout (inComment : Bool) : List Char → Except TomlError (List Char)
  | [] => .ok []
  | c :: rest =>
    if inComment then
      if c = '\n' then skipLayout false rest
      else if isForbidden c then .error .malformed
      else skipLayout true rest
    else if isLayout c then skipLayout false rest
    else if c = '#' then skipLayout true rest
    else .ok (c :: rest)

end PatchReview.Toml
