import PatchReview.Text.Case

/-! Words matched in any letter case. Beside its capital, `i` has the dotted capital and the
dotless small form, `k` the Kelvin sign, and `s` the long small form. -/
namespace PatchReview.Text

/-- The forms of a small ASCII letter beyond ASCII. -/
def extraForms (letter : Char) : List Char :=
  if letter = 'i' then ['İ', 'ı']
  else if letter = 'k' then ['\u212a']
  else if letter = 's' then ['ſ']
  else []

/-- Whether `c` is a form of `letter`, which is a small ASCII letter or no letter at all. -/
def isFormOf (letter c : Char) : Bool :=
  c.toLower == letter || (extraForms letter).contains c

/-- The text cut behind a word in any letter case with which it starts. -/
def splitWord : List Char → List Char → Option (List Char × List Char)
  | [], s => some ([], s)
  | _ :: _, [] => none
  | letter :: word, c :: s =>
    if isFormOf letter c then (splitWord word s).map fun (matched, rest) => (c :: matched, rest)
    else none

end PatchReview.Text
