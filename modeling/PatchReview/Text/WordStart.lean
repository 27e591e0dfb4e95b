import PatchReview.Text.Basic
import PatchReview.Text.Word

/-! Searching at the starts of words. -/
namespace PatchReview.Text

/-- Whether `holds` is true of the text that is left at some place with no word character before
it. `inWord` tells whether one stands before the text. -/
def atWordStart (holds : List Char → Bool) (inWord : Bool) : List Char → Bool
  | [] => !inWord && holds []
  | c :: rest => (!inWord && holds (c :: rest)) || atWordStart holds (isWord c) rest

end PatchReview.Text
