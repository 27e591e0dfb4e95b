import PatchReview.Text.Basic

/-! Colours of terminals, and their removal. -/
namespace PatchReview

inductive TextStyle where
  | bold
  | red
  | yellow
  | blue

namespace TextStyle

/-- The number of the style in control sequences. -/
def code : TextStyle → String
  | bold => "1"
  | red => "31"
  | yellow => "33"
  | blue => "34"

def sequence (code : String) : String := "\x1b[" ++ code ++ "m"

/-- The text between control sequences that switch styles on and all styles off. -/
def apply (styles : List TextStyle) (s : String) : String :=
  Text.join "" (styles.map fun t => sequence t.code) ++ s ++ sequence "0"

/-- A character between the start and the letter of a control sequence. -/
def isParameter (c : Char) : Bool := c == ';' || c == '?' || c.isDigit

/-- What follows the control sequence with which a text starts. -/
def afterSequence? : List Char → Option (List Char)
  | '\x1b' :: '[' :: rest =>
    match rest.dropWhile isParameter with
    | c :: behind => if c.isAlpha then some behind else none
    | [] => none
  | _ => none

theorem length_afterSequence? {s t : List Char} (h : afterSequence? s = some t) :
    t.length < s.length := by
  unfold afterSequence? at h
  split at h
  · next rest =>
    have hle := (List.dropWhile_sublist (l := rest) isParameter).length_le
    split at h
    · next hs => rw [hs] at hle; grind
    · simp at h
  · simp at h

def strip (s : List Char) : List Char :=
  match _h : afterSequence? s with
  | some rest => strip rest
  | none =>
    match s with
    | [] => []
    | c :: rest => c :: strip rest
termination_by s.length
decreasing_by
  · exact length_afterSequence? _h
  · simp

end TextStyle
end PatchReview
