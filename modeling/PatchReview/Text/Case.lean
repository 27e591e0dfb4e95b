import PatchReview.Text.CaseTable

/-! Full letter-case mappings. Lower case maps a character to one character, save U+0130, and the
capital sigma by its place in the word. Upper case may lengthen a text. -/
namespace PatchReview.Text

/-- The first run that covers `c` tells its image; a character in no run is its own. -/
def mapByRuns (runs : List CaseRun) (c : Char) : Char :=
  match runs.find? (·.covers c) with
  | some r => r.map c
  | none => c

/-- The lower case of one character where it is one character. -/
def lowerChar (c : Char) : Char :=
  if c.toNat < 128 then c.toLower else mapByRuns lowerRuns c

def upperChar (c : Char) : List Char :=
  if c.toNat < 128 then [c.toUpper]
  else match upperExpansions.lookup c.toNat with
    | some codes => codes.map Char.ofNat
    | none => [mapByRuns upperRuns c]

/-- Characters that neither start nor end a word around a sigma. -/
def isCaseIgnorable (c : Char) : Bool :=
  inRanges caseIgnorableRanges c

/-- Letters that have a case. -/
def isCased (c : Char) : Bool :=
  inRanges casedRanges c

/-- Whether the nearest character that is not case-ignorable is a cased letter. -/
def meetsCased (s : List Char) : Bool :=
  match s.dropWhile isCaseIgnorable with
  | [] => false
  | c :: _ => isCased c

/-- The lower case of the capital sigma: the final form after a cased letter with none behind. -/
def lowerSigma (before after : List Char) : Char :=
  if meetsCased before && !meetsCased after then 'ς' else 'σ'

/-- The lower case of a text that follows `before`, which is given from its end. -/
def lowerAfter (before : List Char) : List Char → List Char
  | [] => []
  | c :: rest =>
    if c = 'Σ' then lowerSigma before rest :: lowerAfter (c :: before) rest
    else if c = 'İ' then 'i' :: '\u0307' :: lowerAfter (c :: before) rest
    else lowerChar c :: lowerAfter (c :: before) rest

def lower (s : List Char) : List Char := lowerAfter [] s

def upper (s : List Char) : List Char := s.flatMap upperChar

def lowered (s : String) : String := String.ofList (lower s.toList)

def uppered (s : String) : String := String.ofList (upper s.toList)

end PatchReview.Text
