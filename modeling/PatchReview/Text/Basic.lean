/-! Searching, splitting and replacing in texts, which are lists of characters here. -/
namespace PatchReview.Text

def isQuote (c : Char) : Bool := c == '\'' || c == '"'

/-- Whether `holds` is true of the text that is left at some place, the end included. -/
def somewhere (holds : List Char → Bool) : List Char → Bool
  | [] => holds []
  | c :: rest => holds (c :: rest) || somewhere holds rest

theorem somewhere_iff {holds : List Char → Bool} {s : List Char} :
    somewhere holds s = true ↔ ∃ u v, s = u ++ v ∧ holds v = true := by
  induction s with
  | nil =>
    constructor
    · exact fun h => ⟨[], [], rfl, h⟩
    · rintro ⟨u, v, huv, h⟩
      obtain ⟨-, rfl⟩ := List.append_eq_nil_iff.1 huv.symm
      exact h
  | cons c rest ih =>
    simp only [somewhere, Bool.or_eq_true, ih]
    constructor
    · rintro (h | ⟨u, v, rfl, h⟩)
      · exact ⟨[], _, rfl, h⟩
      · exact ⟨c :: u, v, rfl, h⟩
    · rintro ⟨u, v, huv, h⟩
      cases u with
      | nil => exact .inl (huv ▸ h)
      | cons d u =>
        simp only [List.cons_append, List.cons.injEq] at huv
        exact .inr ⟨u, v, huv.2, h⟩

/-- Whether `part` stands somewhere in the text. -/
def occurs (part s : List Char) : Bool := somewhere part.isPrefixOf s

theorem occurs_iff {part s : List Char} : occurs part s = true ↔ part <:+: s := by
  simp only [occurs, somewhere_iff, List.isPrefixOf_iff_prefix]
  constructor
  · rintro ⟨u, v, rfl, w, rfl⟩
    exact ⟨u, w, by simp⟩
  · rintro ⟨u, w, rfl⟩
    exact ⟨u, part ++ w, by simp, ⟨w, rfl⟩⟩

/-- The text cut at every `sep`: always one piece more than there are separators. -/
def splitAt (sep : Char) : List Char → List (List Char)
  | [] => [[]]
  | c :: rest =>
    if c = sep then [] :: splitAt sep rest
    else match splitAt sep rest with
      | [] => [[c]]
      | piece :: pieces => (c :: piece) :: pieces

/-- Joins `pieces` with `sep` between neighbours. -/
def join (sep : String) : List String → String
  | [] => ""
  | [s] => s
  | s :: t :: rest => s ++ sep ++ join sep (t :: rest)

/-- The text with one character put for another. -/
def replace (old new : Char) (s : List Char) : List Char :=
  s.map fun c => if c = old then new else c

/-- The text behind `part`, if it starts with it. -/
def after? (part : String) (s : List Char) : Option (List Char) :=
  if part.toList.isPrefixOf s then some (s.drop part.toList.length) else none

/-- Whether the text starts with one of `parts`. -/
def startsWithAny (parts : List String) (s : List Char) : Bool :=
  parts.any fun p => p.toList.isPrefixOf s

/-- Whether one of `parts` stands somewhere in the text. -/
def occursAny (parts : List String) (s : List Char) : Bool :=
  parts.any fun p => occurs p.toList s

theorem occursAny_iff {parts : List String} {s : List Char} :
    occursAny parts s = true ↔ ∃ part ∈ parts, part.toList <:+: s := by
  rw [occursAny, List.any_eq_true]
  simp only [occurs_iff]

/-- The texts in ascending order of their characters, each once. -/
def sortedDistinct (texts : List String) : List String := (texts.mergeSort (· ≤ ·)).eraseReps

end PatchReview.Text
