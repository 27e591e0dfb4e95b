import PatchReview.Proofs.Patch.Header

/-! What the head of a hunk looks like. The reader takes exactly the lines of this form, and the
numbers that it takes from them are those that are written there. -/
namespace PatchReview

/-- Decimal digits, of any script, that write the number `n`. -/
structure IsNumeral (s : List Char) (n : Nat) : Prop where
  ne_nil : s ≠ []
  isDigit : ∀ c ∈ s, Text.isDigit c = true
  value : HunkRange.numberOf s = n

/-- A start, and perhaps a comma and a count, which is one if it is left out. -/
inductive IsSpan : List Char → Nat → Nat → Prop
  | start {s : List Char} {start : Nat} (hs : IsNumeral s start) : IsSpan s start 1
  | counted {s t : List Char} {start count : Nat} (hs : IsNumeral s start)
    (ht : IsNumeral t count) :
    IsSpan (s ++ ',' :: t) start count

/-- The head of a hunk: `@@ -start,count +start,count @@` and anything behind. -/
def IsHunkHead (line : List Char) (range : HunkRange) : Prop :=
  ∃ old new rest, IsSpan old range.oldStart range.oldCount ∧
    IsSpan new range.newStart range.newCount ∧
    line = "@@ -".toList ++ (old ++ (" +".toList ++ (new ++ (" @@".toList ++ rest))))

namespace HunkRange
variable {s rest : List Char} {start count : Nat}

theorem isNumeral_of_number? {n : Nat} (h : number? s = some (n, rest)) :
    ∃ ds, s = ds ++ rest ∧ IsNumeral ds n := by
  rw [number?] at h
  split at h
  · cases h
  · next hne =>
    obtain ⟨rfl, rfl⟩ := Prod.mk.inj (Option.some.inj h)
    refine ⟨s.takeWhile Text.isDigit, List.takeWhile_append_dropWhile.symm, hne, ?_, rfl⟩
    exact fun c hc => (List.all_eq_true.1 List.all_takeWhile) c hc

theorem number?_of_isNumeral {ds : List Char} {n : Nat} (h : IsNumeral ds n)
    (hrest : ∀ c ∈ rest.head?, Text.isDigit c = false) : number? (ds ++ rest) = some (n, rest) := by
  rw [number?_append h.ne_nil h.isDigit hrest, h.value]

theorem isSpan_of_span? (h : span? s = some (start, count, rest)) :
    ∃ written, s = written ++ rest ∧ IsSpan written start count := by
  obtain ⟨⟨n, behind⟩, hn, hbehind⟩ := Option.bind_eq_some_iff.1 h
  obtain ⟨ds, rfl, hds⟩ := isNumeral_of_number? hn
  dsimp only at hbehind
  split at hbehind
  · obtain ⟨⟨k, behind⟩, hk, hend⟩ := Option.bind_eq_some_iff.1 hbehind
    obtain ⟨es, rfl, hes⟩ := isNumeral_of_number? hk
    cases hend
    exact ⟨ds ++ ',' :: es, by simp, .counted hds hes⟩
  · cases hbehind
    exact ⟨ds, rfl, .start hds⟩

/-- What follows must not go on like a number or a count. -/
theorem span?_of_isSpan {written : List Char} (h : IsSpan written start count)
    (hrest : ∀ c ∈ rest.head?, Text.isDigit c = false ∧ c ≠ ',') :
    span? (written ++ rest) = some (start, count, rest) := by
  have hdigit : ∀ c ∈ rest.head?, Text.isDigit c = false := fun c hc => (hrest c hc).1
  cases h with
  | start hs =>
    rw [span?, number?_of_isNumeral hs hdigit]
    cases rest with
    | nil => rfl
    | cons c rest =>
      have hc : c ≠ ',' := (hrest c rfl).2
      simp [hc]
  | @counted s t _ _ hs ht =>
    have hcomma : ∀ c ∈ (',' :: (t ++ rest)).head?, Text.isDigit c = false := by
      rintro _ ⟨⟩
      decide
    rw [List.append_assoc, List.cons_append, span?, number?_of_isNumeral hs hcomma]
    simp [number?_of_isNumeral ht hdigit]

/-- A line is read as the head of a hunk exactly if it is written like one. -/
theorem ofHeader?_eq_some_iff {line : List Char} {range : HunkRange} :
    ofHeader? line = some range ↔ IsHunkHead line range := by
  constructor
  · intro h
    obtain ⟨s₁, h₁, h⟩ := Option.bind_eq_some_iff.1 h
    obtain ⟨⟨oldStart, oldCount, s₂⟩, h₂, h⟩ := Option.bind_eq_some_iff.1 h
    obtain ⟨s₃, h₃, h⟩ := Option.bind_eq_some_iff.1 h
    obtain ⟨⟨newStart, newCount, s₄⟩, h₄, h⟩ := Option.bind_eq_some_iff.1 h
    obtain ⟨rest, h₅, h⟩ := Option.bind_eq_some_iff.1 h
    cases h
    obtain ⟨old, hold, hspan⟩ := isSpan_of_span? h₂
    obtain ⟨new, hnew, hspan'⟩ := isSpan_of_span? h₄
    refine ⟨old, new, rest, hspan, hspan', ?_⟩
    rw [Text.after?_eq_some_iff.1 h₁, hold, Text.after?_eq_some_iff.1 h₃, hnew,
      Text.after?_eq_some_iff.1 h₅]
  · rintro ⟨old, new, rest, hold, hnew, rfl⟩
    have hblank : ∀ part : String, part.toList.head? = some ' ' → ∀ s : List Char,
        ∀ c ∈ (part.toList ++ s).head?, Text.isDigit c = false ∧ c ≠ ',' := by
      intro part hpart s c hc
      rw [List.head?_append, hpart] at hc
      obtain rfl : ' ' = c := by simpa using hc
      decide
    simp only [ofHeader?, Text.after?_append, span?_of_isSpan hold (hblank " +" rfl _),
      span?_of_isSpan hnew (hblank " @@" rfl _), Option.bind_eq_bind, Option.bind_some]

end HunkRange
end PatchReview
