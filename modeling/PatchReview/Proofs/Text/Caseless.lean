import Mathlib.Data.List.Forall2
import PatchReview.Proofs.Text.Letters
import PatchReview.Text.Caseless

/-! Words matched in any letter case. What is matched tells the word. It need not be the word in
lower case: a few letters beyond ASCII are taken for letters of the word and have another lower case,
or none. -/
namespace PatchReview

namespace Text

/-- `c` is a form of a letter of a word that is matched in any letter case. -/
def IsForm (letter c : Char) : Prop := c.toLower = letter ∨ c ∈ extraForms letter

/-- The text is the word in any letter case. -/
def Spells (s : List Char) (word : String) : Prop := List.Forall₂ IsForm word.toList s

theorem isFormOf_iff {letter c : Char} : isFormOf letter c = true ↔ IsForm letter c := by
  rw [isFormOf, Bool.or_eq_true, beq_iff_eq, List.contains_iff_mem, IsForm]

/-- Capitals of ASCII letters may stand for them. -/
theorem spells_of_map_toLower {s : List Char} {word : String}
    (h : s.map Char.toLower = word.toList) : Spells s word := by
  rw [Spells, ← h, List.forall₂_map_left_iff]
  exact List.forall₂_same.2 fun c _ => .inl rfl

theorem splitWord_eq_some {word s matched rest : List Char} :
    splitWord word s = some (matched, rest) ↔
      List.Forall₂ IsForm word matched ∧ s = matched ++ rest := by
  induction word generalizing s matched with
  | nil =>
      rw [splitWord, Option.some.injEq, Prod.mk.injEq, List.forall₂_nil_left_iff]
      constructor
      · rintro ⟨rfl, rfl⟩
        exact ⟨rfl, rfl⟩
      · rintro ⟨rfl, rfl⟩
        exact ⟨rfl, rfl⟩
  | cons letter word ih =>
      rw [List.forall₂_cons_left_iff]
      constructor
      · intro h
        cases s with
        | nil => cases h
        | cons c s =>
            rw [splitWord] at h
            split at h
            · next hc =>
              obtain ⟨⟨m, r⟩, hsplit, heq⟩ := Option.map_eq_some_iff.1 h
              obtain ⟨rfl, rfl⟩ := Prod.mk.inj heq
              obtain ⟨hm, rfl⟩ := ih.1 hsplit
              exact ⟨⟨c, m, isFormOf_iff.1 hc, hm, rfl⟩, rfl⟩
            · cases h
      · rintro ⟨⟨c, m, hc, hm, rfl⟩, rfl⟩
        rw [List.cons_append, splitWord, if_pos (isFormOf_iff.2 hc), ih.2 ⟨hm, rfl⟩]
        rfl

/-- The small letter that a letter may stand for. -/
def letterOf (c : Char) : Char :=
  if c ∈ ['İ', 'ı'] then 'i' else if c = '\u212a' then 'k' else if c = 'ſ' then 's' else c.toLower

theorem lt_128_of_toLower {c : Char} (h : c.toLower.toNat < 128) : c.toNat < 128 := by
  by_cases hcapital : c.toNat ∈ List.range' 0x41 26
  · have hlast := (List.mem_range'_1.1 hcapital).2
    omega
  · rwa [toLower_eq_self hcapital] at h

theorem letterOf_of_isForm {letter c : Char} (hletter : letter.toNat < 128)
    (h : IsForm letter c) : letterOf c = letter := by
  rcases h with rfl | hextra
  · have hc := lt_128_of_toLower hletter
    have hlarge : ∀ d ∈ ['İ', 'ı', '\u212a', 'ſ'], 128 ≤ d.toNat :=
      forall_mem_of_all (by decide)
    have hne : ∀ d ∈ ['İ', 'ı', '\u212a', 'ſ'], c ≠ d := by
      rintro d hd rfl
      exact absurd (hlarge c hd) (by omega)
    rw [letterOf, if_neg (by simpa using ⟨hne 'İ' (by decide), hne 'ı' (by decide)⟩),
      if_neg (hne _ (by decide)), if_neg (hne _ (by decide))]
  · rw [extraForms] at hextra
    split_ifs at hextra with hi hk hs
    · rw [letterOf, if_pos hextra, hi]
    · rw [List.mem_singleton.1 hextra, hk]
      decide
    · rw [List.mem_singleton.1 hextra, hs]
      decide
    · cases hextra

/-- A text in any letter case tells the word. -/
theorem map_letterOf_of_spells {s : List Char} {word : String}
    (hword : ∀ c ∈ word.toList, c.toNat < 128) (h : Spells s word) : s.map letterOf = word.toList := by
  rw [Spells] at h
  generalize word.toList = letters at hword h ⊢
  induction h with
  | nil => rfl
  | cons hform _ ih =>
    obtain ⟨hletter, hword⟩ := List.forall_mem_cons.1 hword
    rw [List.map_cons, letterOf_of_isForm hletter hform, ih hword]

end Text
end PatchReview
