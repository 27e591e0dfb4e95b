import PatchReview.Proofs.Text.Letters

/-! Words in a text with margins, which are blanks and boxes to be ticked. No word begins or ends with
a character of a margin, so one that is found in the whole is found in the text. Lower case does not
change this: it goes letter by letter but for the form of the sigma, and no word has one. -/
namespace PatchReview.Text

section Parts
variable {α : Type} {word front s back : List α}

theorem infix_append_left_iff (h : ∀ c ∈ word.head?, c ∉ front) :
    word <:+: front ++ s ↔ word <:+: s := by
  constructor
  · intro hword
    induction front with
    | nil => exact hword
    | cons d front ih =>
      rcases List.infix_cons_iff.1 hword with hprefix | hword
      · rcases List.prefix_cons_iff.1 hprefix with rfl | ⟨rest, rfl, -⟩
        · exact List.nil_infix
        · exact absurd List.mem_cons_self (h d rfl)
      · exact ih (fun c hc hmem => h c hc (List.mem_cons_of_mem d hmem)) hword
  · exact fun hword => hword.trans (List.suffix_append front s).isInfix

theorem infix_append_right_iff (h : ∀ c ∈ word.getLast?, c ∉ back) :
    word <:+: s ++ back ↔ word <:+: s := by
  have hreverse : ∀ c ∈ word.reverse.head?, c ∉ back.reverse := by
    simpa only [List.head?_reverse, List.mem_reverse] using h
  rw [← List.reverse_infix, List.reverse_append, infix_append_left_iff hreverse, List.reverse_infix]

end Parts

theorem infix_lower_iff {word s : List Char} (h : ∀ c ∈ word, c ≠ 'σ' ∧ c ≠ 'ς') :
    word <:+: lower s ↔ word <:+: s.flatMap plainLower := by
  rw [← map_plainSigma_lower]
  constructor
  · intro hword
    have hmap := hword.map plainSigma
    rwa [(eq_iff_of_map_plainSigma h).2 rfl] at hmap
  · intro hword
    obtain ⟨part, hpart, hmap⟩ := List.infix_map_iff.1 hword
    rwa [(eq_iff_of_map_plainSigma h).1 hmap.symm] at hpart

theorem blankCodes_disjoint : bitsOfAll blankCodes &&& bitsOfAll capitalCodes = 0 := by
  decide +kernel

theorem isSmall_of_isBlank {c : Char} (h : isBlank c = true) : IsSmall c :=
  isSmall_of_not_mem (not_mem_of_bits blankCodes_disjoint (mem_blankCodes h))

/-- The characters of margins. -/
def IsMargin (c : Char) : Prop := isBlank c = true ∨ c ∈ ['[', ']', 'x', 'X']

instance IsMargin.decidable (c : Char) : Decidable (IsMargin c) :=
  inferInstanceAs (Decidable (_ ∨ _))

theorem isMargin_of_mem_plainLower {c d : Char} (hc : IsMargin c) (hd : d ∈ plainLower c) :
    IsMargin d := by
  rcases hc with hblank | hbox
  · have hsmall := isSmall_of_isBlank hblank
    have hne : c ≠ 'ς' := by
      rintro rfl
      revert hblank
      decide
    rw [plainLower, if_neg hsmall.ne_sigma, if_neg hsmall.ne_dotted, hsmall.lowerChar_eq,
      plainSigma, if_neg hne, List.mem_singleton] at hd
    exact .inl (hd ▸ hblank)
  · have hlower : ∀ c ∈ ['[', ']', 'x', 'X'], plainLower c ⊆ ['[', ']', 'x', 'X'] :=
      forall_mem_of_all (by decide)
    exact .inr (hlower c hbox hd)

/-- A word that keeps off margins, and looks at none of its neighbours in lower case. -/
structure IsWord (word : List Char) : Prop where
  head : ∀ c ∈ word.head?, ¬ IsMargin c
  last : ∀ c ∈ word.getLast?, ¬ IsMargin c
  plain : ∀ c ∈ word, c ≠ 'σ' ∧ c ≠ 'ς'

theorem isWord_iff {word : List Char} : IsWord word ↔ (word.head?.all (¬ IsMargin ·)) = true ∧
    (word.getLast?.all (¬ IsMargin ·)) = true ∧
    (word.all fun c => c ≠ 'σ' ∧ c ≠ 'ς') = true := by
  simp only [Option.all_eq_true, List.all_eq_true, decide_eq_true_iff]
  exact ⟨fun h => ⟨h.head, h.last, h.plain⟩, fun ⟨hhead, hlast, hplain⟩ => ⟨hhead, hlast, hplain⟩⟩

instance IsWord.decidable (word : List Char) : Decidable (IsWord word) :=
  decidable_of_iff' _ isWord_iff

theorem IsWord.infix_lower_iff {word front s back : List Char} (hword : IsWord word)
    (hfront : ∀ c ∈ front, IsMargin c) (hback : ∀ c ∈ back, IsMargin c) :
    word <:+: lower (front ++ s ++ back) ↔ word <:+: lower s := by
  have hmargin : ∀ {margin : List Char}, (∀ c ∈ margin, IsMargin c) →
      ∀ d ∈ margin.flatMap plainLower, IsMargin d := by
    intro margin hmargin d hd
    obtain ⟨c, hc, hd⟩ := List.mem_flatMap.1 hd
    exact isMargin_of_mem_plainLower (hmargin c hc) hd
  rw [Text.infix_lower_iff hword.plain, Text.infix_lower_iff hword.plain, List.flatMap_append,
    List.flatMap_append, infix_append_right_iff, infix_append_left_iff]
  · exact fun c hc hmem => hword.head c hc (hmargin hfront c hmem)
  · exact fun c hc hmem => hword.last c hc (hmargin hback c hmem)

theorem isBlank_of_mem_takeWhile {s : List Char} : ∀ c ∈ s.takeWhile isBlank, isBlank c = true :=
  List.all_eq_true.1 List.all_takeWhile

/-- Trimming takes blanks off both ends. -/
theorem exists_trim (s : List Char) : ∃ front back, (∀ c ∈ front, isBlank c = true) ∧
    (∀ c ∈ back, isBlank c = true) ∧ s = front ++ trim s ++ back := by
  refine ⟨s.takeWhile isBlank, ((trimStart s).reverse.takeWhile isBlank).reverse,
    isBlank_of_mem_takeWhile, ?_, ?_⟩
  · intro c hc
    exact isBlank_of_mem_takeWhile c (List.mem_reverse.1 hc)
  · rw [List.append_assoc, trim, trimEnd, ← List.reverse_append, List.takeWhile_append_dropWhile,
      List.reverse_reverse, trimStart, List.takeWhile_append_dropWhile]

end PatchReview.Text
