import PatchReview.Text.Blank
import PatchReview.Text.Case

/-! Letter case is settled once: to map a text a second time changes nothing. What the tables make of
characters is outside of what they change. Both are sets of codes, which are compared as the bits of
numbers. -/
namespace PatchReview.Text

section Codes

/-- The codes in a list as the bits of a number. -/
def bits (codes : List Nat) : Nat := codes.foldr (fun n rest => rest ||| 1 <<< n) 0

/-- The codes in several lists, which are put together list by list to keep the sums shallow. -/
def bitsOfAll (lists : List (List Nat)) : Nat :=
  lists.foldr (fun codes rest => rest ||| bits codes) 0

theorem testBit_bits {codes : List Nat} {n : Nat} : (bits codes).testBit n = true ↔ n ∈ codes := by
  induction codes with
  | nil => simp [bits]
  | cons m codes ih =>
    have hcons : bits (m :: codes) = bits codes ||| 1 <<< m := rfl
    rw [hcons, Nat.testBit_or, Bool.or_eq_true, ih, Nat.one_shiftLeft, Nat.testBit_two_pow,
      decide_eq_true_iff, List.mem_cons, or_comm, eq_comm]

theorem testBit_bitsOfAll {lists : List (List Nat)} {n : Nat} :
    (bitsOfAll lists).testBit n = true ↔ n ∈ lists.flatten := by
  induction lists with
  | nil => simp [bitsOfAll]
  | cons codes lists ih =>
    have hcons : bitsOfAll (codes :: lists) = bitsOfAll lists ||| bits codes := rfl
    rw [hcons, Nat.testBit_or, Bool.or_eq_true, ih, testBit_bits, List.flatten_cons,
      List.mem_append, or_comm]

theorem not_mem_of_bits {lists others : List (List Nat)}
    (h : bitsOfAll lists &&& bitsOfAll others = 0) {n : Nat} (hn : n ∈ lists.flatten) :
    n ∉ others.flatten := by
  intro hother
  have hbit : (bitsOfAll lists &&& bitsOfAll others).testBit n = true := by
    rw [Nat.testBit_and, testBit_bitsOfAll.2 hn, testBit_bitsOfAll.2 hother]
    rfl
  rw [h, Nat.zero_testBit] at hbit
  cases hbit

namespace CaseRun
variable {r : CaseRun} {c : Char}

def codes (r : CaseRun) : List Nat :=
  (List.range ((r.last - r.first) / r.stride + 1)).map fun k => r.first + k * r.stride

def image (r : CaseRun) (n : Nat) : Nat := (n + r.shift).toNat

theorem mem_codes (h : r.covers c = true) : c.toNat ∈ r.codes := by
  simp only [covers, Bool.and_eq_true, decide_eq_true_iff, beq_iff_eq] at h
  obtain ⟨⟨hfirst, hlast⟩, hmod⟩ := h
  refine List.mem_map.2 ⟨(c.toNat - r.first) / r.stride, ?_, ?_⟩
  · rw [List.mem_range, Nat.lt_succ_iff]
    exact Nat.div_le_div_right (Nat.sub_le_sub_right hlast r.first)
  · have hdiv := Nat.div_add_mod (c.toNat - r.first) r.stride
    rw [hmod, Nat.add_zero, Nat.mul_comm] at hdiv
    omega

end CaseRun

/-- The codes of the characters that runs change, run by run. -/
def codesOf (runs : List CaseRun) : List (List Nat) := runs.map CaseRun.codes

/-- The codes of what runs make of characters, run by run. -/
def imagesOf (runs : List CaseRun) : List (List Nat) := runs.map fun r => r.codes.map r.image

/-- The codes are those of characters: none is a surrogate or out of range. -/
def areCharacters (lists : List (List Nat)) : Bool := lists.all (·.all (Nat.isValidChar ·))

theorem toNat_ofNat {lists : List (List Nat)} (h : areCharacters lists = true) {n : Nat}
    (hn : n ∈ lists.flatten) : (Char.ofNat n).toNat = n := by
  obtain ⟨codes, hcodes, hn⟩ := List.mem_flatten.1 hn
  have hchar := of_decide_eq_true (List.all_eq_true.1 (List.all_eq_true.1 h codes hcodes) n hn)
  rw [Char.ofNat, dif_pos hchar]
  rfl

variable {runs : List CaseRun} {c : Char}

theorem mapByRuns_eq_self (h : c.toNat ∉ (codesOf runs).flatten) : mapByRuns runs c = c := by
  have hnone : runs.find? (·.covers c) = none := by
    refine List.find?_eq_none.2 ?_
    intro r hr hcovers
    exact h (List.mem_flatten.2 ⟨_, List.mem_map_of_mem hr, CaseRun.mem_codes hcovers⟩)
  rw [mapByRuns, hnone]

theorem mapByRuns_cases (hchars : areCharacters (imagesOf runs) = true) (c : Char) :
    mapByRuns runs c = c ∨ (mapByRuns runs c).toNat ∈ (imagesOf runs).flatten := by
  rw [mapByRuns]
  cases hfind : runs.find? (·.covers c) with
  | none => exact .inl rfl
  | some r =>
    have hcovers : r.covers c = true := by
      have h := List.find?_some hfind
      exact h
    have himage : r.image c.toNat ∈ (imagesOf runs).flatten :=
      List.mem_flatten.2 ⟨_, List.mem_map_of_mem (List.mem_of_find?_eq_some hfind),
        List.mem_map_of_mem (CaseRun.mem_codes hcovers)⟩
    have hcode : (r.map c).toNat = r.image c.toNat := toNat_ofNat hchars himage
    right
    rw [hcode]
    exact himage

/-- The codes of blanks, range by range. -/
def blankCodes : List (List Nat) := blankRanges.map fun b => List.range' b.1 (b.2 + 1 - b.1)

theorem mem_blankCodes (h : isBlank c = true) : c.toNat ∈ blankCodes.flatten := by
  obtain ⟨b, hb, hfirst, hlast⟩ := inRanges_iff.1 h
  refine List.mem_flatten.2 ⟨_, List.mem_map_of_mem hb, ?_⟩
  rw [List.mem_range'_1]
  omega

theorem of_lt_128 {p : Char → Bool} (h : (List.range 128).all (fun n => p (Char.ofNat n)) = true)
    (hc : c.toNat < 128) : p c = true := by
  have hn := List.all_eq_true.1 h c.toNat (List.mem_range.2 hc)
  rwa [Char.ofNat_toNat] at hn

end Codes

section Lower

/-- A character that lower case leaves as it is. -/
structure IsSmall (c : Char) : Prop where
  ne_sigma : c ≠ 'Σ'
  ne_dotted : c ≠ 'İ'
  lowerChar_eq : lowerChar c = c

/-- The codes of what lower case changes. -/
def capitalCodes : List (List Nat) := List.range' 0x41 26 :: [0x130] :: codesOf lowerRuns

theorem areCharacters_lowerImages : areCharacters (imagesOf lowerRuns) = true := by
  decide +kernel

theorem lowerImages_disjoint : bitsOfAll (imagesOf lowerRuns) &&& bitsOfAll capitalCodes = 0 := by
  decide +kernel

theorem toLower_eq_self {c : Char} (h : c.toNat ∉ List.range' 0x41 26) : c.toLower = c := by
  refine dif_neg ?_
  rintro ⟨hfirst, hlast⟩
  have hfirst' : 0x41 ≤ c.toNat := UInt32.le_iff_toNat_le.1 hfirst
  have hlast' : c.toNat ≤ 0x5A := UInt32.le_iff_toNat_le.1 hlast
  rw [List.mem_range'_1] at h
  omega

theorem isSmall_of_not_mem {c : Char} (h : c.toNat ∉ capitalCodes.flatten) : IsSmall c := by
  rw [capitalCodes, List.flatten_cons, List.flatten_cons, List.mem_append, List.mem_append,
    List.mem_singleton, not_or, not_or] at h
  obtain ⟨hascii, hdotted, hruns⟩ := h
  refine ⟨?_, ?_, ?_⟩
  · rintro rfl
    exact hruns (by decide +kernel)
  · rintro rfl
    exact hdotted rfl
  · rw [lowerChar]
    split
    · exact toLower_eq_self hascii
    · exact mapByRuns_eq_self hruns

theorem lowerChar_ascii : (List.range 128).all (fun n => lowerChar (Char.ofNat n) != 'Σ' &&
    lowerChar (Char.ofNat n) != 'İ' &&
    lowerChar (lowerChar (Char.ofNat n)) == lowerChar (Char.ofNat n)) = true := by
  decide +kernel

theorem isSmall_lowerChar {c : Char} (hsigma : c ≠ 'Σ') (hdotted : c ≠ 'İ') :
    IsSmall (lowerChar c) := by
  by_cases hc : c.toNat < 128
  · have hascii := of_lt_128 (p := fun c => lowerChar c != 'Σ' && lowerChar c != 'İ' &&
      lowerChar (lowerChar c) == lowerChar c) lowerChar_ascii hc
    rw [Bool.and_eq_true, Bool.and_eq_true, bne_iff_ne, bne_iff_ne, beq_iff_eq] at hascii
    exact ⟨hascii.1.1, hascii.1.2, hascii.2⟩
  · have hlower : lowerChar c = mapByRuns lowerRuns c := if_neg hc
    rcases mapByRuns_cases areCharacters_lowerImages c with hself | himage
    · have hsame : lowerChar c = c := hlower.trans hself
      rw [hsame]
      exact ⟨hsigma, hdotted, hsame⟩
    · rw [hlower]
      exact isSmall_of_not_mem (not_mem_of_bits lowerImages_disjoint himage)

theorem isSmall_lowerSigma (before after : List Char) : IsSmall (lowerSigma before after) := by
  rw [lowerSigma]
  split
  · exact ⟨by decide, by decide, by decide +kernel⟩
  · exact ⟨by decide, by decide, by decide +kernel⟩

theorem isSmall_of_mem_lowerAfter {before s : List Char} {c : Char} (h : c ∈ lowerAfter before s) :
    IsSmall c := by
  induction s generalizing before with
  | nil => exact absurd h List.not_mem_nil
  | cons d s ih =>
    rw [lowerAfter] at h
    split at h
    · rcases List.mem_cons.1 h with rfl | h
      · exact isSmall_lowerSigma before s
      · exact ih h
    · rename_i hsigma
      split at h
      · rcases List.mem_cons.1 h with rfl | h
        · exact ⟨by decide, by decide, by decide +kernel⟩
        · rcases List.mem_cons.1 h with rfl | h
          · exact ⟨by decide, by decide, by decide +kernel⟩
          · exact ih h
      · rename_i hdotted
        rcases List.mem_cons.1 h with rfl | h
        · exact isSmall_lowerChar hsigma hdotted
        · exact ih h

theorem lowerAfter_eq_self {before s : List Char} (h : ∀ c ∈ s, IsSmall c) :
    lowerAfter before s = s := by
  induction s generalizing before with
  | nil => rfl
  | cons c s ih =>
    obtain ⟨hc, hs⟩ := List.forall_mem_cons.1 h
    rw [lowerAfter, if_neg hc.ne_sigma, if_neg hc.ne_dotted, hc.lowerChar_eq, ih hs]

theorem lower_lower (s : List Char) : lower (lower s) = lower s :=
  lowerAfter_eq_self fun _ h => isSmall_of_mem_lowerAfter h

theorem lowered_lowered (s : String) : lowered (lowered s) = lowered s := by
  rw [lowered, lowered, String.toList_ofList, lower_lower]

end Lower

section Upper

/-- The codes of what upper case changes, and of blanks. -/
def smallCodes : List (List Nat) :=
  List.range' 0x61 26 :: upperExpansions.map (·.1) ::
    (codesOf upperRuns ++ blankRanges.map fun b => List.range' b.1 (b.2 + 1 - b.1))

def upperImages : List (List Nat) := upperExpansions.map (·.2) ++ imagesOf upperRuns

theorem areCharacters_upperImages : areCharacters upperImages = true := by
  decide +kernel

theorem upperImages_disjoint : bitsOfAll upperImages &&& bitsOfAll smallCodes = 0 := by
  decide +kernel

theorem toUpper_eq_self {c : Char} (h : c.toNat ∉ List.range' 0x61 26) : c.toUpper = c := by
  refine dif_neg ?_
  rintro ⟨hfirst, hlast⟩
  have hfirst' : 0x61 ≤ c.toNat := UInt32.le_iff_toNat_le.1 hfirst
  have hlast' : c.toNat ≤ 0x7A := UInt32.le_iff_toNat_le.1 hlast
  rw [List.mem_range'_1] at h
  omega

theorem mem_of_lookup {α : Type} {entries : List (Nat × α)} {n : Nat} {x : α}
    (h : entries.lookup n = some x) : (n, x) ∈ entries := by
  obtain ⟨before, after, heq, -⟩ := List.lookup_eq_some_iff.1 h
  rw [heq]
  exact List.mem_append_right _ List.mem_cons_self

/-- A character that is its own upper case, and no blank. -/
structure IsCapital (c : Char) : Prop where
  upperChar_eq : upperChar c = [c]
  isBlank_eq : isBlank c = false

theorem isCapital_of_not_mem {c : Char} (h : c.toNat ∉ smallCodes.flatten) : IsCapital c := by
  rw [smallCodes, List.flatten_cons, List.flatten_cons, List.flatten_append, List.mem_append,
    List.mem_append, List.mem_append, not_or, not_or, not_or] at h
  obtain ⟨hascii, hexpansions, hruns, hblanks⟩ := h
  constructor
  · rw [upperChar]
    split
    · rw [toUpper_eq_self hascii]
    · split
      · rename_i codes hcodes
        exact absurd (List.mem_map_of_mem (mem_of_lookup hcodes)) hexpansions
      · rw [mapByRuns_eq_self hruns]
  · rw [← Bool.not_eq_true]
    exact fun hblank => hblanks (mem_blankCodes hblank)

theorem isCapital_ofNat {n : Nat} (h : n ∈ upperImages.flatten) : IsCapital (Char.ofNat n) := by
  refine isCapital_of_not_mem ?_
  rw [toNat_ofNat areCharacters_upperImages h]
  exact not_mem_of_bits upperImages_disjoint h

theorem upperChar_ascii : (List.range 128).all (fun n =>
    (upperChar (Char.ofNat n)).all (fun d => upperChar d == [d]) &&
      (isBlank (Char.ofNat n) || (upperChar (Char.ofNat n)).any (!isBlank ·))) = true := by
  decide +kernel

theorem upperExpansions_ne_nil : ∀ e ∈ upperExpansions, e.2 ≠ [] := by
  decide

/-- The upper case of a character is its own upper case, and what is no blank gives what is none. -/
theorem upperChar_settled (c : Char) : (∀ d ∈ upperChar c, upperChar d = [d]) ∧
    (isBlank c = false → ∃ d ∈ upperChar c, isBlank d = false) := by
  by_cases hc : c.toNat < 128
  · have hascii := of_lt_128 (p := fun c => (upperChar c).all (fun d => upperChar d == [d]) &&
      (isBlank c || (upperChar c).any (!isBlank ·))) upperChar_ascii hc
    rw [Bool.and_eq_true, Bool.or_eq_true, List.all_eq_true, List.any_eq_true] at hascii
    obtain ⟨hcapital, hblank⟩ := hascii
    refine ⟨fun d hd => beq_iff_eq.1 (hcapital d hd), fun hc => ?_⟩
    rw [hc] at hblank
    obtain ⟨d, hd, hd'⟩ := hblank.resolve_left Bool.false_ne_true
    exact ⟨d, hd, Bool.not_eq_true' _ ▸ hd'⟩
  · cases hcodes : upperExpansions.lookup c.toNat with
    | some codes =>
      have hupper : upperChar c = codes.map Char.ofNat := by
        rw [upperChar, if_neg hc, hcodes]
      have hmem := mem_of_lookup hcodes
      have hcapital : ∀ n ∈ codes, IsCapital (Char.ofNat n) := by
        intro n hn
        refine isCapital_ofNat (List.mem_flatten.2 ⟨codes, ?_, hn⟩)
        exact List.mem_append_left _ (List.mem_map_of_mem hmem)
      rw [hupper]
      constructor
      · intro d hd
        obtain ⟨n, hn, rfl⟩ := List.mem_map.1 hd
        exact (hcapital n hn).upperChar_eq
      · intro _
        obtain ⟨n, hn⟩ := List.exists_mem_of_ne_nil codes (upperExpansions_ne_nil _ hmem)
        exact ⟨_, List.mem_map_of_mem hn, (hcapital n hn).isBlank_eq⟩
    | none =>
      have hupper : upperChar c = [mapByRuns upperRuns c] := by
        rw [upperChar, if_neg hc, hcodes]
      have hchars : areCharacters (imagesOf upperRuns) = true := by
        have h := areCharacters_upperImages
        rw [areCharacters, upperImages, List.all_append, Bool.and_eq_true] at h
        exact h.2
      rw [hupper]
      rcases mapByRuns_cases hchars c with hself | himage
      · rw [hself] at hupper
        rw [hself]
        refine ⟨?_, fun hblank => ⟨c, List.mem_singleton_self c, hblank⟩⟩
        intro d hd
        rw [List.mem_singleton.1 hd]
        exact hupper
      · have hmem : (mapByRuns upperRuns c).toNat ∈ upperImages.flatten := by
          rw [upperImages, List.flatten_append]
          exact List.mem_append_right _ himage
        have hcapital := isCapital_of_not_mem (not_mem_of_bits upperImages_disjoint hmem)
        refine ⟨?_, fun _ => ⟨_, List.mem_singleton_self _, hcapital.isBlank_eq⟩⟩
        intro d hd
        rw [List.mem_singleton.1 hd]
        exact hcapital.upperChar_eq

theorem upper_upper (s : List Char) : upper (upper s) = upper s := by
  have hchar : ∀ c, (upperChar c).flatMap upperChar = upperChar c := by
    intro c
    rw [List.flatMap_def, List.map_congr_left (upperChar_settled c).1]
    exact List.flatMap_singleton' (upperChar c)
  rw [upper, upper, List.flatMap_assoc]
  simp only [hchar]

theorem uppered_uppered (s : String) : uppered (uppered s) = uppered s := by
  rw [uppered, uppered, String.toList_ofList, upper_upper]

theorem exists_not_isBlank_upper {s : List Char} (h : ∃ c ∈ s, isBlank c = false) :
    ∃ c ∈ upper s, isBlank c = false := by
  obtain ⟨c, hc, hblank⟩ := h
  obtain ⟨d, hd, hblank⟩ := (upperChar_settled c).2 hblank
  exact ⟨d, List.mem_flatMap.2 ⟨c, hc, hd⟩, hblank⟩

end Upper
end PatchReview.Text
