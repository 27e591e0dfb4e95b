import Mathlib.Data.List.TakeWhile
import PatchReview.Path
import PatchReview.Proofs.Text.Case
import PatchReview.Proofs.Text.Lines

/-! Lower case letter by letter. But for the small sigma, which has a form of its own at the end of
a word, lower case looks at one letter at a time. It keeps the marks in paths, so it goes through
whatever is cut at them. -/
namespace PatchReview

namespace Text

/-- `f` writes the mark as it is, and nothing else with it. -/
structure Keeps (f : Char → List Char) (mark : Char) : Prop where
  image : f mark = [mark]
  not_mem {c : Char} : c ≠ mark → mark ∉ f c
  ne_nil (c : Char) : f c ≠ []

namespace Keeps
variable {f : Char → List Char} {mark : Char} (h : Keeps f mark)
include h

theorem flatMap_eq_nil {s : List Char} : s.flatMap f = [] ↔ s = [] := by
  cases s with
  | nil => exact iff_of_true rfl rfl
  | cons c s =>
    rw [List.flatMap_cons, List.append_eq_nil_iff]
    exact iff_of_false (fun hnil => h.ne_nil c hnil.1) (List.cons_ne_nil c s)

theorem flatMap_eq_mark {s : List Char} : s.flatMap f = [mark] ↔ s = [mark] := by
  constructor
  · intro hs
    cases s with
    | nil => cases hs
    | cons c s =>
      rw [List.flatMap_cons, List.append_eq_singleton_iff] at hs
      obtain ⟨hc, -⟩ | ⟨hc, hs⟩ := hs
      · exact absurd hc (h.ne_nil c)
      · have hmark : c = mark := by
          by_contra hne
          exact h.not_mem hne (hc ▸ List.mem_singleton_self mark)
        rw [hmark, h.flatMap_eq_nil.1 hs]
  · rintro rfl
    rw [List.flatMap_singleton, h.image]

theorem mem_flatMap {s : List Char} : mark ∈ s.flatMap f ↔ mark ∈ s := by
  rw [List.mem_flatMap]
  constructor
  · rintro ⟨c, hc, hmark⟩
    by_contra hnot
    exact h.not_mem (fun heq => hnot (heq ▸ hc)) hmark
  · intro hmark
    exact ⟨mark, hmark, h.image ▸ List.mem_singleton_self mark⟩

theorem splitAt_flatMap (s : List Char) :
    splitAt mark (s.flatMap f) = (splitAt mark s).map (·.flatMap f) := by
  induction s with
  | nil => rfl
  | cons c s ih =>
    by_cases hc : c = mark
    · rw [List.flatMap_cons, hc, h.image, List.singleton_append, splitAt, if_pos rfl, ih, splitAt,
        if_pos rfl, List.map_cons, List.flatMap_nil]
    · obtain ⟨piece, pieces, hs, hcs⟩ := splitAt_cons_of_ne hc s
      obtain ⟨piece', pieces', hs', hcs'⟩ := splitAt_append_of_not_mem (h.not_mem hc) (s.flatMap f)
      rw [hs', hs, List.map_cons, List.cons.injEq] at ih
      rw [List.flatMap_cons, hcs', hcs, ih.1, ih.2, List.map_cons, List.flatMap_cons]

end Keeps

end Text

namespace Path
open Text

/-- The last part of a path that names anything. -/
def lastPart (s : List Char) : List Char :=
  ((splitAt '/' s).filter fun l => l != [] && l != ['.']).getLastD []

theorem name_ofString (s : List Char) :
    (ofString (String.ofList s)).name = String.ofList (lastPart s) := by
  have hfilter : ((fun p => p != "" && p != ".") ∘ String.ofList : List Char → Bool) =
      fun l => l != [] && l != ['.'] := by
    funext l
    have hempty : String.ofList l = "" ↔ l = [] := by
      rw [← String.toList_inj, String.toList_ofList]
      rfl
    have hdot : String.ofList l = "." ↔ l = ['.'] := by
      rw [← String.toList_inj, String.toList_ofList]
      rfl
    rw [Function.comp_apply, Bool.eq_iff_iff]
    simp only [Bool.and_eq_true, bne_iff_ne, ne_eq, hempty, hdot]
  rw [name, ofString, String.toList_ofList, List.filter_map, hfilter, lastPart,
    List.getLastD_eq_getLast?, List.getLastD_eq_getLast?, List.getLast?_map]
  cases List.getLast? _ with
  | none => rfl
  | some l => rfl

theorem endingOf_of_not_mem {s : List Char} (h : '.' ∉ s) : endingOf (String.ofList s) = [] := by
  have htail : s.reverse.takeWhile (· != '.') = s.reverse := by
    refine List.takeWhile_eq_self_iff.2 ?_
    intro c hc
    exact bne_iff_ne.2 fun heq => h (heq ▸ List.mem_reverse.1 hc)
  have hlength : s.length ≤ s.reverse.length + 1 := by
    rw [List.length_reverse]
    exact Nat.le_succ _
  simp only [endingOf, String.toList_ofList, htail, hlength, decide_true, Bool.or_true, if_true]

/-- The last dot begins the ending, if something stands before and behind it. -/
theorem endingOf_append_dot {head tail : List Char} (h : '.' ∉ tail) :
    endingOf (String.ofList (head ++ '.' :: tail)) =
      if head = [] ∨ tail = [] then [] else '.' :: tail := by
  have htail : (head ++ '.' :: tail).reverse.takeWhile (· != '.') = tail.reverse := by
    rw [List.reverse_append, List.reverse_cons, List.append_assoc,
      List.takeWhile_append_of_pos]
    · simp
    · intro c hc
      exact bne_iff_ne.2 fun heq => h (heq ▸ List.mem_reverse.1 hc)
  have hlength : (head ++ '.' :: tail).length ≤ tail.reverse.length + 1 ↔ head = [] := by
    rw [List.length_append, List.length_cons, List.length_reverse, ← List.length_eq_zero_iff]
    omega
  simp only [endingOf, String.toList_ofList, htail, hlength, List.isEmpty_iff,
    List.reverse_eq_nil_iff, List.reverse_reverse, Bool.or_eq_true, decide_eq_true_eq,
    or_comm (a := head = [])]

variable {f : Char → List Char}

theorem lastPart_flatMap (hslash : Keeps f '/') (hdot : Keeps f '.') (s : List Char) :
    lastPart (s.flatMap f) = (lastPart s).flatMap f := by
  have hfilter : ((fun l => l != [] && l != ['.']) ∘ fun l : List Char => l.flatMap f) =
      fun l => l != [] && l != ['.'] := by
    funext l
    rw [Function.comp_apply, Bool.eq_iff_iff]
    simp only [Bool.and_eq_true, bne_iff_ne, ne_eq, hdot.flatMap_eq_nil, hdot.flatMap_eq_mark]
  rw [lastPart, hslash.splitAt_flatMap, List.filter_map, hfilter, lastPart,
    List.getLastD_eq_getLast?, List.getLastD_eq_getLast?, List.getLast?_map]
  cases List.getLast? _ with
  | none => rfl
  | some l => rfl

theorem endingOf_flatMap (hdot : Keeps f '.') (s : List Char) :
    endingOf (String.ofList (s.flatMap f)) = (endingOf (String.ofList s)).flatMap f := by
  by_cases hmem : '.' ∈ s
  · obtain ⟨before, after, hs, hbefore⟩ := List.eq_append_cons_of_mem (List.mem_reverse.2 hmem)
    have hsplit : s = after.reverse ++ '.' :: before.reverse := by
      rw [← List.reverse_reverse s, hs]
      simp
    have htail : '.' ∉ before.reverse := fun h => hbefore (List.mem_reverse.1 h)
    rw [hsplit, List.flatMap_append, List.flatMap_cons, hdot.image, List.singleton_append,
      endingOf_append_dot htail, endingOf_append_dot (mt hdot.mem_flatMap.1 htail)]
    simp only [hdot.flatMap_eq_nil]
    split
    · rfl
    · rw [List.flatMap_cons, hdot.image, List.singleton_append]
  · rw [endingOf_of_not_mem hmem, endingOf_of_not_mem (mt hdot.mem_flatMap.1 hmem)]
    rfl

/-- The ending is told from a path letter by letter. -/
theorem ending_flatMap (hslash : Keeps f '/') (hdot : Keeps f '.') (s : List Char) :
    (ofString (String.ofList (s.flatMap f))).ending =
      (ofString (String.ofList s)).ending.flatMap f := by
  rw [ending, name_ofString, lastPart_flatMap hslash hdot, endingOf_flatMap hdot, ending,
    name_ofString]

end Path

namespace Text

/-- The small sigma at the end of a word is written like the other one. -/
def plainSigma (c : Char) : Char := if c = 'ς' then 'σ' else c

/-- The lower case of a letter wherever it stands. -/
def plainLower (c : Char) : List Char :=
  if c = 'Σ' then ['σ'] else if c = 'İ' then ['i', '\u0307'] else [plainSigma (lowerChar c)]

theorem map_plainSigma_lower (s : List Char) :
    (lower s).map plainSigma = s.flatMap plainLower := by
  have hafter : ∀ before, (lowerAfter before s).map plainSigma = s.flatMap plainLower := by
    induction s with
    | nil => exact fun _ => rfl
    | cons c s ih =>
      intro before
      rw [lowerAfter, List.flatMap_cons, plainLower]
      split
      · have hsigma : plainSigma (lowerSigma before s) = 'σ' := by
          rw [lowerSigma]
          split <;> rfl
        rw [List.map_cons, hsigma, ih]
        rfl
      · split
        · rw [List.map_cons, List.map_cons, ih]
          rfl
        · rw [List.map_cons, ih]
          rfl
  exact hafter []

theorem eq_iff_of_map_plainSigma {k w : List Char} (hw : ∀ c ∈ w, c ≠ 'σ' ∧ c ≠ 'ς') :
    k.map plainSigma = w ↔ k = w := by
  have hplain : ∀ c, c ≠ 'ς' → plainSigma c = c := fun c hc => if_neg hc
  constructor
  · rintro rfl
    refine ((List.map_congr_left ?_).trans (List.map_id k)).symm
    intro c hc
    refine hplain c ?_
    rintro rfl
    exact (hw 'σ' (List.mem_map.2 ⟨'ς', hc, rfl⟩)).1 rfl
  · rintro rfl
    refine (List.map_congr_left ?_).trans (List.map_id k)
    exact fun c hc => hplain c (hw c hc).2

theorem lower_eq_iff {s w : List Char} (hw : ∀ c ∈ w, c ≠ 'σ' ∧ c ≠ 'ς') :
    lower s = w ↔ s.flatMap plainLower = w := by
  rw [← eq_iff_of_map_plainSigma hw, map_plainSigma_lower]

/-- The marks in paths. -/
def pathMarks : List Char := ['.', '/', '\\']

theorem lowerChar_marks_ascii : (List.range 128).all (fun n => pathMarks.all fun mark =>
    Char.ofNat n == mark || lowerChar (Char.ofNat n) != mark) = true := by
  decide +kernel

theorem lowerImages_disjoint_marks :
    bitsOfAll (imagesOf lowerRuns) &&& bitsOfAll [pathMarks.map Char.toNat] = 0 := by
  decide +kernel

/-- Nothing becomes a mark in lower case. -/
theorem lowerChar_ne_mark {c mark : Char} (hmark : mark ∈ pathMarks) (hc : c ≠ mark) :
    lowerChar c ≠ mark := by
  by_cases hascii : c.toNat < 128
  · have hall := of_lt_128 (p := fun c => pathMarks.all fun mark =>
      c == mark || lowerChar c != mark) lowerChar_marks_ascii hascii
    have hthis := List.all_eq_true.1 hall mark hmark
    rw [Bool.or_eq_true, beq_iff_eq, bne_iff_ne] at hthis
    exact hthis.resolve_left hc
  · have hlower : lowerChar c = mapByRuns lowerRuns c := if_neg hascii
    rw [hlower]
    rcases mapByRuns_cases areCharacters_lowerImages c with hself | himage
    · rwa [hself]
    · intro heq
      have hnot := not_mem_of_bits lowerImages_disjoint_marks himage
      rw [heq, List.flatten_singleton] at hnot
      exact hnot (List.mem_map_of_mem hmark)

theorem plainSigma_ne_mark {c mark : Char} (hmark : mark ∈ pathMarks) (hc : c ≠ mark) :
    plainSigma c ≠ mark := by
  rw [plainSigma]
  split
  · rintro rfl
    revert hmark
    decide
  · exact hc

theorem keeps_plainSigma {mark : Char} (hmark : mark ∈ pathMarks) :
    Keeps (fun c => [plainSigma c]) mark where
  image := by
    have hne : mark ≠ 'ς' := by
      rintro rfl
      revert hmark
      decide
    rw [plainSigma, if_neg hne]
  not_mem hc := fun h => plainSigma_ne_mark hmark hc (List.mem_singleton.1 h).symm
  ne_nil _ := List.cons_ne_nil _ _

theorem keeps_plainLower {mark : Char} (hmark : mark ∈ pathMarks) : Keeps plainLower mark where
  image := by
    have hmarks : ∀ m ∈ pathMarks, plainLower m = [m] := forall_mem_of_all (by decide)
    exact hmarks mark hmark
  not_mem {c} hc := by
    intro h
    rw [plainLower] at h
    split at h
    · rw [List.mem_singleton.1 h] at hmark
      revert hmark
      decide
    · split at h
      · have hnone : ∀ m ∈ pathMarks, m ∉ ['i', '\u0307'] := forall_mem_of_all (by decide)
        exact hnone mark hmark h
      · exact plainSigma_ne_mark hmark (lowerChar_ne_mark hmark hc) (List.mem_singleton.1 h).symm
  ne_nil c := by
    rw [plainLower]
    split
    · exact List.cons_ne_nil _ _
    · split <;> exact List.cons_ne_nil _ _

end Text
end PatchReview
