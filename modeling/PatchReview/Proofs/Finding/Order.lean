import Mathlib.Data.List.Basic
import PatchReview.Finding.Basic

/-! The order of reports. Findings of one kind and one confidence keep the order in which they were
found, so a report is told by its order and by its findings of each kind and confidence, and it makes
no difference whether parts of it have been sorted before. -/
namespace PatchReview

namespace Finding

/-- What decides on the place of a finding: the urgency of its kind and the confidence in it. -/
def rank (x : Finding) : Int × Int := (x.sortOrder, x.confidence)

theorem comesBefore_iff {x y : Finding} : x.comesBefore y = true ↔
    x.sortOrder < y.sortOrder ∨ x.sortOrder = y.sortOrder ∧ y.confidence ≤ x.confidence := by
  simp [comesBefore]

theorem comesBefore_trans (x y z : Finding) (hxy : x.comesBefore y = true)
    (hyz : y.comesBefore z = true) : x.comesBefore z = true := by
  rw [comesBefore_iff] at hxy hyz ⊢
  omega

theorem comesBefore_total (x y : Finding) : (x.comesBefore y || y.comesBefore x) = true := by
  rw [Bool.or_eq_true, comesBefore_iff, comesBefore_iff]
  omega

theorem comesBefore_of_rank_eq {x y : Finding} (h : x.rank = y.rank) : x.comesBefore y = true := by
  obtain ⟨horder, hconfidence⟩ := Prod.mk.inj h
  exact comesBefore_iff.2 (.inr ⟨horder, Int.le_of_eq hconfidence.symm⟩)

theorem rank_eq_of_comesBefore {x y : Finding} (hxy : x.comesBefore y = true)
    (hyx : y.comesBefore x = true) : x.rank = y.rank := by
  rw [comesBefore_iff] at hxy hyx
  refine Prod.ext ?_ ?_
  · change x.sortOrder = y.sortOrder
    omega
  · change x.confidence = y.confidence
    omega

/-- The findings stand in the order of reports. -/
def IsSorted (xs : List Finding) : Prop := xs.Pairwise fun x y => x.comesBefore y = true

theorem isSorted_sort (xs : List Finding) : IsSorted (sort xs) :=
  List.pairwise_mergeSort comesBefore_trans comesBefore_total xs

theorem sort_perm (xs : List Finding) : (sort xs).Perm xs := List.mergeSort_perm xs comesBefore

def ofRank (k : Int × Int) (xs : List Finding) : List Finding := xs.filter (·.rank = k)

theorem isSorted_ofRank (k : Int × Int) (xs : List Finding) : IsSorted (ofRank k xs) := by
  refine List.pairwise_of_forall_mem_list ?_
  intro x hx y hy
  have hxk := of_decide_eq_true (List.mem_filter.1 hx).2
  have hyk := of_decide_eq_true (List.mem_filter.1 hy).2
  exact comesBefore_of_rank_eq (hxk.trans hyk.symm)

/-- Findings of one rank keep their order. -/
theorem ofRank_sort (k : Int × Int) (xs : List Finding) : ofRank k (sort xs) = ofRank k xs := by
  have hsub : (ofRank k xs).Sublist (sort xs) :=
    List.sublist_mergeSort comesBefore_trans comesBefore_total (isSorted_ofRank k xs)
      List.filter_sublist
  have hrank : ofRank k (ofRank k xs) = ofRank k xs := by
    rw [ofRank, ofRank, List.filter_filter]
    simp only [Bool.and_self]
  have hsub' : (ofRank k xs).Sublist (ofRank k (sort xs)) := by
    have h := hsub.filter (·.rank = k)
    rwa [← ofRank, hrank] at h
  have hlength : (ofRank k xs).length = (ofRank k (sort xs)).length :=
    ((sort_perm xs).symm.filter _).length_eq
  exact (hsub'.eq_of_length hlength).symm

/-- In the order of reports, the findings of each rank tell all of them. -/
theorem eq_of_ofRank_eq {xs ys : List Finding} (hxs : IsSorted xs) (hys : IsSorted ys)
    (h : ∀ k, ofRank k xs = ofRank k ys) : xs = ys := by
  induction xs generalizing ys with
  | nil =>
    cases ys with
    | nil => rfl
    | cons y ys =>
      have hy := h y.rank
      simp [ofRank] at hy
  | cons x xs ih =>
    -- Each head is in the other list too, so each comes before the other: their ranks agree, and
    -- they are the first of that rank.
    have hxrank : ofRank x.rank (x :: xs) = x :: ofRank x.rank xs := by simp [ofRank]
    have hxmem : x ∈ ofRank x.rank ys := by
      rw [← h x.rank, hxrank]
      exact List.mem_cons_self
    cases ys with
    | nil => exact absurd hxmem List.not_mem_nil
    | cons y ys =>
      obtain ⟨hxfirst, hxrest⟩ := List.pairwise_cons.1 hxs
      obtain ⟨hyfirst, hyrest⟩ := List.pairwise_cons.1 hys
      have hyrank : ofRank y.rank (y :: ys) = y :: ofRank y.rank ys := by simp [ofRank]
      have hymem : y ∈ ofRank y.rank (x :: xs) := by
        rw [h y.rank, hyrank]
        exact List.mem_cons_self
      have hyx : y.comesBefore x = true := by
        rcases List.mem_cons.1 (List.mem_of_mem_filter hxmem) with hx | hx
        · exact comesBefore_of_rank_eq (congrArg rank hx.symm)
        · exact hyfirst x hx
      have hxy : x.comesBefore y = true := by
        rcases List.mem_cons.1 (List.mem_of_mem_filter hymem) with hy | hy
        · exact comesBefore_of_rank_eq (congrArg rank hy.symm)
        · exact hxfirst y hy
      have hrank := rank_eq_of_comesBefore hxy hyx
      have hheads := h x.rank
      rw [hxrank, hrank, hyrank, List.cons.injEq] at hheads
      obtain ⟨rfl, -⟩ := hheads
      refine congrArg (x :: ·) (ih hxrest hyrest ?_)
      intro k
      have hk := h k
      by_cases hxk : x.rank = k
      · simpa [ofRank, hxk] using hk
      · simpa [ofRank, hxk] using hk

theorem sort_congr {xs ys : List Finding} (h : ∀ k, ofRank k xs = ofRank k ys) : sort xs = sort ys := by
  refine eq_of_ofRank_eq (isSorted_sort xs) (isSorted_sort ys) ?_
  intro k
  rw [ofRank_sort, ofRank_sort, h k]

/-- What has been sorted in parts is sorted as if it had not been. -/
theorem sort_append (xs ys : List Finding) : sort (sort xs ++ sort ys) = sort (xs ++ ys) := by
  refine sort_congr ?_
  intro k
  have happend : ∀ as bs : List Finding, ofRank k (as ++ bs) = ofRank k as ++ ofRank k bs :=
    fun as bs => List.filter_append as bs
  rw [happend, happend, ofRank_sort, ofRank_sort]

/-- The ranks in a report do not depend on the order in which its findings were made. -/
theorem map_rank_sort_of_perm {xs ys : List Finding} (h : xs.Perm ys) :
    (sort xs).map rank = (sort ys).map rank := by
  have hperm := ((sort_perm xs).trans (h.trans (sort_perm ys).symm)).map rank
  have hsorted : ∀ zs : List Finding, ((sort zs).map rank).Pairwise fun k l =>
      k.1 < l.1 ∨ k.1 = l.1 ∧ l.2 ≤ k.2 := by
    intro zs
    rw [List.pairwise_map]
    exact (isSorted_sort zs).imp comesBefore_iff.1
  refine hperm.eq_of_pairwise ?_ (hsorted xs) (hsorted ys)
  intro k l _ _ hkl hlk
  refine Prod.ext ?_ ?_ <;> omega

end Finding

namespace FindingStats

theorem ofFindings_perm {xs ys : List Finding} (h : xs.Perm ys) : ofFindings xs = ofFindings ys := by
  simp only [ofFindings, h.length_eq, h.countP_eq]

end FindingStats
end PatchReview
