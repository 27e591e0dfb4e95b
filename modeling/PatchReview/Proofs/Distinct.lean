import Mathlib.Data.List.Induction
import Mathlib.Data.String.Basic
import PatchReview.Text.Basic

/-! Lists in which nothing stands twice. -/
namespace PatchReview

section First
variable {α : Type} [DecidableEq α]

theorem eraseDups_concat (xs : List α) (x : α) :
    (xs ++ [x]).eraseDups = if x ∈ xs then xs.eraseDups else xs.eraseDups ++ [x] := by
  rw [List.eraseDups_append]
  by_cases hx : x ∈ xs
  · simp [List.removeAll, hx]
  · simp [List.removeAll, hx, List.eraseDups_cons]

theorem nodup_eraseDups (xs : List α) : xs.eraseDups.Nodup := by
  induction xs using List.reverseRecOn with
  | nil => exact List.nodup_nil
  | append_singleton xs x ih =>
    rw [eraseDups_concat]
    split
    · exact ih
    · rename_i hx
      rw [List.nodup_append]
      refine ⟨ih, List.pairwise_singleton _ x, ?_⟩
      rintro a ha b hb rfl
      exact hx (List.mem_eraseDups.1 (List.mem_singleton.1 hb ▸ ha))

theorem eraseDups_eraseDups (xs : List α) : xs.eraseDups.eraseDups = xs.eraseDups := by
  induction xs using List.reverseRecOn with
  | nil => rfl
  | append_singleton xs x ih =>
    rw [eraseDups_concat]
    split
    · exact ih
    · rename_i hx
      rw [eraseDups_concat, if_neg (mt List.mem_eraseDups.1 hx), ih]

/-- What stands twice may be taken out of the parts first. -/
theorem eraseDups_append_eraseDups (xs ys : List α) :
    (xs.eraseDups ++ ys.eraseDups).eraseDups = (xs ++ ys).eraseDups := by
  induction ys using List.reverseRecOn with
  | nil =>
    rw [List.eraseDups_nil, List.append_nil, List.append_nil]
    exact eraseDups_eraseDups xs
  | append_singleton ys y ih =>
    rw [eraseDups_concat, ← List.append_assoc, eraseDups_concat (xs ++ ys)]
    by_cases hy : y ∈ ys
    · rw [if_pos hy, if_pos (List.mem_append_right xs hy), ih]
    · rw [if_neg hy, ← List.append_assoc, eraseDups_concat, ih]
      simp only [List.mem_append, List.mem_eraseDups]

theorem eraseRepsBy_loop (x : α) (xs done : List α) :
    List.eraseRepsBy.loop (· == ·) x xs done = done.reverse ++ (x :: xs).eraseReps := by
  have hloop : ∀ (xs done : List α) x, List.eraseRepsBy.loop (· == ·) x xs done =
      done.reverse ++ List.eraseRepsBy.loop (· == ·) x xs [] := by
    intro xs
    induction xs with
    | nil => simp [List.eraseRepsBy.loop]
    | cons y xs ih =>
      intro done x
      rw [List.eraseRepsBy.loop, List.eraseRepsBy.loop]
      split
      · exact ih done x
      · rw [ih (x :: done), ih [x]]
        simp
  exact hloop xs done x

theorem eraseReps_cons_cons (x y : α) (xs : List α) :
    (x :: y :: xs).eraseReps =
      if x = y then (y :: xs).eraseReps else x :: (y :: xs).eraseReps := by
  rw [List.eraseReps, List.eraseRepsBy, List.eraseRepsBy.loop]
  by_cases hxy : x = y
  · subst hxy
    simp only [beq_self_eq_true, if_true]
    exact eraseRepsBy_loop x xs []
  · rw [beq_eq_false_iff_ne.2 hxy, if_neg hxy]
    exact eraseRepsBy_loop y xs [x]

theorem mem_eraseReps {x : α} {xs : List α} : x ∈ xs.eraseReps ↔ x ∈ xs := by
  induction xs with
  | nil => exact Iff.rfl
  | cons y xs ih =>
    cases xs with
    | nil => exact Iff.rfl
    | cons z xs =>
      rw [eraseReps_cons_cons]
      split
      · rename_i hyz
        rw [ih, hyz]
        simp
      · rw [List.mem_cons, ih, ← List.mem_cons]

end First

theorem pairwise_lt_eraseReps {α : Type} [LinearOrder α] {xs : List α} (h : xs.Pairwise (· ≤ ·)) :
    xs.eraseReps.Pairwise (· < ·) := by
  induction xs with
  | nil => exact .nil
  | cons x xs ih =>
    obtain ⟨hx, hxs⟩ := List.pairwise_cons.1 h
    cases xs with
    | nil => exact List.pairwise_singleton _ x
    | cons y xs =>
      rw [eraseReps_cons_cons]
      split
      · exact ih hxs
      · rename_i hxy
        refine List.pairwise_cons.2 ⟨?_, ih hxs⟩
        intro z hz
        have hxy' := lt_of_le_of_ne (hx y List.mem_cons_self) hxy
        rcases List.mem_cons.1 (mem_eraseReps.1 hz) with rfl | hz
        · exact hxy'
        · exact lt_of_lt_of_le hxy' (List.rel_of_pairwise_cons hxs hz)

namespace Text

theorem mem_sortedDistinct {s : String} {texts : List String} :
    s ∈ sortedDistinct texts ↔ s ∈ texts := by
  rw [sortedDistinct, mem_eraseReps, List.mem_mergeSort]

theorem pairwise_lt_sortedDistinct (texts : List String) :
    (sortedDistinct texts).Pairwise (· < ·) := by
  have hsorted : (texts.mergeSort (· ≤ ·)).Pairwise fun s t => decide (s ≤ t) = true := by
    refine List.pairwise_mergeSort ?_ ?_ texts
    · intro s t u hst htu
      exact decide_eq_true (le_trans (of_decide_eq_true hst) (of_decide_eq_true htu))
    · intro s t
      rw [Bool.or_eq_true, decide_eq_true_iff, decide_eq_true_iff]
      exact le_total s t
  exact pairwise_lt_eraseReps (hsorted.imp of_decide_eq_true)

end Text
end PatchReview
