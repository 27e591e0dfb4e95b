import PatchReview.Text.Basic

/-! Texts joined from pieces: behind the first piece, each one stands with a separator in front. -/
namespace PatchReview.Text

theorem join_cons (sep s : String) (rest : List String) :
    join sep (s :: rest) = s ++ String.join (rest.map (sep ++ ·)) := by
  induction rest generalizing s with
  | nil => rw [join, List.map_nil, String.join_nil, String.append_empty]
  | cons t rest ih =>
    rw [join, ih, List.map_cons, String.join_cons]
    simp only [String.append_assoc]

theorem join_append_map (sep : String) {xs : List String} (hxs : xs ≠ []) (ys : List String) :
    join sep (xs ++ ys) = join sep xs ++ String.join (ys.map (sep ++ ·)) := by
  obtain ⟨x, rest, rfl⟩ := List.exists_cons_of_ne_nil hxs
  rw [List.cons_append, join_cons, join_cons, List.map_append, String.join_append,
    String.append_assoc]

theorem join_append (sep : String) {xs ys : List String} (hxs : xs ≠ []) (hys : ys ≠ []) :
    join sep (xs ++ ys) = join sep xs ++ sep ++ join sep ys := by
  obtain ⟨y, rest, rfl⟩ := List.exists_cons_of_ne_nil hys
  rw [join_append_map sep hxs, List.map_cons, String.join_cons, join_cons]
  simp only [String.append_assoc]

theorem join_eq_empty (sep : String) {xs : List String} (h : ∀ x ∈ xs, x ≠ "") :
    join sep xs = "" ↔ xs = [] := by
  cases xs with
  | nil => exact iff_of_true rfl rfl
  | cons x xs =>
    refine iff_of_false ?_ (List.cons_ne_nil _ _)
    intro hjoin
    rw [join_cons, String.append_eq_empty_iff] at hjoin
    exact h x List.mem_cons_self hjoin.1

theorem join_flatMap {α : Type} (xs : List α) (f : α → List String) :
    String.join (xs.flatMap f) = String.join (xs.map fun x => String.join (f x)) := by
  induction xs with
  | nil => rfl
  | cons x xs ih =>
    rw [List.flatMap_cons, String.join_append, ih, List.map_cons, String.join_cons]

end PatchReview.Text
