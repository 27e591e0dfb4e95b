import PatchReview.Text.Basic

/-! Texts cut into parts: behind a part that is known, and behind a run of characters of one kind. -/
namespace PatchReview.Text

theorem after?_append (part : String) (s : List Char) :
    after? part (part.toList ++ s) = some s := by
  rw [after?, if_pos (List.isPrefixOf_iff_prefix.2 (List.prefix_append _ _)), List.drop_left]

theorem after?_eq_some_iff {part : String} {s rest : List Char} :
    after? part s = some rest ↔ s = part.toList ++ rest := by
  constructor
  · intro h
    rw [after?] at h
    split at h
    · next hpart =>
      obtain ⟨t, rfl⟩ := List.isPrefixOf_iff_prefix.1 hpart
      rw [List.drop_left] at h
      rw [Option.some.inj h]
    · cases h
  · rintro rfl
    exact after?_append part rest

/-- A run of characters of one kind is cut off as a whole. -/
theorem dropWhile_eq_cons {p : Char → Bool} {s rest : List Char} {c : Char} :
    s.dropWhile p = c :: rest ↔
      ∃ run, (∀ b ∈ run, p b = true) ∧ p c = false ∧ s = run ++ c :: rest := by
  constructor
  · intro h
    induction s with
    | nil => cases h
    | cons b s ih =>
        cases hb : p b with
        | false =>
            rw [List.dropWhile_cons_of_neg (by rw [hb]; exact Bool.false_ne_true)] at h
            obtain ⟨rfl, rfl⟩ := List.cons.inj h
            exact ⟨[], List.forall_mem_nil _, hb, rfl⟩
        | true =>
            rw [List.dropWhile_cons_of_pos hb] at h
            obtain ⟨run, hrun, hc, rfl⟩ := ih h
            exact ⟨b :: run, List.forall_mem_cons.2 ⟨hb, hrun⟩, hc, rfl⟩
  · rintro ⟨run, hrun, hc, rfl⟩
    rw [List.dropWhile_append_of_pos hrun, List.dropWhile_cons_of_neg]
    rw [hc]
    exact Bool.false_ne_true

theorem takeWhile_eq_iff {p : Char → Bool} {s run : List Char} :
    s.takeWhile p = run ↔
      ∃ rest, s = run ++ rest ∧ (∀ c ∈ run, p c = true) ∧ ∀ c ∈ rest.head?, p c = false := by
  constructor
  · rintro rfl
    refine ⟨s.dropWhile p, List.takeWhile_append_dropWhile.symm, ?_, ?_⟩
    · exact List.all_eq_true.1 List.all_takeWhile
    · intro c hc
      obtain ⟨rest, hrest⟩ := List.head?_eq_some_iff.1 hc
      obtain ⟨-, -, hstop, -⟩ := dropWhile_eq_cons.1 hrest
      exact hstop
  · rintro ⟨rest, rfl, hrun, hrest⟩
    rw [List.takeWhile_append_of_pos hrun]
    cases rest with
    | nil => exact List.append_nil run
    | cons c rest =>
      rw [List.takeWhile_cons_of_neg, List.append_nil]
      rw [hrest c rfl]
      exact Bool.false_ne_true

end PatchReview.Text
