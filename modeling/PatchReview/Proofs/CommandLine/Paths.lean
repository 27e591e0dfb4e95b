import PatchReview.CommandLine.Command
import PatchReview.Host.Basic
import PatchReview.Proofs.Except

/-! Paths on the command line. The character with the number zero is refused in them, so that none
of the files that a review is told to read is out of reach for it. -/
namespace PatchReview

namespace Text

theorem mem_join {sep : String} {xs : List String} {c : Char} (h : c ∈ (join sep xs).toList) :
    c ∈ sep.toList ∨ ∃ x ∈ xs, c ∈ x.toList := by
  induction xs using join.induct with
  | case1 => cases h
  | case2 s => exact .inr ⟨s, List.mem_singleton_self s, h⟩
  | case3 s t rest ih =>
    rw [join, String.toList_append, String.toList_append, List.mem_append, List.mem_append] at h
    rcases h with (hs | hsep) | hrest
    · exact .inr ⟨s, List.mem_cons_self, hs⟩
    · exact .inl hsep
    · rcases ih hrest with hsep | ⟨x, hx, hc⟩
      · exact .inl hsep
      · exact .inr ⟨x, List.mem_cons_of_mem _ hx, hc⟩

end Text

namespace Path

/-- The path does not hold the character with the number zero. -/
structure IsNullFree (p : Path) : Prop where
  root : '\x00' ∉ p.root.toList
  parts : ∀ part ∈ p.parts, '\x00' ∉ part.toList

variable {p q : Path}

theorem IsNullFree.hasNull (h : p.IsNullFree) : p.hasNull = false := by
  rw [Path.hasNull, Text.hasNull, Bool.eq_false_iff, Ne, List.contains_iff_mem]
  unfold toString
  extract_lets s
  split
  · decide
  · rw [String.toList_append, List.mem_append]
    rintro (hroot | hparts)
    · exact h.root hroot
    · rcases Text.mem_join hparts with hslash | ⟨part, hpart, hnull⟩
      · revert hslash
        decide
      · exact h.parts part hpart hnull

theorem IsNullFree.append (hp : p.IsNullFree) (hq : q.IsNullFree) : (p.append q).IsNullFree := by
  rw [Path.append]
  split
  · exact hq
  · refine ⟨hp.root, ?_⟩
    intro part hpart
    rcases List.mem_append.1 hpart with hpart | hpart
    · exact hp.parts part hpart
    · exact hq.parts part hpart

end Path

namespace CommandLine

end CommandLine
end PatchReview
