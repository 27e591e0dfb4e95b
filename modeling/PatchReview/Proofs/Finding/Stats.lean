import Mathlib.Algebra.BigOperators.Group.Finset.Basic
import Mathlib.Algebra.Ring.Nat
import PatchReview.Proofs.Finding.Order

/-! The numbers of a report. Every finding is of one kind and of one severity, and the kind limits
the severity; so the numbers of the kinds and those of the severities have one sum, and some of them
are tied to each other. -/
namespace PatchReview

namespace Severity

def all : List Severity := [critical, high, medium, low]

theorem mem_all (s : Severity) : s ∈ all := by
  cases s <;> decide

theorem name_inj {s t : Severity} (h : s.name = t.name) : s = t := by
  revert h
  cases s <;> cases t <;> decide

end Severity

namespace Category

theorem mem_all (c : Category) : c ∈ all := by
  cases c <;> decide

theorem sortOrder_inj {c d : Category} (h : c.sortOrder = d.sortOrder) : c = d := by
  revert h
  cases c <;> cases d <;> decide

/-- The severities that findings of a kind can have. -/
def severities : Category → List Severity
  | bug => [.critical, .high, .medium]
  | refactor => [.high, .medium]
  | suggestion => [.low]

theorem eq_suggestion_iff {c : Category} {s : Severity} (hs : s ∈ c.severities) :
    c = suggestion ↔ s = .low := by
  revert hs
  cases c <;> cases s <;> decide

theorem eq_bug_of_critical {c : Category} (h : .critical ∈ c.severities) : c = bug := by
  revert h
  cases c <;> decide

/-- Whatever the tags are, they lead to a severity of the kind that they lead to. -/
theorem severity_mem_severities (tags : List String) (ruleId : Option String) :
    (classify tags ruleId).2 ∈ (classify tags ruleId).1.severities := by
  unfold classify
  by_cases hbug : (sharesTag tags bugTags || ruleId.any bugRules.contains) = true
  · rw [if_pos hbug]
    dsimp only
    split
    · decide
    · split <;> decide
  · rw [if_neg hbug]
    by_cases hrefactor : (sharesTag tags refactorTags || ruleId.any refactorRules.contains) = true
    · rw [if_pos hrefactor]
      dsimp only
      split <;> decide
    · rw [if_neg hrefactor]
      decide

end Category

/-- What a finding says of its kind is what belongs to the kind. -/
structure Finding.IsClassified (x : Finding) : Prop where
  emoji : x.emoji = x.category.emoji
  sortOrder : x.sortOrder = x.category.sortOrder
  severity : x.severity ∈ x.category.severities.map Severity.name

namespace Finding.IsClassified
variable {x : Finding}

theorem severity_mem_all (h : x.IsClassified) : x.severity ∈ Severity.all.map Severity.name := by
  obtain ⟨s, -, hs⟩ := List.mem_map.1 h.severity
  rw [← hs]
  exact List.mem_map_of_mem s.mem_all

theorem suggestion_iff_low (h : x.IsClassified) :
    x.category = .suggestion ↔ x.severity = Severity.low.name := by
  obtain ⟨s, hs, hname⟩ := List.mem_map.1 h.severity
  rw [← hname, Category.eq_suggestion_iff hs]
  exact ⟨congrArg Severity.name, Severity.name_inj⟩

theorem bug_of_critical (h : x.IsClassified) (hcritical : x.severity = Severity.critical.name) :
    x.category = .bug := by
  obtain ⟨s, hs, hname⟩ := List.mem_map.1 h.severity
  obtain rfl := Severity.name_inj (hname.trans hcritical)
  exact Category.eq_bug_of_critical hs

end Finding.IsClassified

namespace FindingStats

/-- Items that all have one of some keys are counted key by key. -/
theorem sum_countP_eq_length {α κ : Type} [DecidableEq κ] (key : α → κ) {keys : List κ}
    (hkeys : keys.Nodup) {xs : List α} (h : ∀ x ∈ xs, key x ∈ keys) :
    (keys.map fun k => xs.countP (key · = k)).sum = xs.length := by
  have hcount : ∀ k, xs.countP (key · = k) = (xs.map key : Multiset κ).count k := by
    intro k
    rw [Multiset.coe_count, List.count_eq_countP, List.countP_map]
    rfl
  have hmem : ∀ k ∈ (xs.map key : Multiset κ), k ∈ keys.toFinset := by
    intro k hk
    obtain ⟨x, hx, rfl⟩ := List.mem_map.1 (Multiset.mem_coe.1 hk)
    exact List.mem_toFinset.2 (h x hx)
  calc (keys.map fun k => xs.countP (key · = k)).sum
      = ∑ k ∈ keys.toFinset, (xs.map key : Multiset κ).count k := by
        rw [List.sum_toFinset _ hkeys]
        simp only [hcount]
    _ = (xs.map key : Multiset κ).card := Multiset.sum_count_eq_card hmem
    _ = xs.length := by rw [Multiset.coe_card, List.length_map]

variable {xs : List Finding}

theorem total_eq_kinds (xs : List Finding) : (ofFindings xs).total =
    (ofFindings xs).bugs + (ofFindings xs).refactors + (ofFindings xs).suggestions := by
  have hkeys : Category.all.Nodup := by decide
  have h := sum_countP_eq_length Finding.category hkeys fun x (_ : x ∈ xs) => x.category.mem_all
  simp only [Category.all, List.map_cons, List.map_nil, List.sum_cons, List.sum_nil] at h
  simp only [ofFindings]
  omega

theorem total_eq_severities (h : ∀ x ∈ xs, x.IsClassified) : (ofFindings xs).total =
    (ofFindings xs).critical + (ofFindings xs).high + (ofFindings xs).medium +
      (ofFindings xs).low := by
  have hkeys : (Severity.all.map Severity.name).Nodup := by decide
  have hsum := sum_countP_eq_length Finding.severity hkeys fun x hx => (h x hx).severity_mem_all
  simp only [Severity.all, List.map_cons, List.map_nil, List.sum_cons, List.sum_nil] at hsum
  simp only [ofFindings]
  omega

theorem suggestions_eq_low (h : ∀ x ∈ xs, x.IsClassified) :
    (ofFindings xs).suggestions = (ofFindings xs).low := by
  refine List.countP_congr ?_
  intro x hx
  rw [decide_eq_true_iff, decide_eq_true_iff]
  exact (h x hx).suggestion_iff_low

theorem critical_le_bugs (h : ∀ x ∈ xs, x.IsClassified) :
    (ofFindings xs).critical ≤ (ofFindings xs).bugs := by
  refine List.countP_mono_left ?_
  intro x hx hcritical
  exact decide_eq_true ((h x hx).bug_of_critical (of_decide_eq_true hcritical))

end FindingStats
end PatchReview
