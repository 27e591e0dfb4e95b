import PatchReview.Detector.Selection
import PatchReview.Proofs.Distinct
import PatchReview.Proofs.Except

/-! Which detectors a choice sets up. A name that no detector bears is refused; the expressions of
patterns are read when the detectors are set up, which succeeds if each of them can be read. -/
namespace PatchReview

namespace DetectorKind

theorem mem_all (kind : DetectorKind) : kind ∈ all := by
  cases kind <;> decide

theorem any_id_eq_false {id : String} : (!all.any (·.id == id)) = true ↔
    ∀ kind : DetectorKind, id ≠ kind.id := by
  rw [Bool.not_eq_true', List.any_eq_false]
  constructor
  · intro h kind hid
    exact h kind kind.mem_all (beq_iff_eq.2 hid.symm)
  · intro h kind _ hid
    exact h kind (beq_iff_eq.1 hid).symm

def detector (rules : RuleSet) (patterns : List ReadyPattern) : DetectorKind → Detector
  | secrets => .secrets
  | dangerous => .dangerous
  | guidelines => .guidelines rules
  | custom => .custom patterns

end DetectorKind

namespace DetectorChoice
variable {c : DetectorChoice} {rules : RuleSet} {patterns : List CustomPattern}

theorem mem_unknownIds {id : String} :
    id ∈ c.unknownIds ↔ id ∈ c.enabled.getD [] ++ c.disabled ∧ ∀ kind : DetectorKind, id ≠ kind.id := by
  rw [unknownIds, Text.mem_sortedDistinct, List.mem_filter, DetectorKind.any_id_eq_false]

theorem selects_iff {kind : DetectorKind} : c.selects kind = true ↔
    (∀ ids ∈ c.enabled, kind.id ∈ ids) ∧ kind.id ∉ c.disabled := by
  rw [selects, Bool.and_eq_true, Bool.not_eq_true', Option.all_eq_true, List.contains_eq_mem,
    decide_eq_false_iff_not]
  simp only [List.contains_eq_mem, decide_eq_true_iff]
  exact Iff.rfl

theorem detectors_eq_unknownIds {ids : List String} :
    c.detectors rules patterns = .error (.unknownIds ids) ↔ c.unknownIds = ids ∧ ids ≠ [] := by
  rw [detectors]
  split
  · next hids =>
    refine iff_of_false ?_ ?_
    · intro h
      cases hsetUp : (DetectorKind.all.filter c.selects).mapM (setUp rules patterns) <;>
        rw [hsetUp] at h <;> cases h
    · rintro ⟨rfl, hne⟩
      exact hne hids
  · next hids =>
    rw [Except.error.injEq, DetectorError.unknownIds.injEq]
    constructor
    · rintro rfl
      exact ⟨rfl, hids⟩
    · exact And.left

/-- A choice is refused if and only if it has a name that no detector bears. -/
theorem exists_unknownIds_iff :
    (∃ ids, c.detectors rules patterns = .error (.unknownIds ids)) ↔
      ∃ id ∈ c.enabled.getD [] ++ c.disabled, ∀ kind : DetectorKind, id ≠ kind.id := by
  constructor
  · rintro ⟨ids, herror⟩
    obtain ⟨hunknown, hne⟩ := detectors_eq_unknownIds.1 herror
    obtain ⟨id, hid⟩ := List.exists_mem_of_ne_nil ids hne
    rw [← hunknown, mem_unknownIds] at hid
    exact ⟨id, hid⟩
  · rintro ⟨id, hid⟩
    have hne := List.ne_nil_of_mem (mem_unknownIds.2 hid)
    exact ⟨_, detectors_eq_unknownIds.2 ⟨rfl, hne⟩⟩

theorem unknownIds_eq_nil
    (h : ∀ id ∈ c.enabled.getD [] ++ c.disabled, ∃ kind : DetectorKind, id = kind.id) :
    c.unknownIds = [] := by
  refine List.eq_nil_iff_forall_not_mem.2 ?_
  intro id hid
  obtain ⟨hlisted, hother⟩ := mem_unknownIds.1 hid
  obtain ⟨kind, hkind⟩ := h id hlisted
  exact hother kind hkind

theorem exists_ready
    (h : ∀ p ∈ patterns, ∀ text ∈ p.regex, ∃ node, Pattern.compile? text = .ok node) :
    ∃ ready, patterns.mapM CustomPattern.ready? = .ok ready := by
  refine exists_mapM_eq_ok ?_
  intro p hp
  cases hregex : p.regex with
  | none =>
    refine ⟨{ p with node := none }, ?_⟩
    rw [CustomPattern.ready?, hregex]
  | some text =>
    obtain ⟨node, hnode⟩ := h p hp text hregex
    refine ⟨{ p with node := some node }, ?_⟩
    simp only [CustomPattern.ready?, hregex, hnode, Except.map]

theorem detectors_eq_ok {ready : List ReadyPattern} (h : c.unknownIds = [])
    (hready : patterns.mapM CustomPattern.ready? = .ok ready) :
    c.detectors rules patterns =
      .ok ((DetectorKind.all.filter c.selects).map (·.detector rules ready)) := by
  have hsetUp : setUp rules patterns = fun kind => pure (kind.detector rules ready) := by
    funext kind
    cases kind with
    | secrets | dangerous | guidelines => rfl
    | custom =>
      rw [setUp, hready]
      rfl
  rw [detectors, h, hsetUp, List.mapM_pure]
  rfl

end DetectorChoice

end PatchReview
