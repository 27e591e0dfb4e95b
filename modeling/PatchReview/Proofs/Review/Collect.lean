import PatchReview.Proofs.Except
import PatchReview.Review.Run

/-! What a run puts together. The outcome depends on the reviews that are done and on nothing else
of a run, except that a missing one marks the outcome as partial. -/
namespace PatchReview

namespace Reviewer

/-- The outcome of a run on files none of which is cut off. -/
def sequential (r : Reviewer) (history : AccuracyStore) (files : List ReviewFile) : ReviewResult :=
  (r.runFiles history {} (fun _ => true) files).result

theorem review_eq_map {r : Reviewer} {history : AccuracyStore} {inTime : ReviewFile → Bool}
    {files : List ReviewFile} (h : ∀ f ∈ files, inTime f = true) :
    r.review history inTime files = files.map fun f => some (r.reviewFile history f) := by
  refine List.map_congr_left fun f hf => ?_
  rw [if_pos (h f hf)]

theorem sequential_eq_collect (r : Reviewer) (history : AccuracyStore) (files : List ReviewFile) :
    r.sequential history files = r.collect (files.map fun f => some (r.reviewFile history f)) :=
  congrArg r.collect (review_eq_map fun _ _ => rfl)

theorem filterMap_map_some {α β : Type} (f : α → β) (xs : List α) :
    (xs.map fun x => some (f x)).filterMap id = xs.map f := by
  rw [List.filterMap_map, Function.id_comp, List.filterMap_eq_map']

/-- Missing reviews leave no trace but the mark. -/
theorem collect_eq (r : Reviewer) (reviews : List (Option FileReview)) :
    r.collect reviews = { r.collect ((reviews.filterMap id).map some) with
      isPartial := reviews.any Option.isNone } := by
  have hdone : ((reviews.filterMap id).map some).filterMap id = reviews.filterMap id :=
    (filterMap_map_some id _).trans (List.map_id _)
  rw [collect, collect, hdone]

theorem inTime_of_complete {r : Reviewer} {history : AccuracyStore} {limits : ReviewLimits}
    {inTime : ReviewFile → Bool} {files : List ReviewFile}
    (h : (r.runFiles history limits inTime files).result.isPartial = false) :
    ∀ f ∈ files, (limits.timeout.isNone || inTime f) = true := by
  intro f hf
  refine Decidable.byContradiction fun hlate => ?_
  exact List.any_eq_false.1 h none (List.mem_map.2 ⟨f, hf, if_neg hlate⟩) rfl

theorem filterMap_review (r : Reviewer) (history : AccuracyStore) (inTime : ReviewFile → Bool)
    (files : List ReviewFile) : (r.review history inTime files).filterMap id =
      (files.filter inTime).map (r.reviewFile history) := by
  induction files with
  | nil => rfl
  | cons f files ih =>
    rw [review, List.map_cons, List.filter_cons]
    cases inTime f with
    | false => exact ih
    | true => exact congrArg (r.reviewFile history f :: ·) ih

/-- A run reports each finding of each line of the files that are done as often as the detectors
do. -/
theorem findings_runFiles_perm_files (r : Reviewer) (history : AccuracyStore)
    (limits : ReviewLimits) (inTime : ReviewFile → Bool) (files : List ReviewFile) :
    (r.runFiles history limits inTime files).result.findings.Perm
      ((files.filter fun f => limits.timeout.isNone || inTime f).flatMap fun f =>
        (r.reviewFile history f).findings) := by
  rw [runFiles, collect, filterMap_review, List.flatMap_map]
  exact List.mergeSort_perm _ _

/-- A run that cut no file off is a sequential one. -/
theorem runFiles_eq_sequential {r : Reviewer} {history : AccuracyStore} {limits : ReviewLimits}
    {inTime : ReviewFile → Bool} {files : List ReviewFile}
    (h : (r.runFiles history limits inTime files).result.isPartial = false) :
    (r.runFiles history limits inTime files).result = r.sequential history files := by
  rw [sequential_eq_collect]
  exact congrArg r.collect (review_eq_map (inTime_of_complete h))

theorem runFiles_in_time (r : Reviewer) (history : AccuracyStore) (limits : ReviewLimits)
    (files : List ReviewFile) :
    (r.runFiles history limits (fun _ => true) files).result = r.sequential history files := by
  rw [sequential_eq_collect]
  exact congrArg r.collect (review_eq_map fun _ _ => Bool.or_true _)

theorem runFiles_of_unlimited {r : Reviewer} {history : AccuracyStore} {limits : ReviewLimits}
    {inTime : ReviewFile → Bool} {files : List ReviewFile} (h : limits.timeout = none) :
    (r.runFiles history limits inTime files).result = r.sequential history files := by
  rw [sequential_eq_collect, runFiles, h]
  exact congrArg r.collect (review_eq_map fun _ _ => rfl)

theorem isPartial_sequential (r : Reviewer) (history : AccuracyStore) (files : List ReviewFile) :
    (r.sequential history files).isPartial = false := by
  rw [sequential_eq_collect]
  refine List.any_eq_false.2 fun review hreview => ?_
  obtain ⟨f, -, rfl⟩ := List.mem_map.1 hreview
  exact Bool.false_ne_true

/-- The roles of the files are told from the files alone. -/
theorem files_sequential (r : Reviewer) (history : AccuracyStore) (files : List ReviewFile) :
    (r.sequential history files).files =
      files.foldl (fun done f => enterIntent (.classify f.path f.content) done) [] := by
  rw [sequential_eq_collect, collect, filterMap_map_some, List.foldl_map]
  rfl

theorem change_sequential (r : Reviewer) (history : AccuracyStore) (files : List ReviewFile) :
    (r.sequential history files).change = r.change := rfl

theorem stats_sequential (r : Reviewer) (history : AccuracyStore) (files : List ReviewFile) :
    (r.sequential history files).stats =
      FindingStats.ofFindings (r.sequential history files).findings := rfl

theorem summary_sequential (r : Reviewer) (history : AccuracyStore) (files : List ReviewFile) :
    (r.sequential history files).summary = Summary.text (r.sequential history files).findings
      (r.sequential history files).stats r.rules.tone := rfl

theorem findings_sequential (r : Reviewer) (history : AccuracyStore) (files : List ReviewFile) :
    (r.sequential history files).findings =
      Finding.sort (files.flatMap fun f => (r.reviewFile history f).findings) := by
  rw [sequential_eq_collect, collect, filterMap_map_some, List.flatMap_map]

/-- A sequential run reports each finding of each line as often as the detectors do. -/
theorem findings_sequential_perm (r : Reviewer) (history : AccuracyStore)
    (files : List ReviewFile) :
    (r.sequential history files).findings.Perm
      (files.flatMap fun f => (r.reviewFile history f).findings) := by
  rw [findings_sequential]
  exact List.mergeSort_perm _ _

theorem run_eq_ok {r : Reviewer} {history : AccuracyStore} {limits : ReviewLimits}
    {inTime : ReviewFile → Bool} {values : List Value} {run : ReviewRun} :
    r.run history limits inTime values = .ok run ↔ limits.check = .ok () ∧
      ∃ files, values.mapM ReviewFile.ofValue? = .ok files ∧
        waitFails limits inTime files = false ∧ run = r.runFiles history limits inTime files := by
  rw [Reviewer.run, bind_eq_ok]
  constructor
  · rintro ⟨⟨⟩, hlimits, h⟩
    obtain ⟨files, hfiles, h⟩ := bind_eq_ok.1 h
    obtain ⟨hwait, h⟩ := check_eq_ok.1 h
    cases h
    exact ⟨mapError_eq_ok.1 hlimits, files, mapError_eq_ok.1 hfiles, Bool.eq_false_iff.2 hwait, rfl⟩
  · rintro ⟨hlimits, files, hfiles, hwait, rfl⟩
    refine ⟨(), mapError_eq_ok.2 hlimits, ?_⟩
    refine bind_eq_ok.2 ⟨files, mapError_eq_ok.2 hfiles, ?_⟩
    exact check_eq_ok.2 ⟨Bool.eq_false_iff.1 hwait, rfl⟩

theorem waitFails_eq_true_iff {limits : ReviewLimits} {inTime : ReviewFile → Bool}
    {files : List ReviewFile} : waitFails limits inTime files = true ↔
      limits.timeoutIsTooLong = true ∧ ∃ f ∈ files, inTime f = false := by
  rw [waitFails, Bool.and_eq_true, Bool.not_eq_true', List.all_eq_false]
  simp only [Bool.not_eq_true]

theorem waitFails_in_time (limits : ReviewLimits) (files : List ReviewFile) :
    waitFails limits (fun _ => true) files = false := by
  refine Bool.eq_false_iff.2 fun h => ?_
  obtain ⟨-, f, -, hf⟩ := waitFails_eq_true_iff.1 h
  cases hf

theorem run_eq_wait {r : Reviewer} {history : AccuracyStore} {limits : ReviewLimits}
    {inTime : ReviewFile → Bool} {values : List Value} {files : List ReviewFile}
    (hlimits : limits.check = .ok ()) (hfiles : values.mapM ReviewFile.ofValue? = .ok files)
    (hwait : waitFails limits inTime files = true) :
    r.run history limits inTime values = .error .wait := by
  rw [run, hlimits, hfiles]
  exact if_pos hwait

end Reviewer
end PatchReview
