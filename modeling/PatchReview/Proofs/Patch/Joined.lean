import PatchReview.Proofs.Patch.Role
import PatchReview.Proofs.Text.Lines

/-! Diffs one behind the other. The reader never looks at the patches that are complete, so it goes
on in the same way whatever stands below them, and the first header line of a diff makes everything
before it complete, however far it was read. -/
namespace PatchReview

namespace DiffReader

/-- The reader with more patches that are complete, the last one first, before its own. -/
def onTop (r : DiffReader) (before : List FilePatch) : DiffReader :=
  { r with done := r.done ++ before }

variable (r : DiffReader) (before : List FilePatch)

@[simp] theorem hunk_onTop : (r.onTop before).hunk = r.hunk := rfl

@[simp] theorem patch_onTop : (r.onTop before).patch = r.patch := rfl

@[simp] theorem current_onTop : (r.onTop before).current = r.current := rfl

@[simp] theorem expectsHeader_onTop : (r.onTop before).expectsHeader = r.expectsHeader := rfl

theorem patches_onTop : (r.onTop before).patches = before.reverse ++ r.patches := by
  rw [patches, patches, current_onTop, onTop, ← List.append_assoc, List.reverse_append]

theorem closeHunk_onTop : (r.onTop before).closeHunk = r.closeHunk.onTop before := rfl

theorem begin_onTop (p : FilePatch) :
    (r.onTop before).begin p = (r.begin p).onTop before := by
  rw [begin, begin, current_onTop, onTop, onTop, List.append_assoc]

theorem ensurePatch_onTop : (r.onTop before).ensurePatch = r.ensurePatch.onTop before := by
  rw [ensurePatch, ensurePatch, patch_onTop, begin_onTop]
  split <;> rfl

theorem readOldPath_onTop (path : String) :
    (r.onTop before).readOldPath path = (r.readOldPath path).onTop before := by
  simp only [readOldPath, closeHunk_onTop, patch_onTop, begin_onTop]
  split <;> rfl

theorem readBody_onTop (h : OpenHunk) (line : List Char) :
    (r.onTop before).readBody h line = (r.readBody h line).onTop before := by
  unfold readBody
  split
  · rfl
  · rfl
  · rfl
  · split <;> rfl
  · rfl

/-- One line is read in the same way, whatever has been read completely. -/
theorem step_onTop (line : List Char) :
    (r.onTop before).step line = (r.step line).map (·.onTop before) := by
  simp only [step, hunk_onTop, patch_onTop, expectsHeader_onTop, begin_onTop, readOldPath_onTop,
    ensurePatch_onTop, closeHunk_onTop]
  split
  · rfl
  · split
    · rfl
    · split
      · rfl
      · split
        · rfl
        · split
          · split <;> rfl
          · split
            · rfl
            · rw [readBody_onTop]
              rfl

theorem foldlM_step_onTop (ls : List (List Char)) :
    ls.foldlM step (r.onTop before) = (ls.foldlM step r).map (·.onTop before) := by
  induction ls generalizing r with
  | nil => rfl
  | cons l ls ih =>
    rw [List.foldlM_cons, List.foldlM_cons, step_onTop]
    cases r.step l with
    | error e => rfl
    | ok r' => exact ih r'

/-- A header line of version control leaves nothing open. -/
theorem begin_eq_onTop (p : FilePatch) :
    r.begin p = (({} : DiffReader).begin p).onTop (r.current.toList ++ r.done) := rfl

end DiffReader

namespace FilePatch

theorem ofLines?_append (ls : List (List Char)) {header : List Char}
    (hheader : "diff --git ".toList <+: header) (more : List (List Char)) :
    ofLines? (ls ++ header :: more) = do
      let patches ← ofLines? ls
      let others ← ofLines? (header :: more)
      return patches ++ others := by
  have hstep : ∀ r : DiffReader, r.step header = .ok (r.begin (ofGitHeader header)) :=
    fun r => r.step_of_title hheader
  rw [ofLines?, ofLines?, ofLines?, List.foldlM_append]
  cases ls.foldlM DiffReader.step {} with
  | error e => rfl
  | ok r =>
    have hrest : (header :: more).foldlM DiffReader.step r =
        ((header :: more).foldlM DiffReader.step {}).map
          (·.onTop (r.current.toList ++ r.done)) := by
      rw [List.foldlM_cons, List.foldlM_cons, hstep, hstep, DiffReader.begin_eq_onTop]
      exact DiffReader.foldlM_step_onTop _ _ more
    change ((header :: more).foldlM DiffReader.step r).map _ = _
    rw [hrest]
    cases (header :: more).foldlM DiffReader.step {} with
    | error e => rfl
    | ok r' => exact congrArg Except.ok (r'.patches_onTop _)

/-- A diff of version control behind another one is read as if it stood alone, and so is the other:
what the first leaves unfinished does not reach into the second, and the first line that is wrong is
reported. -/
theorem ofDiff?_append {diff more : String} (hdiff : diff = "" ∨ ['\n'] <:+ diff.toList)
    (hmore : "diff --git ".toList <+: more.toList) :
    ofDiff? (diff ++ more) = do
      let patches ← ofDiff? diff
      let others ← ofDiff? more
      return patches ++ others := by
  have hended : diff.toList = [] ∨ ['\n'] <:+ diff.toList :=
    hdiff.imp_left String.toList_eq_nil_iff.2
  obtain ⟨rest, hrest⟩ := hmore
  obtain ⟨header, ls, hlines, hheader⟩ :=
    Text.exists_lines_eq_cons (p := "diff --git ".toList) (by decide)
      (Text.forall_mem_of_all (by decide)) rest
  rw [ofDiff?, ofDiff?, ofDiff?, String.toList_append, Text.lines_append hended, ← hrest, hlines]
  exact ofLines?_append _ hheader ls

/-- A hunk that is cut off in the middle, and a second diff behind it. -/
theorem ofDiff?_append_cut_off :
    let diff := "--- a/x.py\n+++ b/x.py\n@@ -1,3 +1,2 @@\n one\n-two\n"
    let more := "diff --git a/y.py b/y.py\n--- a/y.py\n+++ b/y.py\n@@ -1 +1 @@\n-three\n+four"
    ['\n'] <:+ diff.toList ∧ "diff --git ".toList <+: more.toList ∧
      ofDiff? (diff ++ more) = do
        let patches ← ofDiff? diff
        let others ← ofDiff? more
        return patches ++ others := by
  intro diff more
  have hdiff : ['\n'] <:+ diff.toList := by decide
  have hmore : "diff --git ".toList <+: more.toList := by decide
  exact ⟨hdiff, hmore, ofDiff?_append (.inr hdiff) hmore⟩

end FilePatch
end PatchReview
