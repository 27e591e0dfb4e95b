import PatchReview.Proofs.Distinct
import PatchReview.Proofs.Finding.Order
import PatchReview.Proofs.Review.Collect

/-! Reviews of parts. A line is reviewed by itself, so what a run finds in several files, or on the
lines of one file, is what separate runs find in the parts, put in order once more. The order of the
files shows only among findings that stand at one level, and in the list of roles. -/
namespace PatchReview

namespace FindingStats

instance : Add FindingStats where
  add a b :=
    { total := a.total + b.total
      bugs := a.bugs + b.bugs
      refactors := a.refactors + b.refactors
      suggestions := a.suggestions + b.suggestions
      critical := a.critical + b.critical
      high := a.high + b.high
      medium := a.medium + b.medium
      low := a.low + b.low }

theorem ofFindings_append (xs ys : List Finding) :
    ofFindings (xs ++ ys) = ofFindings xs + ofFindings ys := by
  simp only [ofFindings, List.length_append, List.countP_append]
  rfl

end FindingStats

section Summary
variable {xs ys : List Finding}

theorem totalConfidence_cons (x : Finding) (xs : List Finding) :
    totalConfidence (x :: xs) = x.confidence + totalConfidence xs := rfl

theorem totalConfidence_perm (h : xs.Perm ys) : totalConfidence xs = totalConfidence ys := by
  induction h with
  | nil => rfl
  | cons x _ ih => rw [totalConfidence_cons, totalConfidence_cons, ih]
  | swap x y xs =>
    simp only [totalConfidence_cons]
    omega
  | trans _ _ ih ih' => exact ih.trans ih'

theorem averageConfidence_perm (h : xs.Perm ys) : averageConfidence xs = averageConfidence ys := by
  rw [averageConfidence, averageConfidence, totalConfidence_perm h, h.isEmpty_eq, h.length_eq]

theorem Summary.body_perm (h : xs.Perm ys) (stats : FindingStats) :
    Summary.body xs stats = Summary.body ys stats := by
  unfold Summary.body
  rw [averageConfidence_perm h, h.isEmpty_eq]

theorem Summary.text_perm (h : xs.Perm ys) (stats : FindingStats) (tone : String) :
    Summary.text xs stats tone = Summary.text ys stats tone := by
  unfold Summary.text
  rw [body_perm h stats]

end Summary

attribute [ext] ReviewResult

namespace Reviewer

section Roles
variable {intent : FileIntent} {roles : List (String × FileIntent)}

theorem lookup_enterIntent (intent : FileIntent) (roles : List (String × FileIntent))
    (path : String) : (enterIntent intent roles).lookup path =
      if path = intent.path then some intent else roles.lookup path := by
  induction roles with
  | nil =>
    rw [enterIntent, List.lookup_cons]
    by_cases hpath : path = intent.path
    · rw [if_pos hpath, beq_iff_eq.2 hpath]
    · rw [if_neg hpath, beq_eq_false_iff_ne.2 hpath]
  | cons role roles ih =>
    rw [enterIntent, List.lookup_cons]
    by_cases hrole : role.1 = intent.path
    · rw [if_pos hrole, List.lookup_cons, hrole]
      by_cases hpath : path = intent.path
      · rw [if_pos hpath, beq_iff_eq.2 hpath]
      · rw [if_neg hpath, beq_eq_false_iff_ne.2 hpath]
    · rw [if_neg hrole, List.lookup_cons, ih]
      by_cases hpath : path = intent.path
      · have hother : path ≠ role.1 := fun h => hrole (h.symm.trans hpath)
        rw [if_pos hpath, if_pos hpath, beq_eq_false_iff_ne.2 hother]
      · rw [if_neg hpath, if_neg hpath]

/-- A role stands where its path comes first. -/
theorem paths_enterIntent (intent : FileIntent) (roles : List (String × FileIntent)) :
    (enterIntent intent roles).map (·.1) =
      if intent.path ∈ roles.map (·.1) then roles.map (·.1)
      else roles.map (·.1) ++ [intent.path] := by
  induction roles with
  | nil => rfl
  | cons role roles ih =>
    obtain ⟨p, i⟩ := role
    rw [enterIntent]
    by_cases hp : p = intent.path
    · simp [hp]
    · rw [if_neg hp, List.map_cons, List.map_cons, ih]
      by_cases hmem : intent.path ∈ roles.map (·.1)
      · rw [if_pos hmem, if_pos (List.mem_cons_of_mem p hmem)]
      · have hmem' : intent.path ∉ p :: roles.map (·.1) := by
          rw [List.mem_cons, not_or]
          exact ⟨Ne.symm hp, hmem⟩
        rw [if_neg hmem, if_neg hmem', List.cons_append]

theorem enterIntent_enterIntent (intent : FileIntent) (roles : List (String × FileIntent)) :
    enterIntent intent (enterIntent intent roles) = enterIntent intent roles := by
  induction roles with
  | nil => simp [enterIntent]
  | cons role roles ih =>
    obtain ⟨p, i⟩ := role
    by_cases hp : p = intent.path <;> simp [enterIntent, hp, ih]

def enterRoles (files : List ReviewFile) (roles : List (String × FileIntent)) :
    List (String × FileIntent) :=
  files.foldl (fun done f => enterIntent (.classify f.path f.content) done) roles

theorem enterRoles_append (files more : List ReviewFile) (roles : List (String × FileIntent)) :
    enterRoles (files ++ more) roles = enterRoles more (enterRoles files roles) :=
  List.foldl_append

theorem paths_enterRoles (files : List ReviewFile) :
    (enterRoles files []).map (·.1) = (files.map (·.path)).eraseDups := by
  induction files using List.reverseRecOn with
  | nil => rfl
  | append_singleton files f ih =>
    rw [enterRoles_append, List.map_append, List.map_singleton, eraseDups_concat]
    change (enterIntent _ _).map (·.1) = _
    rw [paths_enterIntent, ih]
    exact if_congr List.mem_eraseDups rfl rfl

theorem lookup_enterRoles (files : List ReviewFile) (path : String) :
    (enterRoles files roles).lookup path =
      ((enterRoles files []).lookup path).or (roles.lookup path) := by
  induction files using List.reverseRecOn with
  | nil => rfl
  | append_singleton files f ih =>
    rw [enterRoles_append, enterRoles_append]
    change (enterIntent _ _).lookup path = ((enterIntent _ _).lookup path).or _
    rw [lookup_enterIntent, lookup_enterIntent, ih]
    split <;> rfl

theorem files_sequential_eq (r : Reviewer) (history : AccuracyStore) (files : List ReviewFile) :
    (r.sequential history files).files = enterRoles files [] := files_sequential r history files

end Roles

section Parts
variable (r : Reviewer) (history : AccuracyStore)

theorem findings_sequential_append (files more : List ReviewFile) :
    (r.sequential history (files ++ more)).findings =
      Finding.sort
        ((r.sequential history files).findings ++ (r.sequential history more).findings) := by
  rw [findings_sequential, findings_sequential, findings_sequential, Finding.sort_append,
    List.flatMap_append]

theorem stats_sequential_append (files more : List ReviewFile) :
    (r.sequential history (files ++ more)).stats =
      (r.sequential history files).stats + (r.sequential history more).stats := by
  rw [stats_sequential, stats_sequential, stats_sequential, findings_sequential_append,
    FindingStats.ofFindings_perm (Finding.sort_perm _), FindingStats.ofFindings_append]

/-- The findings, in the order in which they are made, and the roles tell the outcome. -/
theorem sequential_congr {files files' : List ReviewFile}
    (hfindings : (files.flatMap fun f => (r.reviewFile history f).findings) =
      files'.flatMap fun f => (r.reviewFile history f).findings)
    (hroles : enterRoles files [] = enterRoles files' []) :
    r.sequential history files = r.sequential history files' := by
  have hsorted : (r.sequential history files).findings =
      (r.sequential history files').findings := by
    rw [findings_sequential, findings_sequential, hfindings]
  have hstats : (r.sequential history files).stats = (r.sequential history files').stats := by
    rw [stats_sequential, stats_sequential, hsorted]
  refine ReviewResult.ext hsorted ?_ hstats rfl ?_ ?_
  · rw [summary_sequential, summary_sequential, hstats, hsorted]
  · rw [files_sequential_eq, files_sequential_eq, hroles]
  · rw [isPartial_sequential, isPartial_sequential]

/-- The lines under review may be handed over in two parts. -/
theorem sequential_split_lines (before after : List ReviewFile) (path content : String)
    (lines more : List ChangedLine) :
    r.sequential history (before ++ ⟨path, content, some (lines ++ more)⟩ :: after) =
      r.sequential history
        (before ++ ⟨path, content, some lines⟩ :: ⟨path, content, some more⟩ :: after) := by
  refine sequential_congr r history ?_ ?_
  · have hlines : (r.reviewFile history ⟨path, content, some (lines ++ more)⟩).findings =
        (r.reviewFile history ⟨path, content, some lines⟩).findings ++
          (r.reviewFile history ⟨path, content, some more⟩).findings :=
      List.flatMap_append
    simp only [List.flatMap_append, List.flatMap_cons, hlines, List.append_assoc]
  · rw [enterRoles_append, enterRoles_append]
    exact congrArg (enterRoles after) (enterIntent_enterIntent _ _).symm

/-- Files in another order give the same numbers and the same summary, and at each place of the
report a finding of the same level. -/
theorem sequential_perm {files files' : List ReviewFile} (h : files.Perm files') :
    (r.sequential history files).stats = (r.sequential history files').stats ∧
    (r.sequential history files).summary = (r.sequential history files').summary ∧
    (r.sequential history files).findings.map Finding.rank =
      (r.sequential history files').findings.map Finding.rank ∧
    (r.sequential history files).findings.Perm (r.sequential history files').findings := by
  have hmade := h.flatMap_right fun f => (r.reviewFile history f).findings
  have hfindings : (r.sequential history files).findings.Perm
      (r.sequential history files').findings :=
    (r.findings_sequential_perm history files).trans
      (hmade.trans (r.findings_sequential_perm history files').symm)
  have hstats : (r.sequential history files).stats = (r.sequential history files').stats :=
    FindingStats.ofFindings_perm hfindings
  refine ⟨hstats, ?_, ?_, hfindings⟩
  · rw [summary_sequential, summary_sequential, hstats]
    exact Summary.text_perm hfindings _ _
  · rw [findings_sequential, findings_sequential]
    exact Finding.map_rank_sort_of_perm hmade

/-- A sequential review of well-formed files has an outcome, and it is additive. What it reports of
two lists of files are the reports of each, put in order once more; the numbers are the sums, and
the roles of the second list come after or in place of those of the first. Lines under review may be
handed over in two parts. The order of the files shows only among findings at one level and in the
list of roles. -/
theorem run_additive :
    (∀ values files, values.mapM ReviewFile.ofValue? = .ok files → ∀ inTime, ∃ run,
      r.run history {} inTime values = .ok run ∧ run.result = r.sequential history files) ∧
    (∀ files more,
      let a := r.sequential history files
      let b := r.sequential history more
      let c := r.sequential history (files ++ more)
      c.findings = Finding.sort (a.findings ++ b.findings) ∧ c.stats = a.stats + b.stats ∧
      c.files.map (·.1) = (a.files.map (·.1) ++ b.files.map (·.1)).eraseDups ∧
      ∀ path, c.files.lookup path = (b.files.lookup path).or (a.files.lookup path)) ∧
    (∀ before after path content lines more,
      r.sequential history (before ++ ⟨path, content, some (lines ++ more)⟩ :: after) =
        r.sequential history
          (before ++ ⟨path, content, some lines⟩ :: ⟨path, content, some more⟩ :: after)) ∧
    (∀ files files', files.Perm files' →
      let a := r.sequential history files
      let b := r.sequential history files'
      a.stats = b.stats ∧ a.summary = b.summary ∧
      a.findings.map Finding.rank = b.findings.map Finding.rank ∧ a.findings.Perm b.findings) := by
  refine ⟨?_, ?_, sequential_split_lines r history, fun _ _ h => sequential_perm r history h⟩
  · intro values files hfiles inTime
    exact ⟨_, run_eq_ok.2 ⟨rfl, files, hfiles, rfl, rfl⟩, rfl⟩
  · intro files more
    refine ⟨findings_sequential_append r history files more,
      stats_sequential_append r history files more, ?_, ?_⟩
    · simp only [files_sequential_eq, paths_enterRoles, List.map_append, eraseDups_append_eraseDups]
    · intro path
      rw [files_sequential_eq, files_sequential_eq, files_sequential_eq, enterRoles_append]
      exact lookup_enterRoles more path

/-- Two files are reviewed as one list, in either order, or one of them line by line. -/
theorem run_additive_of_two_files :
    let r : Reviewer := { rules := {}, detectors := [.secrets] }
    let a : ReviewFile := ⟨"a.py", "", some [⟨1, "token = 'x'"⟩, ⟨2, "password = 'y'"⟩]⟩
    let b : ReviewFile := ⟨"b.py", "secret = 'z'", none⟩
    let b' : Value := .table [("path", .text "b.py"), ("content", .text "secret = 'z'")]
    (∃ run, r.run {} {} (fun _ => true) [b'] = .ok run ∧ run.result = r.sequential {} [b]) ∧
    (r.sequential {} [a, b]).stats = (r.sequential {} [a]).stats + (r.sequential {} [b]).stats ∧
    r.sequential {} [a, b] = r.sequential {} [⟨"a.py", "", some [⟨1, "token = 'x'"⟩]⟩,
      ⟨"a.py", "", some [⟨2, "password = 'y'"⟩]⟩, b] ∧
    (r.sequential {} [a, b]).summary = (r.sequential {} [b, a]).summary := by
  intro r a b b'
  obtain ⟨hrun, happend, hsplit, hperm⟩ := run_additive r {}
  refine ⟨hrun [b'] [b] rfl _, (happend [a] [b]).2.1, ?_, (hperm [a, b] [b, a] (.swap b a [])).2.1⟩
  exact hsplit [] [b] "a.py" "" [⟨1, "token = 'x'"⟩] [⟨2, "password = 'y'"⟩]

end Parts
end Reviewer
end PatchReview
