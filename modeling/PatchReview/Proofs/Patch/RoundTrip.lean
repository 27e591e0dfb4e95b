import PatchReview.Proofs.Patch.Reading
import PatchReview.Proofs.Patch.Role

/-! Reading a diff that was written gives back the patches it was written from. What the reader
knows between two patches is an invariant: it has the patches read so far, it expects a header, and
the last patch has a hunk, so that a path begins a new one. -/
namespace PatchReview

namespace DiffReader

/-- The reader has read patches with hunks and nothing of another one. -/
structure HasRead (r : DiffReader) (ps : List FilePatch) : Prop where
  patches : r.patches = ps
  expectsHeader : r.expectsHeader = true
  hunks_ne_nil : ∀ p ∈ r.current, p.hunks ≠ []

theorem hasRead_nil : HasRead {} [] := ⟨rfl, rfl, fun _ hp => by cases hp⟩

@[simp] theorem begin_closeHunk (r : DiffReader) (p : FilePatch) :
    r.closeHunk.begin p = r.begin p := by
  rw [begin, closeHunk, current_closed, begin]

/-- The reader in front of the hunks of a patch that comes behind those of `r`. -/
def atHunks (r : DiffReader) (w : WrittenPatch) : DiffReader where
  done := r.current.toList ++ r.done
  patch := some { oldPath := some w.oldPath.path, newPath := some w.newPath.path }

theorem step_oldText {r : DiffReader} (hr : r.expectsHeader = true) (s : String) :
    r.step ("--- " ++ s).toList = .ok (r.readOldPath (FilePatch.headerPath s.toList)) := by
  have htext : ("--- " ++ s).toList = '-' :: '-' :: '-' :: ' ' :: s.toList := String.toList_append
  have hgit : "diff --git ".toList.isPrefixOf ("--- " ++ s).toList = false :=
    isPrefixOf_eq_false (c := 'd') (by rw [htext]; simp)
  have hold : "--- ".toList.isPrefixOf ("--- " ++ s).toList = true := by rw [htext]; rfl
  have hpath : ("--- " ++ s).toList.drop 4 = s.toList := by rw [htext]; rfl
  simp only [step, hgit, hold, hr, hpath, Bool.and_true, Bool.false_eq_true, if_false, if_true]

theorem step_newText {r : DiffReader} {q : FilePatch} (hr : r.hunk = none) (hq : r.patch = some q)
    (s : String) : r.step ("+++ " ++ s).toList =
      .ok { r with patch := some { q with newPath := some (FilePatch.headerPath s.toList) } } := by
  have htext : ("+++ " ++ s).toList = '+' :: '+' :: '+' :: ' ' :: s.toList := String.toList_append
  have hgit : "diff --git ".toList.isPrefixOf ("+++ " ++ s).toList = false :=
    isPrefixOf_eq_false (c := 'd') (by rw [htext]; simp)
  have hold : "--- ".toList.isPrefixOf ("+++ " ++ s).toList = false :=
    isPrefixOf_eq_false (c := '-') (by rw [htext]; simp)
  have hnew : "+++ ".toList.isPrefixOf ("+++ " ++ s).toList = true := by rw [htext]; rfl
  have hpath : ("+++ " ++ s).toList.drop 4 = s.toList := by rw [htext]; rfl
  simp only [step, hgit, hold, hnew, hr, hq, hpath, Bool.false_and, Bool.true_and,
    Bool.false_eq_true, if_false, if_true, Option.isNone_none, Option.isSome_some, Option.map_some]

theorem step_oldPath {r : DiffReader} (hr : r.expectsHeader = true) (p : WrittenPath) :
    r.step ("--- " ++ p.text "a/").toList = .ok (r.readOldPath p.path) := by
  have hpath : FilePatch.headerPath (p.text "a/").toList = p.path := p.headerPath_text (.inl rfl)
  rw [step_oldText hr, hpath]

theorem step_newPath {r : DiffReader} {q : FilePatch} (hr : r.hunk = none) (hq : r.patch = some q)
    (p : WrittenPath) :
    r.step ("+++ " ++ p.text "b/").toList =
      .ok { r with patch := some { q with newPath := some p.path } } := by
  have hpath : FilePatch.headerPath (p.text "b/").toList = p.path := p.headerPath_text (.inr rfl)
  rw [step_newText hr hq, hpath]

/-- Without lines above them, the paths begin a patch of their own. -/
theorem read_pathTexts {r : DiffReader} {ps : List FilePatch} (h : r.HasRead ps)
    (w : WrittenPatch) : r.read w.pathTexts = .ok (r.atHunks w) := by
  have hclosed : r.closeHunk.patch.any (·.hunks.isEmpty) = false := by
    cases hc : r.current with
    | none => simp [closeHunk, hc]
    | some p => simp [closeHunk, hc, h.hunks_ne_nil p hc]
  rw [WrittenPatch.pathTexts, read_cons (step_oldPath h.expectsHeader w.oldPath), readOldPath,
    hclosed, if_neg Bool.false_ne_true, begin_closeHunk, read_cons (step_newPath rfl rfl w.newPath)]
  rfl

theorem not_isPrefixOf_append {p k : List Char} (hpk : ¬ p <+: k) (hkp : ¬ k <+: p)
    (s : List Char) : p.isPrefixOf (k ++ s) = false := by
  rw [Bool.eq_false_iff, Ne, List.isPrefixOf_iff_prefix]
  intro h
  rcases List.prefix_or_prefix_of_prefix h (List.prefix_append k s) with h | h
  · exact hpk h
  · exact hkp h

/-- Notes above a hunk are passed over: their words are not those of a header. -/
theorem step_gitNote {r : DiffReader} (hr : r.hunk = none) (note : GitNoteKind × LineText) :
    r.step (GitHeader.noteText note).toList = .ok r := by
  have hwords : ∀ p ∈ ["diff --git ", "--- ", "+++ ", "Binary files ", "@@"],
      p.toList.isPrefixOf (note.1.keyword.toList ++ note.2.1.toList) = false := by
    intro p hp
    have hwords : ¬ p.toList <+: note.1.keyword.toList ∧ ¬ note.1.keyword.toList <+: p.toList := by
      revert p
      cases note.1 <;> decide
    exact not_isPrefixOf_append hwords.1 hwords.2 _
  have hgit := hwords "diff --git " (by simp)
  have hold := hwords "--- " (by simp)
  have hnew := hwords "+++ " (by simp)
  have hbinary := hwords "Binary files " (by simp)
  have hhunk := hwords "@@" (by simp)
  rw [GitHeader.noteText, String.toList_append]
  simp only [step, hgit, hold, hnew, hbinary, hhunk, hr, Bool.false_and, Bool.false_eq_true,
    if_false]

theorem read_gitNotes {r : DiffReader} (hr : r.hunk = none) (notes : List (GitNoteKind × LineText)) :
    r.read (notes.map GitHeader.noteText) = .ok r := by
  induction notes with
  | nil => rfl
  | cons note notes ih => rw [List.map_cons, read_cons (step_gitNote hr note), ih]

/-- A title begins a patch, and the notes below it change nothing. -/
theorem read_title (r : DiffReader) {title : String} (h : "diff --git ".toList <+: title.toList)
    (notes : List (GitNoteKind × LineText)) :
    r.read (title :: notes.map GitHeader.noteText) =
      .ok (r.begin (FilePatch.ofGitHeader title.toList)) := by
  rw [read_cons (r.step_of_title h)]
  exact read_gitNotes rfl notes

/-- The paths replace what the title told. -/
theorem read_paths (r : DiffReader) {q : FilePatch} (hq : q.hunks = []) (old new : String) :
    (r.begin q).read ["--- " ++ old, "+++ " ++ new] = .ok (r.begin { q with
      oldPath := some (FilePatch.headerPath old.toList)
      newPath := some (FilePatch.headerPath new.toList) }) := by
  have hold : (r.begin q).readOldPath (FilePatch.headerPath old.toList) =
      r.begin { q with oldPath := some (FilePatch.headerPath old.toList) } := by
    have hempty : (r.begin q).closeHunk.patch.any (·.hunks.isEmpty) = true := by
      rw [closeHunk, begin, current_closed, Option.any_some, hq, List.isEmpty_nil]
    rw [readOldPath, hempty, if_pos rfl]
    rfl
  rw [read_cons (step_oldText rfl old), hold, read_cons (step_newText rfl rfl new)]
  rfl

/-- The lines of version control begin a patch. -/
theorem read_git (r : DiffReader) (g : GitHeader) (w : WrittenPatch) :
    r.read (g.texts ++ w.pathTexts) = .ok (r.atHunks w) := by
  have htitle : "diff --git ".toList <+: g.title.toList := by
    rw [GitHeader.title, String.toList_append]
    exact List.prefix_append _ _
  have hold : FilePatch.headerPath (w.oldPath.text "a/").toList = w.oldPath.path :=
    w.oldPath.headerPath_text (.inl rfl)
  have hnew : FilePatch.headerPath (w.newPath.text "b/").toList = w.newPath.path :=
    w.newPath.headerPath_text (.inr rfl)
  rw [GitHeader.texts, read_append (r.read_title htitle g.notes), WrittenPatch.pathTexts,
    r.read_paths rfl, hold, hnew]
  rfl

theorem read_patch {r : DiffReader} {ps : List FilePatch} (h : r.HasRead ps) (w : WrittenPatch) :
    ∃ r', r.read w.texts = .ok r' ∧ r'.HasRead (ps ++ [w.patch]) := by
  have hpaths : r.read ((w.git.map (·.texts)).getD [] ++ w.pathTexts) = .ok (r.atHunks w) := by
    cases w.git with
    | none => exact read_pathTexts h w
    | some g => exact read_git r g w
  obtain ⟨r', hread, hdone, hcurrent, hexp⟩ := read_hunks (r := r.atHunks w) rfl rfl w.hunks
  refine ⟨r', ?_, ?_, hexp, ?_⟩
  · rw [WrittenPatch.texts, read_append hpaths, hread]
  · rw [patches, hcurrent, hdone, ← h.patches, patches]
    simp [atHunks, WrittenPatch.patch]
  · intro p hp
    rw [hcurrent] at hp
    obtain rfl := Option.some.inj hp
    simpa using w.hunks_ne_nil

theorem read_diff {r : DiffReader} {ps : List FilePatch} (h : r.HasRead ps)
    (ws : List WrittenPatch) :
    ∃ r', r.read (ws.flatMap (·.texts)) = .ok r' ∧ r'.HasRead (ps ++ ws.map (·.patch)) := by
  induction ws generalizing r ps with
  | nil => exact ⟨r, rfl, by rwa [List.map_nil, List.append_nil]⟩
  | cons w ws ih =>
      obtain ⟨r₁, hread₁, h₁⟩ := read_patch h w
      obtain ⟨r₂, hread₂, h₂⟩ := ih h₁
      refine ⟨r₂, by rw [List.flatMap_cons, read_append hread₁, hread₂], ?_⟩
      rwa [List.map_cons, List.append_cons]

end DiffReader

/-- Reading a diff gives back the patches that it was written from. -/
theorem FilePatch.ofDiff?_diff (ws : List WrittenPatch) :
    FilePatch.ofDiff? (WrittenPatch.diff ws) = .ok (ws.map (·.patch)) := by
  have hlines : Text.lines (WrittenPatch.diff ws).toList =
      (ws.flatMap (·.texts)).map String.toList := by
    refine Text.lines_unlines fun t ht => ?_
    obtain ⟨w, -, ht⟩ := List.mem_flatMap.1 ht
    exact w.isLine_texts t ht
  obtain ⟨r, hread, hr⟩ := DiffReader.read_diff DiffReader.hasRead_nil ws
  rw [ofDiff?_of_read hlines hread, hr.patches, List.nil_append]

example : FilePatch.ofDiff? "--- a/x\n+++ /dev/null\n@@ -1,2 +0,0 @@\n--- y\n-@@\n" =
    .ok [⟨"x", "/dev/null", [⟨⟨1, 2, 0, 0⟩, [⟨.delete, "-- y", some 1, none⟩,
      ⟨.delete, "@@", some 2, none⟩]⟩], false⟩] := by rfl

end PatchReview
