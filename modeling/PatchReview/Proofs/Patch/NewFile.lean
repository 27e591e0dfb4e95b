import PatchReview.Proofs.Patch.RoundTrip
import PatchReview.Review.File

/-! Files that a change adds. Their diff is made of their lines, and what is read from it are these
lines with the numbers that they have in the file. -/
namespace PatchReview

/-- A file that a diff can add: its path stands in one line, and it has lines. -/
structure NewFile extends PathText where
  path_ne_empty : path ≠ ""
  path_ne_noFile : path ≠ FilePatch.noFile
  lines : List LineText
  lines_ne_nil : lines ≠ []

namespace NewFile
variable (f : NewFile)

def texts : List String := f.lines.map (·.1)

/-- The text of the file. A line feed behind the last line may be missing. -/
def content (isEnded : Bool) : String := Text.document f.texts isEnded

def diffLines : List String :=
  ["--- /dev/null", "+++ b/" ++ f.path, "@@ -0,0 +1," ++ toString f.lines.length ++ " @@"] ++
    f.texts.map ("+" ++ ·)

/-- The diff that adds the file. -/
def diff (isEnded : Bool) : String := Text.document f.diffLines isEnded

def writtenLines : List WrittenLine := f.lines.map fun l => { kind := .add, content := l }

theorem noFile_no_blank_end : ∀ c ∈ FilePatch.noFile.toList.getLast?, Text.isBlank c = false := by
  rintro _ ⟨⟩
  rfl

/-- The patch that the diff is the text of. -/
def written : WrittenPatch where
  oldPath := ⟨⟨FilePatch.noFile, by decide, by decide, noFile_no_blank_end⟩, none⟩
  newPath := ⟨f.toPathText, none⟩
  hunks := [{ oldStart := 0, newStart := 1, lines := f.writtenLines }]
  hunks_ne_nil := List.cons_ne_nil _ _

theorem oldCount_writtenLines : WrittenLine.oldCount f.writtenLines = 0 := by
  refine List.countP_eq_zero.2 ?_
  intro l hl
  obtain ⟨_, -, rfl⟩ := List.mem_map.1 hl
  exact Bool.false_ne_true

theorem newCount_writtenLines : WrittenLine.newCount f.writtenLines = f.lines.length := by
  rw [WrittenLine.newCount, List.countP_eq_length.2, writtenLines, List.length_map]
  intro l hl
  obtain ⟨_, -, rfl⟩ := List.mem_map.1 hl
  rfl

theorem texts_writtenLines : f.writtenLines.flatMap (·.texts) = f.texts.map ("+" ++ ·) := by
  have htexts : ∀ l : LineText,
      ({ kind := .add, content := l } : WrittenLine).texts = ["+" ++ l.1] := by
    intro l
    simp [WrittenLine.texts, WrittenLine.text, LineKind.mark]
  rw [writtenLines, List.flatMap_map, texts, List.map_map]
  simp only [htexts]
  exact List.map_eq_flatMap.symm

theorem texts_written : f.written.texts = f.diffLines := by
  have hold : f.written.oldPath.text "a/" = "/dev/null" := by
    change (if FilePatch.noFile = FilePatch.noFile then FilePatch.noFile else _) ++ "" = _
    rw [if_pos rfl]
    decide
  have hnew : f.written.newPath.text "b/" = "b/" ++ f.path := by
    change (if f.path = FilePatch.noFile then f.path else "b/" ++ f.path) ++ "" = _
    rw [if_neg f.path_ne_noFile, String.append_empty]
  have hheader : (f.written.hunks.flatMap (·.texts)) =
      ("@@ -0,0 +1," ++ toString f.lines.length ++ " @@") :: f.texts.map ("+" ++ ·) := by
    rw [written, List.flatMap_singleton, WrittenHunk.texts, texts_writtenLines, WrittenHunk.header,
      WrittenHunk.range, f.oldCount_writtenLines, f.newCount_writtenLines]
    have hzero : Nat.repr 0 = "0" := by decide
    have hone : Nat.repr 1 = "1" := by decide
    simp [WrittenHunk.spanText, hzero, hone, ← String.append_assoc]
  have hgit : f.written.git = none := rfl
  rw [WrittenPatch.texts, WrittenPatch.pathTexts, hgit, hold, hnew, hheader]
  simp [diffLines, ← String.append_assoc]

theorem isLine_diffLines : ∀ l ∈ f.diffLines, Text.IsLine l := by
  rw [← texts_written]
  exact f.written.isLine_texts

theorem empty_not_mem_diffLines : "" ∉ f.diffLines := by
  simp [diffLines]

/-- Reading the diff gives one patch, whether the diff ends with a line feed or not. -/
theorem ofDiff?_eq_written (isEnded : Bool) :
    FilePatch.ofDiff? (f.diff isEnded) = .ok [f.written.patch] := by
  have hlines : Text.lines (f.diff isEnded).toList = f.diffLines.map String.toList :=
    Text.lines_document (List.cons_ne_nil _ _) f.isLine_diffLines f.empty_not_mem_diffLines isEnded
  obtain ⟨r, hread, hr⟩ := DiffReader.read_diff DiffReader.hasRead_nil [f.written]
  rw [List.flatMap_singleton, texts_written] at hread
  rw [FilePatch.ofDiff?_of_read hlines hread, hr.patches]
  rfl

theorem path_patch : f.written.patch.path = f.path :=
  FilePatch.path_of_newPath rfl f.path_ne_empty f.path_ne_noFile

theorem number_writtenLines (old : Nat) (ls : List LineText) (n : Nat) :
    ((WrittenLine.number old n (ls.map fun l => { kind := .add, content := l })).filterMap
        FilePatch.addedLine?).map (fun (k, s) => (⟨(k : Nat), s⟩ : ChangedLine)) =
      ReviewFile.numberFrom n (ls.map fun l => l.1.toList) := by
  induction ls generalizing n with
  | nil => rfl
  | cons l ls ih =>
    have hl : FilePatch.addedLine? ⟨.add, l.1, none, some n⟩ = some (n, l.1) := rfl
    have hnumber : WrittenLine.number old n
        ((l :: ls).map fun l => { kind := .add, content := l }) = ⟨.add, l.1, none, some n⟩ ::
          WrittenLine.number old (n + 1) (ls.map fun l => { kind := .add, content := l }) := rfl
    rw [hnumber, List.filterMap_cons, hl, List.map_cons, ih, List.map_cons, ReviewFile.numberFrom,
      String.ofList_toList]
    rfl

/-- The lines that the patch adds are those of the file, numbered from the first. -/
theorem addedLines_patch :
    f.written.patch.addedLines.map (fun (k, s) => (⟨(k : Nat), s⟩ : ChangedLine)) =
      ReviewFile.numberFrom 1 (f.texts.map String.toList) := by
  have hhunks : f.written.patch.addedLines =
      (WrittenLine.number 0 1 f.writtenLines).filterMap FilePatch.addedLine? := by
    exact List.flatMap_singleton _ _
  rw [hhunks, texts, List.map_map]
  exact number_writtenLines 0 f.lines 1

end NewFile
end PatchReview
