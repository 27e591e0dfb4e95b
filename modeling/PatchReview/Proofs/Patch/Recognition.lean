import Mathlib.Data.List.TakeWhile
import PatchReview.Patch.Selection
import PatchReview.Proofs.Patch.Change
import PatchReview.Proofs.Patch.RoundTrip

/-! Which changes the reader recognises as the creation or the deletion of a file. Only the paths
tell, so it is those in which some text changes. Without text, the paths are the third and the
fourth word of the title, whatever the notes below it say. -/
namespace PatchReview

namespace FilePatch

theorem ofList_eq_noFile (s : List Char) :
    (some (String.ofList s) == some noFile) = (s == noFile.toList) := by
  rw [Bool.eq_iff_iff, beq_iff_eq, beq_iff_eq, Option.some.injEq, ← String.toList_inj,
    String.toList_ofList]

/-- What is read as the path of a missing file starts with a slash, or has two of them behind the
letter of a side. -/
theorem exists_isPrefix_of_stripSide {s : List Char} (h : stripSide s = noFile.toList) :
    ∃ p ∈ ["/", "a//", "b//"], p.toList <+: s := by
  fun_cases stripSide s with
  | case1 rest =>
    obtain rfl : rest = noFile.toList := h
    exact ⟨"a//", by decide, by decide⟩
  | case2 rest =>
    obtain rfl : rest = noFile.toList := h
    exact ⟨"b//", by decide, by decide⟩
  | case3 s ha hb =>
    have hs : stripSide s = s := stripSide.eq_3 s ha hb
    rw [hs] at h
    exact ⟨"/", by decide, h ▸ by decide⟩

end FilePatch

namespace RepoName
variable (n : RepoName) {side : String}

theorem not_isPrefix_text (hside : side ∈ ["a/", "b/"]) :
    ∀ p ∈ ["/", "a//", "b//"], ¬ p.toList <+: (n.text side).toList := by
  obtain ⟨hne, hhead⟩ := n.head?_escaped
  obtain ⟨d, ds, hescaped⟩ := List.exists_cons_of_ne_nil hne
  rw [hescaped, List.head?_cons, Ne, Option.some.injEq] at hhead
  have hd : '/' ≠ d := Ne.symm hhead
  have hside : side = "a/" ∨ side = "b/" := by simpa using hside
  rw [text]
  rcases hside with rfl | rfl <;> split <;>
    simp [String.toList_append, hescaped, List.cons_prefix_cons, hd]

/-- Neither a name nor a part that it starts with is read as the path of a missing file. -/
theorem stripSide_ne_noFile (hside : side ∈ ["a/", "b/"]) {s : List Char}
    (hs : s <+: (n.text side).toList) : FilePatch.stripSide s ≠ FilePatch.noFile.toList := by
  intro h
  obtain ⟨p, hp, hstart⟩ := FilePatch.exists_isPrefix_of_stripSide h
  exact n.not_isPrefix_text hside p hp (hstart.trans hs)

/-- No name is indented. -/
theorem isBlank_head?_text (hside : side ∈ ["a/", "b/"]) :
    ∀ c ∈ (n.text side).toList.head?, Text.isBlank c = false := by
  have hside : side = "a/" ∨ side = "b/" := by simpa using hside
  rw [text]
  rcases hside with rfl | rfl <;> split <;> simp [String.toList_append] <;> decide

theorem headerPath_pathText (hside : side ∈ ["a/", "b/"]) :
    FilePatch.headerPath (n.pathText side).toList =
      String.ofList (FilePatch.stripSide (Text.trim (n.text side).toList)) := by
  have htab : ∀ c ∈ (n.text side).toList, (c != '\t') = true := fun c hc =>
    bne_iff_ne.2 (n.isPrintable_text (List.mem_cons_of_mem _ hside) c hc).ne_tab
  have htake : (n.pathText side).toList.takeWhile (· != '\t') = (n.text side).toList := by
    rw [pathText]
    split
    · rw [String.toList_append, List.takeWhile_append_of_pos htab]
      exact List.append_nil _
    · exact List.takeWhile_eq_self_iff.2 htab
  rw [FilePatch.headerPath, htake]

theorem headerPath_pathText_ne (hside : side ∈ ["a/", "b/"]) :
    FilePatch.headerPath (n.pathText side).toList ≠ FilePatch.noFile := by
  rw [n.headerPath_pathText hside]
  intro h
  have hstrip := congrArg String.toList h
  rw [String.toList_ofList] at hstrip
  exact n.stripSide_ne_noFile hside (Text.trim_isPrefix (n.isBlank_head?_text hside)) hstrip

/-- The path of a missing file is read as such, and no other path is. -/
theorem headerPath_eq_noFile (hside : side ∈ ["a/", "b/"]) (isMissing : Bool) :
    (some (FilePatch.headerPath
      (if isMissing then FilePatch.noFile else n.pathText side).toList) ==
        some FilePatch.noFile) = isMissing := by
  cases isMissing with
  | true =>
    rw [if_pos rfl]
    decide
  | false =>
    rw [if_neg Bool.false_ne_true, beq_eq_false_iff_ne, Ne, Option.some.injEq]
    exact n.headerPath_pathText_ne hside

end RepoName

/-! The words of a title -/

namespace FileChange
variable (c : FileChange)

/-- The words of the names. -/
def words : List (List Char) :=
  Text.splitAt ' ' (c.oldName.text "a/").toList ++ Text.splitAt ' ' (c.newName.text "b/").toList

theorem ofGitHeader_title : FilePatch.ofGitHeader c.title.toList =
    { oldPath := c.words[0]?.map fun w => String.ofList (FilePatch.stripSide w)
      newPath := c.words[1]?.map fun w => String.ofList (FilePatch.stripSide w) } := by
  have htitle : c.title.toList = "diff".toList ++ ' ' :: ("--git".toList ++ ' ' ::
      ((c.oldName.text "a/").toList ++ ' ' :: (c.newName.text "b/").toList)) := by
    simp [title, String.toList_append]
  have hwords : Text.splitAt ' ' c.title.toList = "diff".toList :: "--git".toList :: c.words := by
    rw [htitle, Text.splitAt_append_sep, Text.splitAt_append_sep, Text.splitAt_append_sep,
      Text.splitAt_of_not_mem (by decide), Text.splitAt_of_not_mem (by decide)]
    rfl
  rw [FilePatch.ofGitHeader, hwords]
  rfl

end FileChange

namespace RepoName
variable (n : RepoName)

/-- The second word of the name, as it stands in a text, is read as the path of a missing file. -/
def showsNoFile : Bool :=
  (Text.splitAt ' ' (n.text "a/").toList)[1]?.any fun w =>
    FilePatch.stripSide w == FilePatch.noFile.toList

theorem exists_words (side : String) : ∃ first rest,
    Text.splitAt ' ' (n.text side).toList = first :: rest ∧ first <+: (n.text side).toList := by
  have hne : Text.splitAt ' ' (n.text side).toList ≠ [] := Text.splitAt_ne_nil _
  obtain ⟨first, rest, hwords⟩ := List.exists_cons_of_ne_nil hne
  exact ⟨first, rest, hwords, Text.isPrefix_of_splitAt_eq_cons hwords⟩

end RepoName

namespace FileChange
variable (c : FileChange)

/-- The patch that the reader makes of the change. -/
def patch : FilePatch :=
  if c.hunks.isEmpty then FilePatch.ofGitHeader c.title.toList
  else
    { oldPath := some (FilePatch.headerPath c.oldText.toList)
      newPath := some (FilePatch.headerPath c.newText.toList)
      hunks := c.hunks.map (·.hunk) }

def seemsCreated : Bool := c.isCreation && !c.hunks.isEmpty

def seemsDeleted : Bool := if c.hunks.isEmpty then c.oldName.showsNoFile else c.isDeletion

theorem isBinary_patch : c.patch.isBinary = false := by
  rw [patch]
  split <;> rfl

/-- The first word of a name is no path of a missing file. -/
theorem isNew_ofGitHeader : (FilePatch.ofGitHeader c.title.toList).isNew = false := by
  obtain ⟨first, rest, hold, hstart⟩ := c.oldName.exists_words "a/"
  have hword : c.words[0]? = some first := by rw [words, hold]; rfl
  rw [ofGitHeader_title, FilePatch.isNew, hword, Option.map_some, FilePatch.ofList_eq_noFile,
    beq_eq_false_iff_ne]
  exact c.oldName.stripSide_ne_noFile (by decide) hstart

/-- The second word is that of the old name, or else the first one of the new name. -/
theorem isDeleted_ofGitHeader :
    (FilePatch.ofGitHeader c.title.toList).isDeleted = c.oldName.showsNoFile := by
  obtain ⟨first, rest, hold, -⟩ := c.oldName.exists_words "a/"
  rw [ofGitHeader_title, FilePatch.isDeleted, RepoName.showsNoFile, hold]
  -- A name of one word leaves the next word of the title to the new name, which shows no such path.
  cases rest with
  | nil =>
    obtain ⟨second, rest, hnew, hstart⟩ := c.newName.exists_words "b/"
    have hword : c.words[1]? = some second := by rw [words, hold, hnew]; rfl
    rw [hword, Option.map_some, FilePatch.ofList_eq_noFile]
    exact beq_eq_false_iff_ne.2 (c.newName.stripSide_ne_noFile (by decide) hstart)
  | cons second rest =>
    have hword : c.words[1]? = some second := by rw [words, hold]; rfl
    rw [hword, Option.map_some, FilePatch.ofList_eq_noFile]
    rfl

theorem isNew_patch : c.patch.isNew = c.seemsCreated := by
  rw [patch, seemsCreated]
  cases c.hunks.isEmpty with
  | true => rw [if_pos rfl, c.isNew_ofGitHeader, Bool.not_true, Bool.and_false]
  | false =>
    rw [if_neg Bool.false_ne_true, Bool.not_false, Bool.and_true]
    exact c.oldName.headerPath_eq_noFile (by decide) c.isCreation

theorem isDeleted_patch : c.patch.isDeleted = c.seemsDeleted := by
  rw [patch, seemsDeleted]
  cases c.hunks.isEmpty with
  | true => rw [if_pos rfl, if_pos rfl, c.isDeleted_ofGitHeader]
  | false =>
    rw [if_neg Bool.false_ne_true, if_neg Bool.false_ne_true]
    exact c.newName.headerPath_eq_noFile (by decide) c.isDeletion

/-! Paths -/

/-- Both names are plain, and no space in them is taken for the end of a path. -/
def IsLegible : Prop := c.oldName.isPlain = true ∧ c.newName.isPlain = true ∧
  if c.hunks.isEmpty then ' ' ∉ c.oldName.escaped.toList ∧ ' ' ∉ c.newName.escaped.toList
  else c.newName.escaped.toList.getLast? ≠ some ' '

end FileChange

namespace RepoName
variable (n : RepoName)

theorem isBlank_of_isPrintable {c : Char} (hc : IsPrintable c) (hspace : c ≠ ' ') :
    Text.isBlank c = false := by
  have hcodes : ∀ k < 0x7F, 0x20 ≤ k → k ≠ 0x20 → Text.isBlank (Char.ofNat k) = false := by
    decide +kernel
  have hcode : c.toNat ≠ 0x20 := fun h => hspace (Char.toNat_inj.1 h)
  have hblank := hcodes c.toNat hc.2 hc.1 hcode
  rwa [Char.ofNat_toNat] at hblank

/-- The name as a path, unless it ends with a space. -/
def pathTextOf (hlast : n.escaped.toList.getLast? ≠ some ' ') : PathText where
  path := n.escaped
  isLine := fun c hc => (n.isPrintable_escaped c hc).isLineEnd
  no_tab := fun hc => (n.isPrintable_escaped _ hc).ne_tab rfl
  no_blank_end := by
    intro c hc
    refine isBlank_of_isPrintable (n.isPrintable_escaped c (List.mem_of_mem_getLast? hc)) ?_
    rintro rfl
    exact hlast hc

theorem escaped_ne : n.escaped ≠ "" ∧ n.escaped ≠ FilePatch.noFile := by
  obtain ⟨hne, hhead⟩ := n.head?_escaped
  constructor
  · intro h
    exact hne (String.toList_eq_nil_iff.2 h)
  · intro h
    rw [h] at hhead
    exact hhead rfl

theorem text_of_isPlain (h : n.isPlain = true) (side : String) :
    n.text side = side ++ n.escaped := by rw [text, if_pos h]

theorem headerPath_of_isPlain (h : n.isPlain = true) {side : Char} (hside : side = 'a' ∨ side = 'b')
    (hlast : n.escaped.toList.getLast? ≠ some ' ') :
    FilePatch.headerPath (n.pathText (String.ofList [side, '/'])).toList = n.escaped := by
  have hmem : String.ofList [side, '/'] ∈ ["a/", "b/"] := by
    rcases hside with rfl | rfl <;> decide
  have htext : (n.text (String.ofList [side, '/'])).toList = side :: '/' :: n.escaped.toList := by
    rw [n.text_of_isPlain h, String.toList_append, String.toList_ofList]
    rfl
  have hstrip : FilePatch.stripSide (Text.trim (side :: '/' :: n.escaped.toList)) =
      n.escaped.toList := WrittenPath.stripSide_trim hside (n.pathTextOf hlast)
  rw [n.headerPath_pathText hmem, htext, hstrip, String.ofList_toList]

theorem splitAt_text_of_isPlain (h : n.isPlain = true) (hspace : ' ' ∉ n.escaped.toList)
    {side : String} (hside : ' ' ∉ side.toList) :
    Text.splitAt ' ' (n.text side).toList = [side.toList ++ n.escaped.toList] := by
  rw [n.text_of_isPlain h, String.toList_append, Text.splitAt_of_not_mem]
  rw [List.mem_append, not_or]
  exact ⟨hside, hspace⟩

end RepoName

namespace FileChange
variable {c : FileChange}

theorem of_isDeletion (h : c.isDeletion = true) : c.oldName = c.newName ∧ c.isCreation = false := by
  cases c with
  | delete => exact ⟨rfl, rfl⟩
  | create => cases h
  | modify => cases h
  | rename => cases h
  | changeMode => cases h

theorem path_patch (h : c.IsLegible) : c.patch.path = c.newName.escaped := by
  obtain ⟨hold, hnew, hspace⟩ := h
  obtain ⟨hne, hfile⟩ := c.newName.escaped_ne
  rw [patch]
  split
  · next hempty =>
    rw [if_pos hempty] at hspace
    have hword : c.words[1]? = some ("b/".toList ++ c.newName.escaped.toList) := by
      rw [words, c.oldName.splitAt_text_of_isPlain hold hspace.1 (by decide),
        c.newName.splitAt_text_of_isPlain hnew hspace.2 (by decide)]
      rfl
    refine FilePatch.path_of_newPath ?_ hne hfile
    rw [ofGitHeader_title, hword]
    exact congrArg some c.newName.escaped.ofList_toList
  · next hempty =>
    rw [if_neg hempty] at hspace
    cases hdeletion : c.isDeletion with
    | false =>
      refine FilePatch.path_of_newPath (congrArg some ?_) hne hfile
      rw [newText, hdeletion, if_neg Bool.false_ne_true]
      exact c.newName.headerPath_of_isPlain hnew (.inr rfl) hspace
    | true =>
      obtain ⟨hname, hcreation⟩ := of_isDeletion hdeletion
      refine FilePatch.path_of_oldPath (congrArg some ?_) (congrArg some ?_) hne hfile
      · rw [newText, hdeletion, if_pos rfl]
        decide
      · rw [oldText, hcreation, if_neg Bool.false_ne_true, hname]
        exact c.newName.headerPath_of_isPlain hnew (.inl rfl) hspace

end FileChange

/-! Reading changes -/

namespace DiffReader

/-- The title leaves nothing open, so a change is read in the same way wherever it stands. -/
theorem read_change (r : DiffReader) (c : FileChange) :
    ∃ r', r.read c.texts = .ok r' ∧ r'.patches = r.patches ++ [c.patch] := by
  have htitle : "diff --git ".toList <+: c.title.toList := by
    rw [FileChange.title, String.toList_append]
    exact List.prefix_append _ _
  rw [FileChange.texts, read_append (r.read_title htitle c.notes), FileChange.textTexts,
    FileChange.patch]
  split
  · exact ⟨_, rfl, r.patches_begin _⟩
  · let p : FilePatch :=
      { oldPath := some (FilePatch.headerPath c.oldText.toList)
        newPath := some (FilePatch.headerPath c.newText.toList) }
    obtain ⟨r', hread, hdone, hcurrent, -⟩ :=
      read_hunks (r := r.begin p) (p := p) rfl rfl c.hunks
    refine ⟨r', (read_append (r.read_paths rfl _ _) _).trans hread, ?_⟩
    rw [patches, hcurrent, hdone, ← r.patches_begin, patches]
    rfl

theorem read_changes (r : DiffReader) (cs : List FileChange) :
    ∃ r', r.read (cs.flatMap (·.texts)) = .ok r' ∧ r'.patches = r.patches ++ cs.map (·.patch) := by
  induction cs generalizing r with
  | nil => exact ⟨r, rfl, (List.append_nil _).symm⟩
  | cons c cs ih =>
    obtain ⟨r₁, hread₁, hpatches₁⟩ := r.read_change c
    obtain ⟨r₂, hread₂, hpatches₂⟩ := ih r₁
    refine ⟨r₂, by rw [List.flatMap_cons, read_append hread₁, hread₂], ?_⟩
    rw [hpatches₂, hpatches₁, List.map_cons, List.append_assoc, List.singleton_append]

end DiffReader

/-- The patches that are selected are those of the changes that do not seem to delete their file. -/
theorem PathScope.select_map_patch (scope : PathScope) (cs : List FileChange) :
    scope.select (cs.map (·.patch)) =
      (cs.filter fun c => !c.seemsDeleted && scope.admits c.patch.path).map (·.patch) := by
  rw [select, List.filter_map]
  refine congrArg (List.map _) (List.filter_congr fun c _ => ?_)
  rw [Function.comp_apply, c.isDeleted_patch, c.isBinary_patch, Bool.not_false, Bool.and_true]

/-- Text changes, or the paths in the title happen to be right. -/
def FileChange.IsRecognised (c : FileChange) : Prop :=
  c.hunks ≠ [] ∨ (c.isCreation = false ∧ c.isDeletion = c.oldName.showsNoFile)

theorem FileChange.isRecognised_iff (c : FileChange) :
    (c.patch.isNew = c.isCreation ∧ c.patch.isDeleted = c.isDeletion) ↔ c.IsRecognised := by
  rw [c.isNew_patch, c.isDeleted_patch, seemsCreated, seemsDeleted, IsRecognised, Ne,
    ← List.isEmpty_iff]
  cases c.hunks.isEmpty with
  | false => simp
  | true =>
    simp only [Bool.not_true, Bool.and_false, if_true, not_true, false_or]
    exact and_congr eq_comm eq_comm

namespace FilePatch

/-- The diff of some changes is read as one patch for each. The patch tells that a file is new or
deleted exactly if the change says so and has some text, but for names whose second word is read as
the path of a missing file. What is selected follows the patches, and the path of a patch is that of
the file where a space or an escape does not hide it. -/
theorem ofDiff?_changes {cs : List FileChange} {text : String}
    (htext : Text.Ended (cs.flatMap (·.texts)) text) :
    ofDiff? text = .ok (cs.map (·.patch)) ∧
      (∀ c ∈ cs, c.patch.isNew = c.seemsCreated ∧ c.patch.isDeleted = c.seemsDeleted ∧
        ((c.patch.isNew = c.isCreation ∧ c.patch.isDeleted = c.isDeletion) ↔ c.IsRecognised) ∧
        (c.IsLegible → c.patch.path = c.newName.escaped)) ∧
      ∀ scope : PathScope, scope.select (cs.map (·.patch)) =
        (cs.filter fun c => !c.seemsDeleted && scope.admits c.patch.path).map (·.patch) := by
  refine ⟨?_, fun c _ => ⟨c.isNew_patch, c.isDeleted_patch, c.isRecognised_iff,
    FileChange.path_patch⟩, fun scope => scope.select_map_patch cs⟩
  have hlines : Text.lines text.toList = (cs.flatMap (·.texts)).map String.toList := by
    refine Text.lines_of_ended htext fun t ht => ?_
    obtain ⟨c, -, ht⟩ := List.mem_flatMap.1 ht
    exact c.isLine_texts t ht
  obtain ⟨r, hread, hpatches⟩ := ({} : DiffReader).read_changes cs
  rw [ofDiff?_of_read hlines hread, hpatches]
  rfl

/-- An empty file is deleted and another one is created. -/
def emptyFileChanges : List FileChange :=
  [.delete ⟨[0x61], by decide, by decide⟩ ⟨"100644", by decide⟩ ⟨"e69de29..0000000", by decide⟩
      ⟨[], true⟩,
    .create ⟨[0x62], by decide, by decide⟩ ⟨"100644", by decide⟩ ⟨"0000000..e69de29", by decide⟩
      ⟨[], true⟩]

def emptyFileDiff : String :=
  "diff --git a/a b/a\ndeleted file mode 100644\nindex e69de29..0000000\n" ++
    "diff --git a/b b/b\nnew file mode 100644\nindex 0000000..e69de29\n"

theorem ofDiff?_changes_of_emptyFiles :
    Text.Ended (emptyFileChanges.flatMap (·.texts)) emptyFileDiff ∧
      ofDiff? emptyFileDiff = .ok (emptyFileChanges.map (·.patch)) ∧
      ∀ c ∈ emptyFileChanges, (c.patch.isNew = c.isCreation ∧ c.patch.isDeleted = c.isDeletion) ↔
        c.IsRecognised := by
  have htext : Text.Ended (emptyFileChanges.flatMap (·.texts)) emptyFileDiff := by
    have hdiff : emptyFileDiff = Text.unlines (emptyFileChanges.flatMap (·.texts)) := by decide
    rw [hdiff]
    exact Text.ended_unlines _
  obtain ⟨hread, hchanges, -⟩ := ofDiff?_changes htext
  exact ⟨htext, hread, fun c hc => (hchanges c hc).2.2.1⟩

/-- Neither is recognised, and the file that is gone is selected for review. -/
theorem not_isRecognised_of_emptyFiles :
    emptyFileDiff = Text.unlines (emptyFileChanges.flatMap (·.texts)) ∧
      emptyFileChanges.map (·.isDeletion) = [true, false] ∧
      emptyFileChanges.map (·.isCreation) = [false, true] ∧
      ∃ p q : FilePatch, ofDiff? emptyFileDiff = .ok [p, q] ∧ p.path = "a" ∧ q.path = "b" ∧
        p.isDeleted = false ∧ q.isNew = false ∧ PathScope.select {} [p, q] = [p, q] :=
  ⟨by decide +kernel, rfl, rfl, { oldPath := "a", newPath := "a" },
    { oldPath := "b", newPath := "b" }, by decide +kernel, rfl, rfl, rfl, rfl, rfl⟩

end FilePatch
end PatchReview
