import PatchReview.Proofs.Patch.Room

/-! What the lines of a hunk say, and that it does not matter for the rest. The course of the reader
depends on the outline of what it has read, which is everything but the contents of the lines. So
a line inside a hunk can say anything that fits into one line. A character that ends a line cuts the
content off, and what stands behind it is read as a line of the diff. -/
namespace PatchReview

/-! Outlines and contents -/

def PatchLine.outline (l : PatchLine) : PatchLine := { l with content := "" }

def Hunk.outline (h : Hunk) : Hunk := { h with lines := h.lines.map PatchLine.outline }

def Hunk.contents (h : Hunk) : List String := h.lines.map (·.content)

theorem Hunk.outline_outline (h : Hunk) : h.outline.outline = h.outline := by
  simp [outline, Function.comp_def, PatchLine.outline]

namespace FilePatch

/-- The patch without the contents of its lines. -/
def outline (p : FilePatch) : FilePatch := { p with hunks := p.hunks.map Hunk.outline }

theorem outline_outline (p : FilePatch) : p.outline.outline = p.outline := by
  simp [outline, Function.comp_def, Hunk.outline_outline]

/-- What the lines say, in the order of the patches, the hunks and the lines. -/
def contents (ps : List FilePatch) : List String :=
  (ps.flatMap (·.hunks)).flatMap Hunk.contents

end FilePatch

/-- What a line in this role adds to the contents. -/
def LineRole.contents : LineRole → List String
  | .body _ content => [String.ofList content]
  | _ => []

namespace OpenHunk

def outline (h : OpenHunk) : OpenHunk := { h with reversed := h.reversed.map PatchLine.outline }

theorem outline_outline (h : OpenHunk) : h.outline.outline = h.outline := by
  simp [outline, Function.comp_def, PatchLine.outline]

theorem close_outline (h : OpenHunk) : h.outline.close = h.close.outline := by
  simp [close, outline, Hunk.outline]

theorem role_outline (h : OpenHunk) (line : List Char) : h.outline.role line = h.role line := rfl

theorem outline_push (h : OpenHunk) (kind : LineKind) (content : List Char) :
    (h.push kind content).outline = h.outline.push kind [] := by
  cases kind <;> rfl

end OpenHunk

namespace DiffReader

/-- The reader without the contents of the lines read. -/
def outline (r : DiffReader) : DiffReader where
  done := r.done.map FilePatch.outline
  patch := r.patch.map FilePatch.outline
  hunk := r.hunk.map OpenHunk.outline

def contents (r : DiffReader) : List String := r.hunks.flatMap Hunk.contents

section Outline
variable (r : DiffReader)

theorem outline_outline : r.outline.outline = r.outline := by
  simp [outline, Function.comp_def, FilePatch.outline_outline, OpenHunk.outline_outline]

theorem expectsHeader_outline : r.outline.expectsHeader = r.expectsHeader := by
  rw [expectsHeader, outline, expectsHeader]
  cases r.hunk <;> rfl

/-- What a line is does not depend on what other lines say. -/
theorem role_outline (line : List Char) : r.outline.role line = r.role line := by
  have hisNone : r.outline.hunk.isNone = r.hunk.isNone := Option.isNone_map
  have hisSome : r.outline.patch.isSome = r.patch.isSome := Option.isSome_map
  have hbody : r.outline.hunk.map (·.role line) = r.hunk.map (·.role line) := by
    rw [outline, Option.map_map]
    rfl
  rw [role, role, expectsHeader_outline, hisNone, hisSome, hbody]

theorem current_outline : r.outline.current = r.current.map FilePatch.outline := by
  cases hp : r.patch with
  | none => simp [current, outline, hp]
  | some p =>
    cases hh : r.hunk with
    | none => simp [current, outline, hp, hh]
    | some h =>
      simp [current, outline, hp, hh, FilePatch.outline, OpenHunk.close_outline]

theorem patches_outline : r.outline.patches = r.patches.map FilePatch.outline := by
  rw [patches, current_outline, patches, outline, List.map_reverse, List.map_append]
  cases r.current <;> rfl

theorem begin_outline {p : FilePatch} (hp : p.hunks = []) :
    r.outline.begin p = (r.begin p).outline := by
  have houtline : p.outline = p := by rw [FilePatch.outline, hp]; cases p; cases hp; rfl
  rw [begin, begin, current_outline, outline, outline, Option.map_some, houtline, List.map_append]
  cases r.current <;> rfl

theorem closeHunk_outline : r.outline.closeHunk = r.closeHunk.outline := by
  rw [closeHunk, current_outline]
  rfl

theorem ensurePatch_outline : r.outline.ensurePatch = r.ensurePatch.outline := by
  have hisNone : r.outline.patch.isNone = r.patch.isNone := Option.isNone_map
  rw [ensurePatch, ensurePatch, hisNone]
  split
  · exact r.begin_outline rfl
  · rfl

/-- What is said about a patch apart from its hunks belongs to the outline. -/
theorem mapPatch_outline {f : FilePatch → FilePatch} (hf : ∀ p, f p.outline = (f p).outline) :
    ({ r.outline with patch := r.outline.patch.map f } : DiffReader) =
      ({ r with patch := r.patch.map f } : DiffReader).outline := by
  simp only [outline, Option.map_map, Function.comp_def, hf]

theorem readOldPath_outline (path : String) :
    r.outline.readOldPath path = (r.readOldPath path).outline := by
  have hany : r.closeHunk.outline.patch.any (·.hunks.isEmpty) =
      r.closeHunk.patch.any (·.hunks.isEmpty) := by
    rw [outline]
    cases r.closeHunk.patch with
    | none => rfl
    | some p => simp [FilePatch.outline]
  rw [readOldPath, readOldPath, closeHunk_outline, hany]
  split
  · exact mapPatch_outline _ fun _ => rfl
  · rw [begin_outline _ rfl]
    exact mapPatch_outline _ fun _ => rfl

/-- Reading a line commutes with taking the outline, before and after which the content of the
line counts for nothing. -/
theorem perform_outline (line : List Char) (role : LineRole) :
    (r.outline.perform line role).map outline = (r.perform line role).map outline := by
  cases role with
  | title =>
    refine congrArg Except.ok ?_
    rw [begin_outline _ rfl, outline_outline]
  | oldPath =>
    refine congrArg Except.ok ?_
    rw [readOldPath_outline, outline_outline]
  | newPath =>
    have hmap := r.mapPatch_outline (f := ({ · with
      newPath := some (FilePatch.headerPath (line.drop 4)) })) fun _ => rfl
    exact congrArg Except.ok ((congrArg outline hmap).trans (outline_outline _))
  | binaryNote =>
    have hmap := r.mapPatch_outline (f := ({ · with isBinary := true })) fun _ => rfl
    exact congrArg Except.ok ((congrArg outline hmap).trans (outline_outline _))
  | hunkHead =>
    rw [perform, perform, ensurePatch_outline, closeHunk_outline]
    cases HunkRange.ofHeader? line with
    | none => rfl
    | some range =>
      refine congrArg Except.ok ?_
      simp [outline, Function.comp_def, FilePatch.outline_outline]
  | body kind content =>
    refine congrArg Except.ok ?_
    simp [outline, Function.comp_def, FilePatch.outline_outline, OpenHunk.outline_push,
      OpenHunk.outline_outline]
  | other =>
    refine congrArg Except.ok ?_
    rw [outline_outline]

theorem step_outline (line : List Char) :
    (r.outline.step line).map outline = (r.step line).map outline := by
  rw [step_eq_perform, step_eq_perform, role_outline, perform_outline]

end Outline

/-! Two readers with the same outline -/

theorem contents_step {r r' : DiffReader} (hr : r.IsNumbered) {line : List Char}
    (h : r.step line = .ok r') : r'.contents = r.contents ++ (r.role line).contents := by
  cases (hunkStep_of_step hr.isTidy h).2 with
  | keep _ hrole _ hhunks =>
    have hnone : (r.role line).contents = [] := by
      cases hline : r.role line with
      | body kind content => exact absurd hline (hrole kind content)
      | _ => rfl
    rw [contents, hhunks, hnone, List.append_nil, contents]
  | head range hhead _ _ hhunks =>
    rw [contents, hhunks, role_eq_hunkHead_iff.2 hhead, List.flatMap_append, contents]
    rfl
  | body o kind content before _ hrole hopen _ hhunks hhunks' =>
    rw [contents, hhunks', contents, hhunks, hrole, (hr.isCounted o hopen).close_push]
    simp [Hunk.contents, Hunk.extend, LineRole.contents]

/-- Readers with the same outline take the same course, and add the same contents to their own. -/
theorem reads_of_outline_eq {r r' s : DiffReader} (hr : r.IsNumbered) (hr' : r'.IsNumbered)
    (houtline : r'.outline = r.outline) {ls : List (List Char)} (h : ls.foldlM step r = .ok s) :
    ∃ s' more, ls.foldlM step r' = .ok s' ∧ s'.outline = s.outline ∧
      s.contents = r.contents ++ more ∧ s'.contents = r'.contents ++ more := by
  induction ls generalizing r r' with
  | nil =>
    cases h
    exact ⟨r', [], rfl, houtline, (List.append_nil _).symm, (List.append_nil _).symm⟩
  | cons line ls ih =>
    rw [List.foldlM_cons] at h
    obtain ⟨r₁, hstep, hrest⟩ := bind_eq_ok.1 h
    -- Both readers go on to the same outline, so the second one cannot have refused the line.
    have hstep' : (r'.step line).map outline = .ok r₁.outline := by
      rw [← step_outline, houtline, step_outline, hstep]
      rfl
    obtain ⟨r₁', hstep', houtline₁⟩ := map_eq_ok.1 hstep'
    have hrole : r'.role line = r.role line := by rw [← role_outline, houtline, role_outline]
    obtain ⟨s', more, hrest', houtline', hs, hs'⟩ :=
      ih (hr.step hstep) (hr'.step hstep') houtline₁ hrest
    refine ⟨s', (r.role line).contents ++ more, ?_, houtline', ?_, ?_⟩
    · rw [List.foldlM_cons, hstep']
      exact hrest'
    · rw [hs, contents_step hr hstep, List.append_assoc]
    · rw [hs', contents_step hr' hstep', hrole, List.append_assoc]

/-! Contents fit into lines -/

theorem isLine_of_body {r : DiffReader} (hr : r.IsNumbered) {line : List Char}
    (hline : ∀ c ∈ line, Text.isLineEnd c = false) {kind : LineKind} {content : List Char}
    (h : r.role line = .body kind content) : Text.IsLine (String.ofList content) := by
  obtain ⟨o, hopen, -⟩ := exists_hunk_of_body h
  have hcontent : content <:+ line := by
    cases (role_eq_body_iff hopen (hr.isCounted o hopen)).1 h with
    | add => exact List.suffix_cons _ _
    | delete => exact List.suffix_cons _ _
    | context => exact List.suffix_cons _ _
    | blank => exact List.suffix_refl _
  intro c hc
  rw [String.toList_ofList] at hc
  exact hline c (hcontent.subset hc)

theorem isLine_of_mem_contents {ls : List (List Char)} (hls : ∀ l ∈ ls, ∀ c ∈ l,
    Text.isLineEnd c = false) {r : DiffReader} (h : ls.foldlM step {} = .ok r) :
    ∀ s ∈ r.contents, Text.IsLine s := by
  refine reads_induction (motive := fun ls r => (∀ l ∈ ls, ∀ c ∈ l, Text.isLineEnd c = false) →
    ∀ s ∈ r.contents, Text.IsLine s) (fun _ _ => nofun) ?_ h hls
  intro ls r line r' hread ih hstep hls s hs
  obtain ⟨hls, hline⟩ := List.forall_mem_append.1 hls
  have hr : r.IsNumbered := isNumbered_of_reads hread
  rw [contents_step hr hstep] at hs
  rcases List.mem_append.1 hs with hs | hs
  · exact ih hls s hs
  · cases hrole : r.role line with
    | body kind content =>
      rw [hrole] at hs
      obtain rfl := List.mem_singleton.1 hs
      exact isLine_of_body hr (hline line List.mem_cons_self) hrole
    | _ =>
      rw [hrole] at hs
      cases hs

/-! One line of a hunk is reworded -/

/-- Inside a hunk, the line is passed over. -/
def IsInert (line : List Char) : Prop :=
  line ≠ [] ∧ ∀ p ∈ ["diff --git ", "Binary files ", "@@", "+", "-", " "], ¬ p.toList <+: line

theorem role_of_isInert {r : DiffReader} {o : OpenHunk} (hopen : r.hunk = some o)
    {line : List Char} (hline : IsInert line) : r.role line = .other := by
  obtain ⟨hne, hstart⟩ := hline
  have hshort : ∀ p ∈ ["diff --git ", "Binary files ", "@@", "--- ", "+++ "],
      ∃ q ∈ ["diff --git ", "Binary files ", "@@", "+", "-", " "], q.toList <+: p.toList := by
    decide
  have hwords : ∀ p ∈ ["diff --git ", "Binary files ", "@@", "--- ", "+++ "],
      p.toList.isPrefixOf line = false := by
    intro p hp
    obtain ⟨q, hq, hqp⟩ := hshort p hp
    rw [Bool.eq_false_iff, Ne, List.isPrefixOf_iff_prefix]
    exact fun hpre => hstart q hq (hqp.trans hpre)
  have hbody : o.role line = .other := by
    fun_cases OpenHunk.role o line with
    | case1 s => exact absurd (List.prefix_append _ s) (hstart "+" (by simp))
    | case2 s => exact absurd (List.prefix_append _ s) (hstart "-" (by simp))
    | case3 s => exact absurd (List.prefix_append _ s) (hstart " " (by simp))
    | case4 => exact absurd rfl hne
    | case5 => exact absurd rfl hne
    | case6 => rfl
  rw [role, hwords "diff --git " (by simp), hwords "--- " (by simp), hwords "+++ " (by simp),
    hwords "Binary files " (by simp), hwords "@@" (by simp), hopen, Option.map_some, hbody]
  rfl

theorem reads_of_isInert {r : DiffReader} {o : OpenHunk} (hopen : r.hunk = some o)
    {ls : List (List Char)} (hls : ∀ l ∈ ls, IsInert l) : ls.foldlM step r = .ok r := by
  induction ls with
  | nil => rfl
  | cons l ls ih =>
    obtain ⟨hl, hls⟩ := List.forall_mem_cons.1 hls
    rw [List.foldlM_cons, step_eq_perform, role_of_isInert hopen hl]
    exact ih hls

/-- Whatever stands behind the mark of a line, the reader goes on as before, and so it does if inert
lines follow. -/
theorem reads_reworded {r s : DiffReader} {o : OpenHunk} (hr : r.IsNumbered)
    (hopen : r.hunk = some o) (hroom : ¬ o.close.IsFull) {kind : LineKind} {old : List Char}
    {ls : List (List Char)} (h : ((kind.mark.toList ++ old) :: ls).foldlM step r = .ok s) :
    ∃ rest, s.contents = r.contents ++ String.ofList old :: rest ∧
      ∀ (new : List Char) (more : List (List Char)), (∀ l ∈ more, IsInert l) →
        ∃ s', ((kind.mark.toList ++ new) :: (more ++ ls)).foldlM step r = .ok s' ∧
          s'.outline = s.outline ∧ s'.contents = r.contents ++ String.ofList new :: rest := by
  let pushed (text : List Char) : DiffReader := { r with hunk := some (o.push kind text) }
  have hrole (text : List Char) : r.role (kind.mark.toList ++ text) = .body kind text :=
    (role_eq_body_iff hopen (hr.isCounted o hopen)).2 (Hunk.attaches_mark hroom kind text)
  have hstep (text : List Char) : r.step (kind.mark.toList ++ text) = .ok (pushed text) :=
    step_of_body hopen (hrole text)
  have hpushed (text : List Char) : (pushed text).IsNumbered := hr.step (hstep text)
  have hcontents (text : List Char) :
      (pushed text).contents = r.contents ++ [String.ofList text] := by
    rw [contents_step hr (hstep text), hrole, LineRole.contents]
  have houtline (text : List Char) : (pushed text).outline = (pushed old).outline := by
    simp only [pushed, outline, Option.map_some, OpenHunk.outline_push]
  have hold : ls.foldlM step (pushed old) = .ok s := by
    rw [List.foldlM_cons, hstep] at h
    exact h
  obtain ⟨-, rest, -, -, hs, -⟩ := reads_of_outline_eq (hpushed old) (hpushed old) rfl hold
  refine ⟨rest, by rw [hs, hcontents, List.append_assoc, List.singleton_append], ?_⟩
  intro new more hmore
  obtain ⟨s', rest', hnew, hsame, hs', hrest'⟩ :=
    reads_of_outline_eq (hpushed old) (hpushed new) (houtline new) hold
  obtain rfl : rest = rest' := List.append_cancel_left (hs.symm.trans hs')
  refine ⟨s', ?_, hsame, by rw [hrest', hcontents, List.append_assoc, List.singleton_append]⟩
  rw [List.foldlM_cons, hstep]
  change (more ++ ls).foldlM step (pushed new) = _
  rw [List.foldlM_append, reads_of_isInert rfl hmore]
  exact hnew

end DiffReader

namespace FilePatch

/-- The text with a line of a hunk in it, whose first line ends where `first` does. -/
theorem lines_marked {before : String} (hended : before = "" ∨ ['\n'] <:+ before.toList)
    (kind : LineKind) {text : String} {first : List Char} {more : List (List Char)}
    (htext : Text.lines (text ++ "\n").toList = first :: more) (behind : String) :
    Text.lines (before ++ (kind.mark ++ text ++ "\n") ++ behind).toList =
      Text.lines before.toList ++
        (kind.mark.toList ++ first) :: (more ++ Text.lines behind.toList) := by
  have hline : Text.lines (kind.mark ++ (text ++ "\n")).toList =
      (kind.mark.toList ++ first) :: more := by
    have hmark : ∃ c, kind.mark.toList = [c] ∧ Text.isLineEnd c = false := by
      cases kind <;> exact ⟨_, rfl, by decide⟩
    obtain ⟨c, hmark, hc⟩ := hmark
    rw [String.toList_append, hmark, List.singleton_append, Text.lines_cons hc, htext]
    rfl
  have hfeed : ['\n'] <:+ (kind.mark ++ (text ++ "\n")).toList := by
    rw [← String.append_assoc, String.toList_append]
    exact List.suffix_append _ _
  have hparts : (before ++ (kind.mark ++ text ++ "\n") ++ behind).toList =
      before.toList ++ ((kind.mark ++ (text ++ "\n")).toList ++ behind.toList) := by
    simp only [String.toList_append, List.append_assoc]
  rw [hparts, Text.lines_append (hended.imp_left String.toList_eq_nil_iff.2),
    Text.lines_append (.inr hfeed), hline, List.cons_append]

/-- What a line inside a hunk says changes nothing but what it says, exactly if it fits into one
line. If it does not, its first part is what the line says, and the other parts are lines of the
diff, which change nothing if they are inert. -/
theorem ofDiff?_reword {before behind old : String} {kind : LineKind} {h : Hunk}
    {ps : List FilePatch} (hended : before = "" ∨ ['\n'] <:+ before.toList)
    (hafter : h.IsOpenAfter (Text.lines before.toList)) (hroom : ¬ h.IsFull)
    (hold : Text.IsLine old)
    (hps : ofDiff? (before ++ (kind.mark ++ old ++ "\n") ++ behind) = .ok ps) :
    ∃ qs rest, ofDiff? before = .ok qs ∧ contents ps = contents qs ++ old :: rest ∧
      (∀ new : String, (∃ ps', ofDiff? (before ++ (kind.mark ++ new ++ "\n") ++ behind) = .ok ps' ∧
        ps'.map outline = ps.map outline ∧ contents ps' = contents qs ++ new :: rest) ↔
          Text.IsLine new) ∧
      ∀ (new : String) (first : List Char) (more : List (List Char)),
        Text.lines (new ++ "\n").toList = first :: more → (∀ l ∈ more, DiffReader.IsInert l) →
        ∃ ps', ofDiff? (before ++ (kind.mark ++ new ++ "\n") ++ behind) = .ok ps' ∧
          ps'.map outline = ps.map outline ∧
          contents ps' = contents qs ++ String.ofList first :: rest := by
  have hfits {text : String} (htext : Text.IsLine text) :
      Text.lines (text ++ "\n").toList = [text.toList] := by
    rw [String.toList_append]
    exact Text.lines_append_lineFeed htext []
  obtain ⟨qs, hqs⟩ : ∃ qs, ofDiff? before = .ok qs := by
    obtain ⟨ps, p, -, hread, -⟩ := hafter
    exact ⟨_, hread⟩
  obtain ⟨r, hr, rfl⟩ := ofLines?_eq_ok_iff.1 hqs
  obtain ⟨o, hopen, rfl⟩ := (DiffReader.isOpenAfter_iff hr).1 hafter
  -- Reading the whole text is reading on from where the reader is in front of the line.
  have hreads (new : String) (first : List Char) (more : List (List Char))
      (hnew : Text.lines (new ++ "\n").toList = first :: more) (s : DiffReader) :
      (Text.lines (before ++ (kind.mark ++ new ++ "\n") ++ behind).toList).foldlM
          DiffReader.step {} = .ok s ↔
        ((kind.mark.toList ++ first) :: (more ++ Text.lines behind.toList)).foldlM
          DiffReader.step r = .ok s := by
    rw [lines_marked hended kind hnew, List.foldlM_append, hr]
    rfl
  obtain ⟨s, hs, rfl⟩ := ofLines?_eq_ok_iff.1 hps
  obtain ⟨rest, hcontents, hreworded⟩ := DiffReader.reads_reworded
    (DiffReader.isNumbered_of_reads hr) hopen hroom ((hreads old _ _ (hfits hold) s).1 hs)
  rw [String.ofList_toList] at hcontents
  have hcut (new : String) (first : List Char) (more : List (List Char))
      (hnew : Text.lines (new ++ "\n").toList = first :: more)
      (hmore : ∀ l ∈ more, DiffReader.IsInert l) :
      ∃ ps', ofDiff? (before ++ (kind.mark ++ new ++ "\n") ++ behind) = .ok ps' ∧
        ps'.map outline = s.patches.map outline ∧
        contents ps' = contents r.patches ++ String.ofList first :: rest := by
    obtain ⟨s', hs', houtline, hcontents'⟩ := hreworded first more hmore
    refine ⟨s'.patches, ofLines?_eq_ok_iff.2 ⟨s', (hreads new first more hnew s').2 hs', rfl⟩, ?_,
      hcontents'⟩
    rw [← DiffReader.patches_outline, houtline, DiffReader.patches_outline]
  refine ⟨r.patches, rest, hqs, hcontents, fun new => ⟨?_, fun hnew => ?_⟩, hcut⟩
  · rintro ⟨ps', hps', -, hnew⟩
    obtain ⟨s', hs', rfl⟩ := ofLines?_eq_ok_iff.1 hps'
    refine DiffReader.isLine_of_mem_contents (fun l hl => Text.isLineEnd_of_mem_lines hl) hs' new ?_
    rw [show s'.contents = _ from hnew]
    exact List.mem_append_right _ List.mem_cons_self
  · have hnone : ∀ l ∈ ([] : List (List Char)), DiffReader.IsInert l := fun _ => nofun
    have hps' := hcut new new.toList [] (hfits hnew) hnone
    rwa [String.ofList_toList] at hps'

/-- A hunk in which the second of three new lines is given. -/
def secondLineDiff (text : String) : String :=
  "--- a/x\n+++ b/x\n@@ -1 +1,3 @@\n one\n" ++ (LineKind.add.mark ++ text ++ "\n") ++ "+c\n"

theorem ofDiff?_reword_secondLine : ∃ ps before rest, ofDiff? (secondLineDiff "b") = .ok ps ∧
    ∀ new : String, (∃ ps', ofDiff? (secondLineDiff new) = .ok ps' ∧
      ps'.map outline = ps.map outline ∧ contents ps' = before ++ new :: rest) ↔
        Text.IsLine new := by
  have hread : ∃ ps, ofDiff? (secondLineDiff "b") = .ok ps := ⟨_, rfl⟩
  obtain ⟨ps, hps⟩ := hread
  have hafter : Hunk.IsOpenAfter ⟨⟨1, 1, 1, 3⟩, [⟨.context, "one", some 1, some 1⟩]⟩
      (Text.lines "--- a/x\n+++ b/x\n@@ -1 +1,3 @@\n one\n".toList) := ⟨[], _, [], rfl, rfl⟩
  have hroom : ¬ Hunk.IsFull ⟨⟨1, 1, 1, 3⟩, [⟨.context, "one", some 1, some 1⟩]⟩ :=
    fun hfull => absurd hfull.2 (by decide)
  have hline : Text.IsLine "b" := by decide
  obtain ⟨qs, rest, -, -, hnew, -⟩ := ofDiff?_reword (.inr (by decide)) hafter hroom hline hps
  exact ⟨ps, contents qs, rest, hps, hnew⟩

/-- A line separator in the line cuts it in two, and the line behind it gets a higher number. -/
theorem outline_ne_of_lineSeparator : '\n' ∉ "b\u2028+x".toList ∧
    ∃ ps ps', ofDiff? (secondLineDiff "b") = .ok ps ∧
      ofDiff? (secondLineDiff "b\u2028+x") = .ok ps' ∧
      ps.flatMap addedLines = [(2, "b"), (3, "c")] ∧
      ps'.flatMap addedLines = [(2, "b"), (3, "x"), (4, "c")] ∧
      ps'.map outline ≠ ps.map outline :=
  ⟨by decide, _, _, rfl, rfl, rfl, rfl, by decide⟩

end FilePatch
end PatchReview
