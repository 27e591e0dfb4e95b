import Mathlib.Data.List.Induction
import PatchReview.Patch.Reader
import PatchReview.Proofs.Except

/-! What a line is to the reader of a diff, and what the reader does with it. The role of a line
depends on how it starts, on whether a patch is being read, and on how far the open hunk is. All
invariants of the reader follow from what each role does. -/
namespace PatchReview

inductive LineRole where
  | title
  | oldPath
  | newPath
  | binaryNote
  | hunkHead
  | body (kind : LineKind) (content : List Char)
  | other

/-- What a line that starts like no header is to the open hunk. -/
def OpenHunk.role (h : OpenHunk) : List Char → LineRole
  | '+' :: content => .body .add content
  | '-' :: content => .body .delete content
  | ' ' :: content => .body .context content
  | [] => if h.isDone then .other else .body .context []
  | _ => .other

theorem OpenHunk.role_ne_hunkHead (h : OpenHunk) (line : List Char) : h.role line ≠ .hunkHead := by
  fun_cases OpenHunk.role h line <;> exact LineRole.noConfusion

namespace DiffReader

def role (r : DiffReader) (line : List Char) : LineRole :=
  if "diff --git ".toList.isPrefixOf line then .title
  else if "--- ".toList.isPrefixOf line && r.expectsHeader then .oldPath
  else if "+++ ".toList.isPrefixOf line && r.hunk.isNone && r.patch.isSome then .newPath
  else if "Binary files ".toList.isPrefixOf line && r.patch.isSome then .binaryNote
  else if "@@".toList.isPrefixOf line then .hunkHead
  else (r.hunk.map (·.role line)).getD .other

/-- Reads a line in the given role. -/
def perform (r : DiffReader) (line : List Char) : LineRole → Except BadHunkHeader DiffReader
  | .title => .ok (r.begin (FilePatch.ofGitHeader line))
  | .oldPath => .ok (r.readOldPath (FilePatch.headerPath (line.drop 4)))
  | .newPath =>
    .ok { r with patch := r.patch.map ({ · with
      newPath := some (FilePatch.headerPath (line.drop 4)) }) }
  | .binaryNote => .ok { r with patch := r.patch.map ({ · with isBinary := true }) }
  | .hunkHead =>
    match HunkRange.ofHeader? line with
    | none => .error ⟨String.ofList line⟩
    | some range => .ok { r.ensurePatch.closeHunk with hunk := some { range } }
  | .body kind content => .ok { r with hunk := r.hunk.map (·.push kind content) }
  | .other => .ok r

theorem readBody_eq_perform {r : DiffReader} {h : OpenHunk} (hr : r.hunk = some h)
    (line : List Char) : .ok (r.readBody h line) = r.perform line (h.role line) := by
  fun_cases OpenHunk.role h line with
  | case1 content => simp only [readBody, perform, hr, Option.map_some]
  | case2 content => simp only [readBody, perform, hr, Option.map_some]
  | case3 content => simp only [readBody, perform, hr, Option.map_some]
  | case4 hdone => simp only [readBody, perform, hdone, if_true]
  | case5 hdone =>
    simp only [readBody, perform, hdone, if_false, hr, Option.map_some, Bool.false_eq_true]
  | case6 => simp only [readBody, perform]

/-- A step reads the line in its role. -/
theorem step_eq_perform (r : DiffReader) (line : List Char) :
    r.step line = r.perform line (r.role line) := by
  unfold step role
  split
  · rfl
  · split
    · rfl
    · split
      · rfl
      · split
        · rfl
        · split
          · rfl
          · cases hr : r.hunk with
            | none => rfl
            | some h => exact readBody_eq_perform hr line

theorem step_of_title (r : DiffReader) {line : List Char} (h : "diff --git ".toList <+: line) :
    r.step line = .ok (r.begin (FilePatch.ofGitHeader line)) := by
  rw [step, if_pos (List.isPrefixOf_iff_prefix.2 h)]

/-- A line is a header, the head of a hunk, or what it is to the open hunk. -/
theorem role_cases (r : DiffReader) (line : List Char) :
    r.role line ∈ [.title, .oldPath, .newPath, .binaryNote] ∨
      (r.role line = .hunkHead ∧ "@@".toList <+: line) ∨
        r.role line = (r.hunk.map (·.role line)).getD .other := by
  rw [role]
  split
  · simp
  · split
    · simp
    · split
      · simp
      · split
        · simp
        · split
          · next hhead => exact .inr (.inl ⟨rfl, List.isPrefixOf_iff_prefix.1 hhead⟩)
          · exact .inr (.inr rfl)

/-- Every line that starts with two at signs is the head of a hunk, wherever it stands. -/
theorem role_eq_hunkHead_iff {r : DiffReader} {line : List Char} :
    r.role line = .hunkHead ↔ "@@".toList <+: line := by
  constructor
  · intro h
    rcases r.role_cases line with hheader | ⟨-, hhead⟩ | hbody
    · simp [h] at hheader
    · exact hhead
    · rw [h] at hbody
      cases hr : r.hunk with
      | none => simp [hr] at hbody
      | some o =>
        rw [hr] at hbody
        exact absurd hbody.symm (o.role_ne_hunkHead line)
  · rintro ⟨rest, rfl⟩
    rfl

/-- What holds at the start and is kept by every line holds wherever the reader arrives. -/
theorem reads_induction {motive : List (List Char) → DiffReader → Prop} (nil : motive [] {})
    (concat : ∀ ls r line r', ls.foldlM step {} = .ok r → motive ls r → r.step line = .ok r' →
      motive (ls ++ [line]) r')
    {ls : List (List Char)} {r : DiffReader} (h : ls.foldlM step {} = .ok r) : motive ls r := by
  induction ls using List.reverseRecOn generalizing r with
  | nil =>
    cases h
    exact nil
  | append_singleton ls line ih =>
    rw [List.foldlM_append] at h
    obtain ⟨r₁, hls, hline⟩ := bind_eq_ok.1 h
    rw [List.foldlM_cons] at hline
    obtain ⟨r₂, hstep, hend⟩ := bind_eq_ok.1 hline
    cases hend
    exact concat ls r₁ line r hls (ih hls) hstep

/-! Hunks -/

/-- All hunks in their order, the open one last. -/
def hunks (r : DiffReader) : List Hunk := r.patches.flatMap (·.hunks)

/-- An open hunk belongs to the patch being read, a patch without an open hunk has none yet, and
patches are complete only below another one. -/
structure IsTidy (r : DiffReader) : Prop where
  isSome_patch : r.hunk.isSome = true → r.patch.isSome = true
  hunks_eq_nil : r.hunk = none → ∀ p ∈ r.patch, p.hunks = []
  done_eq_nil : r.patch = none → r.done = []

/-- The hunks of the patches that are complete, and those of the patch being read. -/
theorem hunks_eq (r : DiffReader) :
    r.hunks = (r.done.reverse.flatMap (·.hunks)) ++ r.current.toList.flatMap (·.hunks) := by
  rw [hunks, patches, List.reverse_append, List.flatMap_append]
  cases r.current <;> rfl

@[simp] theorem current_closed (done : List FilePatch) (p : Option FilePatch) :
    current { done, patch := p, hunk := none } = p := by
  cases p <;> rfl

theorem patches_begin (r : DiffReader) (p : FilePatch) :
    (r.begin p).patches = r.patches ++ [p] := by
  rw [patches, begin, current_closed, patches, Option.toList_some, List.singleton_append,
    List.reverse_cons]

theorem hunks_begin (r : DiffReader) {p : FilePatch} (hp : p.hunks = []) :
    (r.begin p).hunks = r.hunks := by
  rw [hunks, patches_begin, List.flatMap_append, List.flatMap_singleton, hp, List.append_nil, hunks]

theorem patches_closeHunk (r : DiffReader) : r.closeHunk.patches = r.patches := by
  rw [patches, closeHunk, current_closed, patches]

theorem hunks_closeHunk (r : DiffReader) : r.closeHunk.hunks = r.hunks := by
  rw [hunks, patches_closeHunk, hunks]

theorem hunks_ensurePatch (r : DiffReader) : r.ensurePatch.hunks = r.hunks := by
  rw [ensurePatch]
  split
  · exact r.hunks_begin rfl
  · rfl

/-- What is said about a patch apart from its hunks leaves the hunks as they are. -/
theorem hunks_mapPatch (r : DiffReader) {f : FilePatch → FilePatch}
    (hf : ∀ p, (f p).hunks = p.hunks) : ({ r with patch := r.patch.map f } : DiffReader).hunks =
      r.hunks := by
  rw [hunks_eq, hunks_eq]
  refine congrArg (_ ++ ·) ?_
  cases hp : r.patch with
  | none => cases hh : r.hunk <;> simp [current, hp]
  | some p => cases hh : r.hunk <;> simp [current, hp, hh, hf]

theorem hunks_readOldPath (r : DiffReader) (path : String) :
    (r.readOldPath path).hunks = r.hunks := by
  have hpath : ∀ r : DiffReader, ({ r with patch := r.patch.map ({ · with
      oldPath := some path }) } : DiffReader).hunks = r.hunks :=
    fun r => r.hunks_mapPatch (f := ({ · with oldPath := some path })) fun _ => rfl
  rw [readOldPath]
  split
  · exact (hpath _).trans r.hunks_closeHunk
  · exact (hpath _).trans ((r.closeHunk.hunks_begin rfl).trans r.hunks_closeHunk)

theorem hunks_of_patch {r : DiffReader} {p : FilePatch} (hp : r.patch = some p) :
    r.hunks = r.done.reverse.flatMap (·.hunks) ++ p.hunks ++ (r.hunk.map (·.close)).toList := by
  rw [hunks_eq]
  cases hh : r.hunk <;> simp [current, hp, hh]

/-- The hunks with another open one. -/
theorem hunks_withHunk {r : DiffReader} {p : FilePatch} (hp : r.patch = some p) (h : OpenHunk) :
    ({ r with hunk := some h } : DiffReader).hunks =
      r.done.reverse.flatMap (·.hunks) ++ p.hunks ++ [h.close] :=
  hunks_of_patch hp

theorem isTidy_begin (r : DiffReader) {p : FilePatch} (hp : p.hunks = []) :
    (r.begin p).IsTidy := by
  refine ⟨fun _ => rfl, ?_, nofun⟩
  rintro - q ⟨⟩
  exact hp

theorem isTidy_mapPatch {r : DiffReader} (hr : r.IsTidy) {f : FilePatch → FilePatch}
    (hf : ∀ p, (f p).hunks = p.hunks) :
    ({ r with patch := r.patch.map f } : DiffReader).IsTidy := by
  refine ⟨fun hopen => ?_, fun hclosed q hq => ?_, fun hnone => ?_⟩
  · rw [Option.isSome_map]
    exact hr.isSome_patch hopen
  · obtain ⟨p, hp, rfl⟩ := Option.map_eq_some_iff.1 hq
    rw [hf]
    exact hr.hunks_eq_nil hclosed p hp
  · exact hr.done_eq_nil (Option.map_eq_none_iff.1 hnone)

theorem hunk_readOldPath (r : DiffReader) (path : String) : (r.readOldPath path).hunk = none := by
  rw [readOldPath]
  split <;> rfl

theorem isTidy_readOldPath (r : DiffReader) (path : String) : (r.readOldPath path).IsTidy := by
  refine ⟨fun hopen => ?_, fun _ p hp => ?_, fun hnone => ?_⟩
  · rw [hunk_readOldPath] at hopen
    cases hopen
  · rw [readOldPath] at hp
    split at hp
    · next hany =>
      obtain ⟨q, hq, rfl⟩ := Option.map_eq_some_iff.1 hp
      rw [hq] at hany
      exact List.isEmpty_iff.1 hany
    · obtain rfl := Option.some.inj hp
      rfl
  · rw [readOldPath] at hnone
    split at hnone
    · next hany =>
      rw [Option.map_eq_none_iff.1 hnone] at hany
      cases hany
    · cases hnone

theorem isSome_patch_ensurePatch (r : DiffReader) :
    r.ensurePatch.closeHunk.patch.isSome = true := by
  have hpatch : r.ensurePatch.patch.isSome = true := by
    rw [ensurePatch]
    split
    · rfl
    · next hp => rwa [Bool.not_eq_true, Option.isNone_eq_false_iff] at hp
  obtain ⟨p, hp⟩ := Option.isSome_iff_exists.1 hpatch
  rw [closeHunk, current, hp]
  cases r.ensurePatch.hunk <;> rfl

/-- What a line does to the hunks: nothing, or it opens one, or it is put into the open one. -/
inductive HunkStep (r : DiffReader) (line : List Char) (r' : DiffReader) : Prop
  | keep (hhead : ¬ "@@".toList <+: line) (hrole : ∀ kind content, r.role line ≠ .body kind content)
      (hopen : ∀ h ∈ r'.hunk, r.hunk = some h) (hhunks : r'.hunks = r.hunks)
  | head (range : HunkRange) (hhead : "@@".toList <+: line)
      (hrange : HunkRange.ofHeader? line = some range) (hopen : r'.hunk = some { range })
      (hhunks : r'.hunks = r.hunks ++ [⟨range, []⟩])
  | body (h : OpenHunk) (kind : LineKind) (content : List Char) (before : List Hunk)
      (hhead : ¬ "@@".toList <+: line) (hrole : r.role line = .body kind content)
      (hopen : r.hunk = some h) (hopen' : r'.hunk = some (h.push kind content))
      (hhunks : r.hunks = before ++ [h.close])
      (hhunks' : r'.hunks = before ++ [(h.push kind content).close])

variable {r r' : DiffReader} {line : List Char}

theorem exists_hunk_of_body {kind : LineKind} {content : List Char}
    (h : r.role line = .body kind content) :
    ∃ o, r.hunk = some o ∧ o.role line = .body kind content := by
  rcases r.role_cases line with hheader | ⟨hhead, -⟩ | hbody
  · simp [h] at hheader
  · rw [h] at hhead
    cases hhead
  · rw [h] at hbody
    cases hr : r.hunk with
    | none => simp [hr] at hbody
    | some o =>
      rw [hr] at hbody
      exact ⟨o, rfl, hbody.symm⟩

theorem step_of_body {o : OpenHunk} (hopen : r.hunk = some o) {kind : LineKind}
    {content : List Char} (hrole : r.role line = .body kind content) :
    r.step line = .ok { r with hunk := some (o.push kind content) } := by
  rw [step_eq_perform, hrole, perform, hopen, Option.map_some]

theorem hunkStep_of_head (hhead : "@@".toList <+: line) (h : r.perform line .hunkHead = .ok r') :
    r'.IsTidy ∧ r.HunkStep line r' := by
  rw [perform] at h
  cases hrange : HunkRange.ofHeader? line with
  | none =>
    rw [hrange] at h
    cases h
  | some range =>
    rw [hrange] at h
    obtain rfl := Except.ok.inj h
    obtain ⟨p, hp⟩ := Option.isSome_iff_exists.1 r.isSome_patch_ensurePatch
    refine ⟨⟨fun _ => r.isSome_patch_ensurePatch, nofun, fun hnone => ?_⟩,
      .head range hhead hrange rfl ?_⟩
    · rw [show r.ensurePatch.closeHunk.patch = none from hnone] at hp
      cases hp
    · have hbefore := hunks_of_patch hp
      rw [hunks_closeHunk, hunks_ensurePatch] at hbefore
      rw [hbefore, hunks_withHunk hp]
      simp [closeHunk, OpenHunk.close]

theorem hunkStep_of_body (hr : r.IsTidy) (hhead : ¬ "@@".toList <+: line) {kind : LineKind}
    {content : List Char} (hrole : r.role line = .body kind content)
    (h : r.perform line (.body kind content) = .ok r') : r'.IsTidy ∧ r.HunkStep line r' := by
  obtain rfl := Except.ok.inj h
  obtain ⟨o, ho, -⟩ := exists_hunk_of_body hrole
  obtain ⟨p, hp⟩ := Option.isSome_iff_exists.1 (hr.isSome_patch (by rw [ho, Option.isSome_some]))
  refine ⟨⟨fun _ => by rw [hp, Option.isSome_some], fun hclosed => ?_, hr.done_eq_nil⟩,
    .body o kind content (r.done.reverse.flatMap (·.hunks) ++ p.hunks) hhead hrole ho ?_ ?_ ?_⟩
  · rw [ho] at hclosed
    cases hclosed
  · rw [ho, Option.map_some]
  · rw [hunks_of_patch hp, ho]
    rfl
  · rw [ho]
    exact hunks_withHunk hp _

theorem hunkStep_of_step (hr : r.IsTidy) (h : r.step line = .ok r') :
    r'.IsTidy ∧ r.HunkStep line r' := by
  rw [step_eq_perform] at h
  have hhead : r.role line = .hunkHead ↔ "@@".toList <+: line := role_eq_hunkHead_iff
  generalize hrole : r.role line = role at h hhead
  cases role with
  | title =>
    obtain rfl := Except.ok.inj h
    exact ⟨r.isTidy_begin rfl,
      .keep (by simpa using hhead) (by simp [hrole]) (by rintro _ ⟨⟩) (r.hunks_begin rfl)⟩
  | oldPath =>
    obtain rfl := Except.ok.inj h
    exact ⟨r.isTidy_readOldPath _, .keep (by simpa using hhead) (by simp [hrole])
      (by simp [hunk_readOldPath]) (r.hunks_readOldPath _)⟩
  | newPath =>
    obtain rfl := Except.ok.inj h
    exact ⟨isTidy_mapPatch hr fun _ => rfl, .keep (by simpa using hhead) (by simp [hrole])
      (fun _ ho => ho) (r.hunks_mapPatch fun _ => rfl)⟩
  | binaryNote =>
    obtain rfl := Except.ok.inj h
    exact ⟨isTidy_mapPatch hr fun _ => rfl, .keep (by simpa using hhead) (by simp [hrole])
      (fun _ ho => ho) (r.hunks_mapPatch fun _ => rfl)⟩
  | hunkHead => exact hunkStep_of_head (hhead.1 rfl) h
  | body kind content => exact hunkStep_of_body hr (by simpa using hhead) hrole h
  | other =>
    obtain rfl := Except.ok.inj h
    exact ⟨hr, .keep (by simpa using hhead) (by simp [hrole]) (fun _ ho => ho) rfl⟩

theorem isTidy_nil : IsTidy {} := ⟨nofun, fun _ _ => nofun, fun _ => rfl⟩

end DiffReader
end PatchReview
