import PatchReview.Proofs.Patch.Numbering

/-! How many lines a hunk can hold. The head of a hunk tells how many lines of each side follow it,
but a line with a mark is put into the open hunk whether there is room for it or not. A hunk is
larger than its head tells exactly if such a line follows where there is no room. -/
namespace PatchReview

namespace Hunk

/-- No more lines of either side than the head tells. -/
def IsWithin (h : Hunk) : Prop := h.oldSize ≤ h.range.oldCount ∧ h.newSize ≤ h.range.newCount

/-- As many lines of both sides as the head tells, or more. -/
def IsFull (h : Hunk) : Prop := h.range.oldCount ≤ h.oldSize ∧ h.range.newCount ≤ h.newSize

/-- Another line of the kind is missing on each side that it belongs to. -/
def HasRoom (h : Hunk) (kind : LineKind) : Prop :=
  (kind.isOld = true → h.oldSize < h.range.oldCount) ∧
    (kind.isNew = true → h.newSize < h.range.newCount)

/-- The lines that belong to the open hunk, with what each is in it. A blank line does so only as
long as lines are missing, and a full hunk ends where a path seems to be told. -/
inductive Attaches (h : Hunk) : List Char → LineKind → List Char → Prop
  | add (s : List Char) : h.Attaches ('+' :: s) .add s
  | delete (s : List Char) (hs : ¬ (h.IsFull ∧ "-- ".toList <+: s)) :
    h.Attaches ('-' :: s) .delete s
  | context (s : List Char) : h.Attaches (' ' :: s) .context s
  | blank (hfull : ¬ h.IsFull) : h.Attaches [] .context []

/-- The hunk is the last one of the last patch of these lines, and lines below may belong to it. -/
def IsOpenAfter (h : Hunk) (ls : List (List Char)) : Prop :=
  ∃ ps p hs, FilePatch.ofLines? ls = .ok (ps ++ [p]) ∧ p.hunks = hs ++ [h]

variable {h : Hunk}

/-- A line with a mark belongs to a hunk that is not full, whatever it says. -/
theorem attaches_mark (hroom : ¬ h.IsFull) (kind : LineKind) (s : List Char) :
    h.Attaches (kind.mark.toList ++ s) kind s := by
  cases kind with
  | context => exact .context s
  | add => exact .add s
  | delete => exact .delete s fun hs => hroom hs.1

theorem isWithin_nil (range : HunkRange) : IsWithin ⟨range, []⟩ := ⟨Nat.zero_le _, Nat.zero_le _⟩

theorem isWithin_extend_iff (kind : LineKind) (content : String) :
    (h.extend kind content).IsWithin ↔ h.IsWithin ∧ h.HasRoom kind := by
  rw [IsWithin, oldSize_extend, newSize_extend, range_extend, IsWithin, HasRoom]
  cases kind <;> simp [LineKind.isOld, LineKind.isNew] <;> omega

theorem extend_ne (kind : LineKind) (content : String) : h.extend kind content ≠ h := by
  intro heq
  have hlines : h.lines ++ [_] = h.lines := congrArg Hunk.lines heq
  exact List.cons_ne_nil _ _ (List.append_right_eq_self.1 hlines)

theorem extend_inj {kind kind' : LineKind} {content content' : String}
    (heq : h.extend kind content = h.extend kind' content') :
    kind = kind' ∧ content = content' := by
  have hlines : h.lines ++ [_] = h.lines ++ [_] := congrArg Hunk.lines heq
  obtain ⟨hkind, hcontent, -⟩ := PatchLine.mk.inj (List.cons.inj (List.append_cancel_left hlines)).1
  exact ⟨hkind, hcontent⟩

end Hunk

theorem OpenHunk.IsCounted.isDone_iff {h : OpenHunk} (hc : h.IsCounted) :
    h.isDone = true ↔ h.close.IsFull := by
  rw [isDone, Bool.and_eq_true, decide_eq_true_eq, decide_eq_true_eq, hc.old, hc.new,
    Nat.add_le_add_iff_left, Nat.add_le_add_iff_left]
  rfl

namespace DiffReader
variable {r : DiffReader} {ls : List (List Char)}

/-- The hunk that is open for the reader is the last one of what it has read. -/
theorem isOpenAfter_iff (hread : ls.foldlM step {} = .ok r) {h : Hunk} :
    h.IsOpenAfter ls ↔ ∃ o, r.hunk = some o ∧ o.close = h := by
  have htidy : r.IsTidy := (isNumbered_of_reads hread).isTidy
  have hpatches : FilePatch.ofLines? ls = .ok r.patches :=
    FilePatch.ofLines?_eq_ok_iff.2 ⟨r, hread, rfl⟩
  rw [Hunk.IsOpenAfter, hpatches, patches, List.reverse_append]
  constructor
  · rintro ⟨ps, p, hs, hps, hp⟩
    have hps := Except.ok.inj hps
    cases hpatch : r.patch with
    | none =>
      have hcurrent : r.current = none := by simp [current, hpatch]
      rw [hcurrent, htidy.done_eq_nil hpatch] at hps
      simp at hps
    | some q =>
      cases hhunk : r.hunk with
      | none =>
        have hcurrent : r.current = some q := by simp [current, hpatch, hhunk]
        rw [hcurrent] at hps
        obtain ⟨-, rfl⟩ := List.append_singleton_inj.1 hps
        rw [htidy.hunks_eq_nil hhunk q hpatch] at hp
        simp at hp
      | some o =>
        have hcurrent : r.current = some { q with hunks := q.hunks ++ [o.close] } := by
          simp [current, hpatch, hhunk]
        rw [hcurrent] at hps
        obtain ⟨-, rfl⟩ := List.append_singleton_inj.1 hps
        obtain ⟨-, hclose⟩ := List.append_singleton_inj.1 hp
        exact ⟨o, rfl, hclose⟩
  · rintro ⟨o, ho, rfl⟩
    obtain ⟨q, hq⟩ := Option.isSome_iff_exists.1
      (htidy.isSome_patch (by rw [ho, Option.isSome_some]))
    have hcurrent : r.current = some { q with hunks := q.hunks ++ [o.close] } := by
      simp [current, hq, ho]
    exact ⟨r.done.reverse, _, q.hunks, by rw [hcurrent]; rfl, rfl⟩

/-- A line is read into the open hunk exactly if it belongs to it. -/
theorem role_eq_body_iff {o : OpenHunk} (hopen : r.hunk = some o) (hc : o.IsCounted)
    {line : List Char} {kind : LineKind} {content : List Char} :
    r.role line = .body kind content ↔ o.close.Attaches line kind content := by
  have hexpects : r.expectsHeader = o.isDone := by rw [expectsHeader, hopen, Option.all_some]
  constructor
  · intro hrole
    obtain ⟨o', ho', hbody⟩ := exists_hunk_of_body hrole
    obtain rfl := Option.some.inj (hopen.symm.trans ho')
    fun_cases OpenHunk.role o line with
    | case1 s =>
      cases hbody
      exact .add content
    | case2 s =>
      cases hbody
      -- In a full hunk the line would have been read as an old path.
      refine .delete content ?_
      rintro ⟨hfull, rest, rfl⟩
      have hold : r.role ('-' :: ("-- ".toList ++ rest)) = .oldPath := by
        rw [role, hexpects, hc.isDone_iff.2 hfull]
        rfl
      rw [hold] at hrole
      cases hrole
    | case3 s =>
      cases hbody
      exact .context content
    | case4 hdone =>
      rw [OpenHunk.role, if_pos hdone] at hbody
      cases hbody
    | case5 hdone =>
      rw [OpenHunk.role, if_neg hdone] at hbody
      cases hbody
      exact .blank (mt hc.isDone_iff.2 hdone)
    | case6 =>
      simp only [OpenHunk.role] at hbody
      cases hbody
  · intro hattaches
    cases hattaches with
    | add =>
      have hnew : ("+++ ".toList.isPrefixOf ('+' :: content) && (some o).isNone &&
          r.patch.isSome) = false := by
        rw [Option.isNone_some, Bool.and_false, Bool.false_and]
      rw [role, hopen, hnew]
      rfl
    | delete _ hs =>
      have hold : ("--- ".toList.isPrefixOf ('-' :: content) && r.expectsHeader) = false := by
        rw [Bool.eq_false_iff, Ne, Bool.and_eq_true, List.isPrefixOf_iff_prefix, hexpects,
          hc.isDone_iff]
        rintro ⟨hpath, hfull⟩
        exact hs ⟨hfull, (List.prefix_cons_inj '-').1 hpath⟩
      rw [role, hold, hopen]
      rfl
    | context =>
      rw [role, hopen]
      rfl
    | blank hfull =>
      rw [role, hopen]
      exact if_neg (mt hc.isDone_iff.1 hfull)

end DiffReader

/-! Surplus lines -/

/-- Some line belongs to a hunk that has no room for it. -/
def HasSurplus (ls : List (List Char)) : Prop :=
  ∃ before line after, ls = before ++ line :: after ∧ ∃ (h : Hunk) (kind : LineKind)
    (content : List Char), h.IsOpenAfter before ∧ h.Attaches line kind content ∧ ¬ h.HasRoom kind

theorem not_hasSurplus_nil : ¬ HasSurplus [] := by
  rintro ⟨before, line, after, hsplit, -⟩
  exact List.append_ne_nil_of_right_ne_nil before (List.cons_ne_nil line after) hsplit.symm

/-- Of some lines and one more, either one of them is a surplus line or the last one is. -/
theorem hasSurplus_concat_iff {ls : List (List Char)} {line : List Char} :
    HasSurplus (ls ++ [line]) ↔ HasSurplus ls ∨ ∃ (h : Hunk) (kind : LineKind)
      (content : List Char), h.IsOpenAfter ls ∧ h.Attaches line kind content ∧
        ¬ h.HasRoom kind := by
  constructor
  · rintro ⟨before, line', after, hsplit, hsurplus⟩
    rcases List.eq_nil_or_concat after with rfl | ⟨after, last, rfl⟩
    · obtain ⟨rfl, rfl⟩ := List.append_singleton_inj.1 hsplit
      exact .inr hsurplus
    · rw [List.concat_eq_append, ← List.cons_append, ← List.append_assoc] at hsplit
      obtain ⟨rfl, -⟩ := List.append_singleton_inj.1 hsplit
      exact .inl ⟨before, line', after, rfl, hsurplus⟩
  · rintro (⟨before, line', after, rfl, hsurplus⟩ | hsurplus)
    · exact ⟨before, line', after ++ [line], by simp, hsurplus⟩
    · exact ⟨ls, line, [], rfl, hsurplus⟩

namespace DiffReader

theorem isWithin_iff_of_reads {ls : List (List Char)} {r : DiffReader}
    (h : ls.foldlM step {} = .ok r) : (∀ h ∈ r.hunks, h.IsWithin) ↔ ¬ HasSurplus ls := by
  refine reads_induction (motive := fun ls r => (∀ h ∈ r.hunks, h.IsWithin) ↔ ¬ HasSurplus ls)
    (iff_of_true (fun _ => nofun) not_hasSurplus_nil) ?_ h
  intro ls r line r' hread ih hstep
  have hr : r.IsNumbered := isNumbered_of_reads hread
  rw [hasSurplus_concat_iff, not_or, ← ih]
  cases (hunkStep_of_step hr.isTidy hstep).2 with
  | keep _ hrole _ hhunks =>
    rw [hhunks, iff_self_and]
    rintro - ⟨h, kind, content, hafter, hattaches, -⟩
    obtain ⟨o, ho, rfl⟩ := (isOpenAfter_iff hread).1 hafter
    exact hrole kind content ((role_eq_body_iff ho (hr.isCounted o ho)).2 hattaches)
  | head range hhead _ _ hhunks =>
    rw [hhunks, List.forall_mem_append, List.forall_mem_singleton, and_congr_right_iff]
    intro _
    refine iff_of_true (Hunk.isWithin_nil range) ?_
    rintro ⟨h, kind, content, hafter, hattaches, -⟩
    obtain ⟨o, ho, rfl⟩ := (isOpenAfter_iff hread).1 hafter
    have hbody := (role_eq_body_iff ho (hr.isCounted o ho)).2 hattaches
    rw [role_eq_hunkHead_iff.2 hhead] at hbody
    cases hbody
  | body o kind content before _ hrole hopen _ hhunks hhunks' =>
    have hc : o.IsCounted := hr.isCounted o hopen
    rw [hhunks', hhunks, List.forall_mem_append, List.forall_mem_append, List.forall_mem_singleton,
      List.forall_mem_singleton, hc.close_push, Hunk.isWithin_extend_iff, ← and_assoc,
      and_congr_right_iff]
    intro _
    constructor
    · rintro hroom ⟨h, kind', content', hafter, hattaches, hfull⟩
      obtain ⟨o', ho', rfl⟩ := (isOpenAfter_iff hread).1 hafter
      obtain rfl := Option.some.inj (hopen.symm.trans ho')
      obtain ⟨rfl, rfl⟩ := LineRole.body.inj
        (hrole.symm.trans ((role_eq_body_iff hopen hc).2 hattaches))
      exact hfull hroom
    · intro hnone
      by_contra hfull
      exact hnone ⟨o.close, kind, content, (isOpenAfter_iff hread).2 ⟨o, hopen, rfl⟩,
        (role_eq_body_iff hopen hc).1 hrole, hfull⟩

theorem isOpenAfter_concat_iff {ls : List (List Char)} {h : Hunk} (hafter : h.IsOpenAfter ls)
    (line : List Char) (kind : LineKind) (content : List Char) :
    (h.extend kind (String.ofList content)).IsOpenAfter (ls ++ [line]) ↔
      h.Attaches line kind content := by
  have hread : ∃ r, ls.foldlM step {} = .ok r := by
    obtain ⟨ps, p, hs, hps, -⟩ := hafter
    obtain ⟨r, hr, -⟩ := FilePatch.ofLines?_eq_ok_iff.1 hps
    exact ⟨r, hr⟩
  obtain ⟨r, hread⟩ := hread
  obtain ⟨o, hopen, rfl⟩ := (isOpenAfter_iff hread).1 hafter
  have hr : r.IsNumbered := isNumbered_of_reads hread
  have hc : o.IsCounted := hr.isCounted o hopen
  have hmore : (ls ++ [line]).foldlM step {} = r.step line := by
    rw [List.foldlM_append, hread]
    exact bind_pure (r.step line)
  rw [← role_eq_body_iff hopen hc]
  constructor
  · rintro ⟨ps, p, hs, hps, hp⟩
    obtain ⟨r', hread', hpatches⟩ := FilePatch.ofLines?_eq_ok_iff.1 hps
    obtain ⟨o', hopen', hclose⟩ := (isOpenAfter_iff hread').1 ⟨ps, p, hs, hps, hp⟩
    rw [hmore] at hread'
    cases (hunkStep_of_step hr.isTidy hread').2 with
    | keep _ _ hsame _ =>
      obtain rfl := Option.some.inj (hopen.symm.trans (hsame o' hopen'))
      exact absurd hclose.symm (Hunk.extend_ne _ _)
    | head range _ _ hnew _ =>
      obtain rfl := Option.some.inj (hnew.symm.trans hopen')
      have hlines := congrArg Hunk.lines hclose
      exact absurd hlines.symm (List.append_ne_nil_of_right_ne_nil _ (List.cons_ne_nil _ _))
    | body o₁ kind₁ content₁ _ _ hrole hopen₁ hopen₂ _ _ =>
      obtain rfl := Option.some.inj (hopen.symm.trans hopen₁)
      obtain rfl := Option.some.inj (hopen₂.symm.trans hopen')
      rw [hc.close_push] at hclose
      obtain ⟨rfl, hcontent⟩ := Hunk.extend_inj hclose
      rw [hrole, String.ofList_injective hcontent]
  · intro hrole
    exact (isOpenAfter_iff (hmore.trans (step_of_body hopen hrole))).2
      ⟨_, rfl, hc.close_push kind content⟩

end DiffReader

namespace FilePatch

/-- A hunk has more lines than its head tells exactly if some line belongs to it when no such line
is missing. What a full hunk takes nevertheless are the lines with a mark, unless they seem to tell
a path. -/
theorem isWithin_ofDiff?_iff {text : String} {ps : List FilePatch} (hps : ofDiff? text = .ok ps) :
    ((∀ h ∈ ps.flatMap (·.hunks), h.IsWithin) ↔ ¬ HasSurplus (Text.lines text.toList)) ∧
      ∀ (before : List (List Char)) (line : List Char) (h : Hunk), h.IsOpenAfter before →
        ∀ kind content, (h.extend kind (String.ofList content)).IsOpenAfter (before ++ [line]) ↔
          h.Attaches line kind content := by
  obtain ⟨r, hread, rfl⟩ := ofLines?_eq_ok_iff.1 hps
  exact ⟨DiffReader.isWithin_iff_of_reads hread, fun before line h hafter kind content =>
    DiffReader.isOpenAfter_concat_iff hafter line kind content⟩

/-- A full hunk, and behind it a blank line, the signature of a mail and an added line. -/
def signedDiff : String :=
  "--- a/x\n+++ b/x\n@@ -1 +1 @@\n-a\n+b\n\n-- \n2.39\n+c\n"

theorem isWithin_ofDiff?_iff_of_signature : ∃ ps, ofDiff? signedDiff = .ok ps ∧
    ((∀ h ∈ ps.flatMap (·.hunks), h.IsWithin) ↔ ¬ HasSurplus (Text.lines signedDiff.toList)) ∧
      ∀ (before : List (List Char)) (line : List Char) (h : Hunk), h.IsOpenAfter before →
        ∀ kind content, (h.extend kind (String.ofList content)).IsOpenAfter (before ++ [line]) ↔
          h.Attaches line kind content := by
  have hread : ∃ ps, ofDiff? signedDiff = .ok ps := ⟨_, rfl⟩
  obtain ⟨ps, hps⟩ := hread
  exact ⟨ps, hps, isWithin_ofDiff?_iff hps⟩

/-- The signature becomes a deleted line, and the line behind it is reviewed. -/
theorem not_isWithin_of_signature : ∃ p h, ofDiff? signedDiff = .ok [p] ∧ p.hunks = [h] ∧
    h.range = ⟨1, 1, 1, 1⟩ ∧ h.lines.map (·.content) = ["a", "b", "- ", "c"] ∧ ¬ h.IsWithin ∧
    p.addedLines = [(1, "b"), (2, "c")] := by
  refine ⟨_, _, rfl, rfl, rfl, rfl, ?_, rfl⟩
  rintro ⟨hold, -⟩
  exact absurd hold (by decide)

end FilePatch
end PatchReview
