import PatchReview.Config.Basic
import PatchReview.Proofs.Report.Colour
import PatchReview.Proofs.Review.Coherence

/-! What a threshold does to reports. Every finding has a place in a report, in the order of the
result, and a threshold leaves the place of a finding below it empty; all else that is told is told of
the whole result. Whether a review fails depends on the findings in the report alone, so a lower
threshold, or more kinds to fail on, can make it fail but not pass. -/
namespace PatchReview

namespace Category
variable {b c d : Category}

/-- The kinds of findings with which a review fails that is to fail on a kind. -/
def failing : Category → List Category
  | bug => [bug]
  | refactor => [bug, refactor]
  | suggestion => [bug, refactor, suggestion]

theorem mem_failing_iff : d ∈ c.failing ↔ d.sortOrder ≤ c.sortOrder := by
  cases c <;> cases d <;> decide

theorem failing_trans (h : d ∈ c.failing) (h' : c ∈ b.failing) : d ∈ b.failing := by
  rw [mem_failing_iff] at h h' ⊢
  exact h.trans h'

end Category

namespace Report

/-- The text in the place of a finding. -/
def place (m : Int) (block : Finding → String) (x : Finding) : String :=
  if m ≤ x.confidence then block x else ""

/-- A review fails at a threshold that is to fail on a kind, if it is to fail at all. -/
def Fails (failOn : Option Category) (m : Int) (findings : List Finding) : Prop :=
  ∃ x ∈ findings, m ≤ x.confidence ∧ ∃ kind ∈ failOn, x.category ∈ kind.failing

variable {failOn failOn' : Option Category} {m m' : Int} {findings : List Finding}

theorem Fails.imp (h : Fails failOn' m' findings) (hm : m ≤ m')
    (hkind : ∀ kind' ∈ failOn', ∃ kind ∈ failOn, kind' ∈ kind.failing) :
    Fails failOn m findings := by
  obtain ⟨x, hx, hshown, kind', hkind', hfailing⟩ := h
  obtain ⟨kind, hkind, hless⟩ := hkind kind' hkind'
  exact ⟨x, hx, hm.trans hshown, kind, hkind, Category.failing_trans hfailing hless⟩

/-- The number that a finding carries stands for its kind. -/
theorem reaches_visible_iff (h : ∀ x ∈ findings, x.IsClassified) :
    reaches failOn (visible m findings) = true ↔ Fails failOn m findings := by
  rw [reaches, Option.any_eq_true]
  simp only [List.any_eq_true, decide_eq_true_iff, visible, List.mem_filter]
  constructor
  · rintro ⟨kind, hkind, x, ⟨hx, hshown⟩, hless⟩
    rw [(h x hx).sortOrder] at hless
    exact ⟨x, hx, hshown, kind, hkind, Category.mem_failing_iff.2 hless⟩
  · rintro ⟨x, hx, hshown, kind, hkind, hfailing⟩
    refine ⟨kind, hkind, x, ⟨hx, hshown⟩, ?_⟩
    rw [(h x hx).sortOrder]
    exact Category.mem_failing_iff.1 hfailing

theorem join_visible (m : Int) (block : Finding → String) (findings : List Finding) :
    String.join ((visible m findings).map block) =
      String.join (findings.map (place m block)) := by
  induction findings with
  | nil => rfl
  | cons x xs ih =>
    rw [List.map_cons, String.join_cons, ← ih, place]
    by_cases hx : m ≤ x.confidence
    · have hvisible : visible m (x :: xs) = x :: visible m xs :=
        List.filter_cons_of_pos (decide_eq_true hx)
      rw [hvisible, List.map_cons, String.join_cons, if_pos hx]
    · have hvisible : visible m (x :: xs) = visible m xs :=
        List.filter_cons_of_neg (mt of_decide_eq_true hx)
      rw [hvisible, if_neg hx, String.empty_append]

/-- The text is the report on a result, in a certain format, in colours or without them, of the
findings with a confidence of at least `m`: each has its place or its record there, in the order of
the result. The numbers and the summary are those of all findings. -/
def IsReport (r : ReviewResult) (m : Int) (coloured : Bool) : OutputFormat → String → Prop
  | .human, t => t =
      numbers coloured r.stats ++ partialNotice coloured r.isPartial ++
        hiddenNotice (r.stats.total - (r.findings.filter (m ≤ ·.confidence)).length) m ++
        String.join (r.findings.map (place m (listed coloured)))
  | .markdown, t => t = r.summary ++ String.join (r.findings.map (place m sectioned)) ++ "\n"
  | .json, t => ∃ kinds files change info, t = objectText [
      ("categories", kinds),
      ("files", files),
      ("findings", listText ((r.findings.filter (m ≤ ·.confidence)).map recordText)),
      ("meta", info),
      ("partial", if r.isPartial then "true" else "false"),
      ("pr_intent", change),
      ("stats", statsText r.stats),
      ("summary", quoted r.summary)]

/-- Each report comes with a plain one, which is what is left of it without colours. -/
theorem IsReport.exists_plain {r : ReviewResult} {format : OutputFormat} {t : String}
    (h : IsReport r m true format t) :
    ∃ plain, IsReport r m false format plain ∧ TextStyle.Fades t plain := by
  cases format with
  | human =>
    refine ⟨_, rfl, ?_⟩
    obtain rfl : t = _ := h
    have hplaces : ∀ x, TextStyle.Fades (place m (listed true) x) (place m (listed false) x) := by
      intro x
      unfold place
      split
      · exact fades_listed x
      · exact TextStyle.fades_self ""
    exact (((fades_numbers _).append (fades_partialNotice _)).append
      (TextStyle.fades_self _)).append (TextStyle.fades_join hplaces _)
  | markdown => exact ⟨t, h, TextStyle.fades_self t⟩
  | json => exact ⟨t, h, TextStyle.fades_self t⟩

/-- All findings that are shown are on lines whose numbers can be written. -/
def CanBeWritten (m : Int) (r : ReviewResult) : Prop :=
  ∀ x ∈ r.findings, m ≤ x.confidence → x.line.natAbs < 10 ^ Number.maxDigits

theorem isWritable_iff {r : ReviewResult} : isWritable m r = true ↔ CanBeWritten m r := by
  simp only [isWritable, visible, Number.isWritable, Nat.pow_eq, List.all_eq_true,
    List.mem_filter, decide_eq_true_iff, CanBeWritten, and_imp]

/-- What can be written from a threshold on can be written from a higher one on. -/
theorem CanBeWritten.mono {r : ReviewResult} (h : CanBeWritten m r) (hm : m ≤ m') :
    CanBeWritten m' r :=
  fun x hx hshown => h x hx (hm.trans hshown)

/-- The reports on a result tell, at each threshold, of all its findings from there on. -/
structure IsExact (r : ReviewResult) (tone : String) : Prop where
  coherent : r.IsCoherent tone
  listing (m : Int) : IsReport r m true .human (listing r m)
  document (m : Int) : IsReport r m true .markdown (document r m)
  json (origin : Origin) : IsReport r origin.minConfidence true .json (json r origin)
  fails (failOn : Option Category) (m : Int) :
    reaches failOn (visible m r.findings) = true ↔ Fails failOn m r.findings

end Report

namespace Reviewer
variable {r : Reviewer} {history : AccuracyStore} {limits : ReviewLimits}
  {inTime : ReviewFile → Bool} {files : List ReviewFile}

theorem isClassified_of_mem_runFiles {x : Finding}
    (hx : x ∈ (r.runFiles history limits inTime files).result.findings) : x.IsClassified := by
  refine isClassified_of_mem_collect ?_ x hx
  intro review hreview
  obtain ⟨f, -, hreview⟩ := List.mem_map.1 hreview
  split at hreview
  · obtain rfl := Option.some.inj hreview
    exact fun _ => isClassified_of_mem_reviewFile
  · cases hreview

theorem isExact_runFiles :
    Report.IsExact (r.runFiles history limits inTime files).result r.rules.tone where
  coherent := isCoherent_runFiles
  listing m := by
    rw [Report.IsReport, ← Report.join_visible]
    exact Report.listing_eq_places _ m
  document m := by
    rw [Report.IsReport, ← Report.join_visible]
    exact Report.document_eq_places _ m
  json origin := by
    obtain ⟨kinds, files, change, hjson⟩ := Report.json_eq_records
      (r.runFiles history limits inTime files).result
    obtain ⟨info, hinfo⟩ := hjson origin
    exact ⟨kinds, files, change, info, hinfo⟩
  fails _ _ := Report.reaches_visible_iff fun _ => isClassified_of_mem_runFiles

end Reviewer
end PatchReview
