import PatchReview.Proofs.CommandLine.Inputs
import PatchReview.Proofs.CommandLine.Findings
import PatchReview.Proofs.Review.Unchanged

/-! Text around the added lines, and what a change says of itself, in reviews on the command line
and in runs on files that are given as data: neither shows in a report, but for the purposes that
reports for other programs name. -/
namespace PatchReview
namespace CommandLine

variable {host host' : Host Id} {o : ReviewOptions} {title body : Option String}
  {labels : List String}

/-- Files that patches lead to have the same lines under review, whatever text is at hand. -/
theorem forall₂_sameLines {patches : List FilePatch} {files files' : List ReviewFile}
    (h : List.Forall₂ (fun p f => ∃ content, f = fileOfPatch p content) patches files)
    (h' : List.Forall₂ (fun p f => ∃ content, f = fileOfPatch p content) patches files') :
    List.Forall₂ ReviewFile.SameLines files files' := by
  induction h generalizing files' with
  | nil =>
    cases h'
    exact .nil
  | cons hfile _ ih =>
    cases h' with
    | cons hfile' hfiles' =>
      obtain ⟨content, rfl⟩ := hfile
      obtain ⟨content', rfl⟩ := hfile'
      exact .cons ⟨rfl, rfl, rfl⟩ (ih hfiles')

namespace SameInputs

theorem firstLog (h : SameInputs host host' o) : firstLog host = firstLog host' := by
  unfold CommandLine.firstLog
  rw [h.environment]

/-- Both reviews have the same at hand before they look at files. -/
theorem given_eq (h : SameInputs host host' o) (c : Course host o)
    (c' : Course host' { o with title, body, labels }) : c.given = c'.given := by
  obtain ⟨t, hprepared⟩ := c.prepared
  obtain ⟨t', hprepared'⟩ := c'.prepared
  rw [← h.firstLog] at hprepared'
  exact ((h.ends_prepare title body labels hprepared).unique hprepared').1

theorem sameReports (h : SameInputs host host' o) (c : Course host o)
    (c' : Course host' { o with title, body, labels }) : c.result.SameReports c'.result := by
  have hgiven := h.given_eq c c'
  have hfiles' := c'.loaded
  rw [← hgiven] at hfiles'
  have hreviewer : c'.reviewer = { c.reviewer with change := c'.change } := by
    rw [Course.reviewer, ← hgiven]
    rfl
  rw [Course.result, Course.result, hreviewer]
  exact c.reviewer.sameReports_sequential c'.change {} (forall₂_sameLines c.loaded hfiles')

/-- Reports for people are the same. -/
theorem report_eq (h : SameInputs host host' o) (c : Course host o)
    (c' : Course host' { o with title, body, labels }) (hformat : c.given.plan.format ≠ .json) :
    report host c.given.plan c.result = report host' c'.given.plan c'.result := by
  have hsame := h.sameReports c c'
  rw [← h.given_eq c c']
  unfold report
  cases hcase : c.given.plan.format with
  | json => exact (hformat hcase).elim
  | markdown => exact hsame.document c.given.plan.minConfidence
  | human => exact hsame.listing c.given.plan.minConfidence

/-- Reports for other programs are the same up to the purposes and the time. -/
theorem exists_report_eq (h : SameInputs host host' o) (c : Course host o)
    (c' : Course host' { o with title, body, labels }) (hformat : c.given.plan.format = .json) :
    ∃ v v', report host c.given.plan c.result = Json.text .unicode v ∧
      report host' c'.given.plan c'.result = Json.text .unicode v' ∧
      Report.withoutPurposes v = Report.withoutPurposes v' := by
  have hsame := h.sameReports c c'
  rw [← h.given_eq c c']
  unfold report
  rw [hformat]
  exact ⟨_, _, rfl, rfl, hsame.data host.time host'.time _ _⟩

theorem isFailing_eq (h : SameInputs host host' o) (c : Course host o)
    (c' : Course host' { o with title, body, labels }) :
    (c.answer c.result).isFailing = (c'.answer c'.result).isFailing := by
  have hsame := h.sameReports c c'
  rw [Course.answer, Course.answer, ← h.given_eq c c', hsame.findings]

end SameInputs
end CommandLine

/-- In runs on files that are given as data, the text around the changed lines does not show. -/
theorem Reviewer.sameReports_run {r : Reviewer} {change : Option ChangeIntent}
    {history : AccuracyStore} {limits limits' : ReviewLimits} {inTime inTime' : ReviewFile → Bool}
    {values values' : List Value} {files files' : List ReviewFile} {done done' : ReviewRun}
    (hvalues : values.mapM ReviewFile.ofValue? = .ok files)
    (hvalues' : values'.mapM ReviewFile.ofValue? = .ok files')
    (hfiles : List.Forall₂ ReviewFile.SameLines files files')
    (hrun : r.run history limits inTime values = .ok done)
    (hrun' : ({ r with change } : Reviewer).run history limits' inTime' values' = .ok done')
    (hall : done.result.isPartial = false) (hall' : done'.result.isPartial = false) :
    done.result.SameReports done'.result := by
  obtain ⟨-, read, hread, -, rfl⟩ := run_eq_ok.1 hrun
  obtain ⟨-, read', hread', -, rfl⟩ := run_eq_ok.1 hrun'
  obtain rfl := Except.ok.inj (hread.symm.trans hvalues)
  obtain rfl := Except.ok.inj (hread'.symm.trans hvalues')
  rw [runFiles_eq_sequential hall, runFiles_eq_sequential hall']
  exact r.sameReports_sequential change history hfiles

namespace CommandLine

/-- Two reviews of one change with one configuration and one set of rules report the same, however
the files differ outside the added lines and whatever is said of the change: they end with one exit
code, and their reports for people are the same to the letter. Reports for other programs may
differ in the purposes of the change and of the files, and in the time. So it is with runs on files
that are given as data. -/
theorem reports_ignore_unchanged_text :
    (∀ {host host' : Host Id} {words words' : List String} {o : ReviewOptions}
        {title body : Option String} {labels : List String},
      Command.ofWords words = .ok (.review o) →
      Command.ofWords words' = .ok (.review { o with title, body, labels }) →
      SameInputs host host' o → (run host words).error = none → (run host' words').error = none →
      ∃ (c : Course host o) (c' : Course host' { o with title, body, labels }),
        c.given = c'.given ∧
        (run host words).output = shown (report host c.given.plan c.result) ∧
        (run host' words').output = shown (report host' c'.given.plan c'.result) ∧
        c.result.SameReports c'.result ∧
        (run host words).exitCode = (run host' words').exitCode ∧
        (c.given.plan.format ≠ .json → (run host words).output = (run host' words').output) ∧
        (c.given.plan.format = .json → ∃ v v',
          (run host words).output = shown (Json.text .unicode v) ∧
          (run host' words').output = shown (Json.text .unicode v') ∧
          Report.withoutPurposes v = Report.withoutPurposes v')) ∧
    ∀ {r : Reviewer} {change : Option ChangeIntent} {history : AccuracyStore}
        {limits limits' : ReviewLimits} {inTime inTime' : ReviewFile → Bool}
        {values values' : List Value} {files files' : List ReviewFile} {done done' : ReviewRun},
      values.mapM ReviewFile.ofValue? = .ok files → values'.mapM ReviewFile.ofValue? = .ok files' →
      List.Forall₂ ReviewFile.SameLines files files' →
      r.run history limits inTime values = .ok done →
      ({ r with change } : Reviewer).run history limits' inTime' values' = .ok done' →
      done.result.isPartial = false → done'.result.isPartial = false →
      done.result.SameReports done'.result := by
  refine ⟨?_, Reviewer.sameReports_run⟩
  intro host host' words words' o title body labels hwords hwords' hinputs hdone hdone'
  obtain ⟨c, houtput, hexit⟩ := exists_course_in_time hwords hdone
  obtain ⟨c', houtput', hexit'⟩ := exists_course_in_time hwords' hdone'
  refine ⟨c, c', hinputs.given_eq c c', houtput, houtput', hinputs.sameReports c c', ?_, ?_, ?_⟩
  · rw [hexit, hexit', hinputs.isFailing_eq c c']
  · intro hformat
    rw [houtput, houtput']
    exact congrArg shown (hinputs.report_eq c c' hformat)
  · intro hformat
    obtain ⟨v, v', hv, hv', hsame⟩ := hinputs.exists_report_eq c c' hformat
    exact ⟨v, v', houtput.trans (congrArg shown hv), houtput'.trans (congrArg shown hv'), hsame⟩

/-- A machine without files whose version control knows one change. It answers `shown` where the
text of a file is asked for. -/
def hostOfRevisions (shown : GitAnswer) : Host Id where
  workingDirectory := ⟨"/", ["work"]⟩
  environment := fun _ => none
  entry := fun _ => .missing
  input := ""
  git := fun args =>
    match args with
    | "show" :: _ => shown
    | _ => .exited "--- a/a.py\n+++ b/a.py\n@@ -1 +1 @@\n-pwd = 'b'\n+pwd = 'c'" "" 0
  time := "1970-01-01T00:00:00Z"

theorem sameInputs_hostOfRevisions (shown shown' : GitAnswer) (o : ReviewOptions) :
    SameInputs (hostOfRevisions shown) (hostOfRevisions shown') o where
  workingDirectory := rfl
  environment := rfl
  input := rfl
  diff := fun _ => rfl
  look := fun _ => rfl

/-- A file that cannot be shown, and a title, change no exit code; nor does a marker comment outside
the changed lines change a report. -/
theorem reports_ignore_unchanged_text_of_revisions :
    let host := hostOfRevisions (.exited "# DEBUG" "" 0)
    let host' := hostOfRevisions (.exited "" "" 128)
    let words := ["review", "--base", "a", "--head", "b"]
    let words' := ["review", "--base", "a", "--head", "b", "--title", "fix: keys"]
    let r : Reviewer := { rules := {}, detectors := [.secrets] }
    let lines : Value := .list [.table [("line", .int 3), ("content", .text "pwd = 'x'")]]
    let values : List Value := [.table [("path", .text "a.py"), ("changed_lines", lines)]]
    let values' : List Value := [.table
      [("path", .text "a.py"), ("content", .text "# DEBUG"), ("changed_lines", lines)]]
    ((run host words).error = none ∧ (run host' words').error = none ∧
      (run host words).exitCode = (run host' words').exitCode) ∧
    ∃ done done', r.run {} {} (fun _ => true) values = .ok done ∧
      r.run {} {} (fun _ => true) values' = .ok done' ∧ done.result.SameReports done'.result := by
  intro host host' words words' r lines values values'
  let o : ReviewOptions :=
    { setting := { repository := Path.ofString "." }, diffFile := none, fromInput := false,
      base := "a", head := "b", title := none, body := none, labels := [], rules := none,
      format := none, minConfidence := none, failOn := none, included := none, excluded := none,
      workers := none, timeout := none }
  have hwords : Command.ofWords words = .ok (.review o) := rfl
  have hwords' : Command.ofWords words' = .ok (.review
      { o with title := some "fix: keys", body := none, labels := [] }) := rfl
  have hdone : (run host words).error = none :=
    error_eq_none_of_reachesReport hwords (by decide +kernel)
  have hdone' : (run host' words').error = none :=
    error_eq_none_of_reachesReport hwords' (by decide +kernel)
  obtain ⟨-, -, -, -, -, -, hexit, -⟩ := reports_ignore_unchanged_text.1 hwords hwords'
    (sameInputs_hostOfRevisions _ _ _) hdone hdone'
  let f : ReviewFile := { path := "a.py", changed := some [⟨3, "pwd = 'x'"⟩] }
  let f' : ReviewFile := { f with content := "# DEBUG" }
  have hfiles : List.Forall₂ ReviewFile.SameLines [f] [f'] := .cons ⟨rfl, rfl, rfl⟩ .nil
  have hrun : r.run {} {} (fun _ => true) values =
      .ok (r.runFiles {} {} (fun _ => true) [f]) := rfl
  have hrun' : ({ r with change := none } : Reviewer).run {} {} (fun _ => true) values' =
      .ok (r.runFiles {} {} (fun _ => true) [f']) := rfl
  have hsame := reports_ignore_unchanged_text.2 rfl rfl hfiles hrun hrun' rfl rfl
  exact ⟨⟨hdone, hdone', hexit⟩, _, _, hrun, hrun', hsame⟩

end CommandLine
end PatchReview
