import PatchReview.Proofs.CommandLine.Findings
import PatchReview.Proofs.Report.Threshold

/-! Thresholds on the command line. The format of the report, its threshold and the kind of findings
to fail on play no part in a review before its report is written. So reviews that differ in them alone
report one result, and whether they fail can be compared. -/
namespace PatchReview.CommandLine

/-- The options on the report. -/
structure ReportOptions where
  format : Option String
  minConfidence : Option Int
  failOn : Option String

/-- The options with others on the report. -/
def ReviewOptions.withReport (o : ReviewOptions) (wish : ReportOptions) : ReviewOptions :=
  { o with format := wish.format, minConfidence := wish.minConfidence, failOn := wish.failOn }

section Plan
variable {o : ReviewOptions} {wish : ReportOptions} {config : Config} {plan plan' : ReviewPlan}

theorem ReviewPlan.Follows.eq_of_withReport (h : plan.Follows o config)
    (h' : plan'.Follows (o.withReport wish) config) :
    plan' = { plan with format := plan'.format, minConfidence := plan'.minConfidence,
                        failOn := plan'.failOn } := by
  have hsource : plan'.source = plan.source := Except.ok.inj (h'.source.symm.trans h.source)
  have hscope : plan'.scope = plan.scope := h'.scope.trans h.scope.symm
  have hlimits : plan'.limits = plan.limits := h'.limits.trans h.limits.symm
  have hmax : plan'.maxFiles = plan.maxFiles := h'.maxFiles.trans h.maxFiles.symm
  rw [← hsource, ← hscope, ← hlimits, ← hmax]

/-- All formats, percentages and kinds can be asked for. -/
theorem ReviewPlan.Follows.withReport (h : plan.Follows o config) (format : OutputFormat) {m : Int}
    (hm : 0 ≤ m) (hm' : m ≤ 100) (kind : Category) :
    ReviewPlan.Follows { plan with format, minConfidence := m, failOn := some kind }
      (o.withReport ⟨some format.name, some m, some kind.choice⟩) config where
  format := by
    have hname : orElse format.name config.format.name = format.name :=
      if_neg (by cases format <;> decide)
    refine (congrArg _ hname).trans ?_
    cases format <;> rfl
  minConfidence := rfl
  isPercentage := ⟨hm, hm'⟩
  failOn := by cases kind <;> rfl
  source := h.source
  scope := h.scope
  limits := h.limits
  maxFiles := h.maxFiles

end Plan

variable {host : Host Id} {o : ReviewOptions} {wish : ReportOptions} {t t' : Transcript}
  {inTime : ReviewFile → Bool}

theorem ends_prepare_withReport {given : Material} {plan : ReviewPlan}
    (h : (prepare host o).Ends t given t')
    (hplan : ReviewPlan.ofOptions (o.withReport wish) given.config = .ok plan) :
    (prepare host (o.withReport wish)).Ends t { given with plan } t' := by
  obtain ⟨t₁, t₂, text, hconfig, hasked, hrules, hdetectors, htext, hpatches⟩ :=
    ends_prepare_iff.1 h
  have hfollows := ofOptions_eq_ok_iff.1 hasked
  have hsource : plan.source = given.plan.source := by
    rw [hfollows.eq_of_withReport (ofOptions_eq_ok_iff.1 hplan)]
  rw [← hsource] at htext
  exact ends_prepare_iff.2 ⟨t₁, t₂, text, hconfig, hplan, hrules, hdetectors, htext, hpatches⟩

theorem examine_withReport (host : Host Id) (o : ReviewOptions) (inTime : ReviewFile → Bool)
    (wish : ReportOptions) (given : Material) (format : OutputFormat) (m : Int)
    (failOn : Option Category) :
    examine host (o.withReport wish) inTime
      { given with plan := { given.plan with format, minConfidence := m, failOn } } =
      examine host o inTime given := rfl

/-! What is told of a result -/

/-- The outcome reports a result as a plan asks for, and tells by the exit code whether a finding that
is shown makes the review fail. Colours are taken away from the report, and no more than them where it
has no control characters of its own. -/
structure Outcome.Reports (outcome : Outcome) (plan : ReviewPlan) (result : ReviewResult) :
    Prop where
  error : outcome.error = none
  output : ∃ coloured plain,
    Report.IsReport result plan.minConfidence true plan.format coloured ∧
    Report.IsReport result plan.minConfidence false plan.format plain ∧
    outcome.output = shown coloured ∧
    ('\x1b' ∉ plain.toList → outcome.output = plain ++ "\n")
  exitCode_eq_one_iff : outcome.exitCode = 1 ↔
    Report.Fails plan.failOn plan.minConfidence result.findings
  exitCode_eq_zero_iff : outcome.exitCode = 0 ↔
    ¬ Report.Fails plan.failOn plan.minConfidence result.findings

/-- What comes of a result: a report on it, unless a finding that is shown is on a line whose number
cannot be written. -/
structure Outcome.Presents (outcome : Outcome) (plan : ReviewPlan) (result : ReviewResult) :
    Prop where
  reports : Report.CanBeWritten plan.minConfidence result → outcome.Reports plan result
  stops : ¬ Report.CanBeWritten plan.minConfidence result →
    outcome.error = some .integerTooLong ∧ outcome.exitCode = 1 ∧ outcome.output = ""

theorem shown_of_fades {t plain : String} (h : TextStyle.Fades t plain)
    (hplain : '\x1b' ∉ plain.toList) : shown t = plain ++ "\n" := by
  have hline : TextStyle.Fades (t ++ "\n") (plain ++ "\n") := h.append (TextStyle.fades_self _)
  have hmem : '\x1b' ∉ (plain ++ "\n").toList := by
    rw [String.toList_append, List.mem_append, not_or]
    exact ⟨hplain, by decide⟩
  have hnil : TextStyle.strip [] = [] := by
    rw [TextStyle.strip]
    rfl
  have hstrip := hline hmem []
  rw [List.append_nil, hnil, List.append_nil] at hstrip
  rw [shown, hstrip, String.ofList_toList]

theorem isReport_report {result : ReviewResult} {tone : String}
    (hresult : Report.IsExact result tone) (host : Host Id) (plan : ReviewPlan) :
    Report.IsReport result plan.minConfidence true plan.format (report host plan result) := by
  unfold report
  cases plan.format with
  | human => exact hresult.listing plan.minConfidence
  | markdown => exact hresult.document plan.minConfidence
  | json => exact hresult.json ⟨host.time, plan.source.name, plan.minConfidence⟩

/-- A result comes to its report, or to no output at all. -/
theorem presents_of_present {result : ReviewResult} {tone : String}
    (hresult : Report.IsExact result tone) (host : Host Id) (plan : ReviewPlan) (t : Transcript) :
    (Outcome.ofAnswer ((present host plan result).run.run t).2.records
      ((present host plan result).run.run t).1).Presents plan result := by
  have hrun : (present host plan result).run.run t =
      if Report.isWritable plan.minConfidence result then
        (.ok { output := report host plan result
               isFailing := Report.reaches plan.failOn
                (Report.visible plan.minConfidence result.findings) }, t)
      else (.error .integerTooLong, t) := by
    unfold present checkNumbers
    cases Report.isWritable plan.minConfidence result <;> rfl
  have hfails := hresult.fails plan.failOn plan.minConfidence
  rw [hrun]
  constructor
  · intro hwritten
    rw [if_pos (Report.isWritable_iff.2 hwritten)]
    have hreport := isReport_report hresult host plan
    obtain ⟨plain, hplain, hfades⟩ := hreport.exists_plain
    refine ⟨rfl, ⟨_, plain, hreport, hplain, rfl, shown_of_fades hfades⟩, ?_, ?_⟩
    · rw [← hfails]
      simp [Outcome.ofAnswer]
    · rw [← hfails]
      simp [Outcome.ofAnswer]
  · intro hwritten
    rw [if_neg (mt Report.isWritable_iff.1 hwritten)]
    exact ⟨rfl, rfl, rfl⟩

/-- Less confidence asked for, or more kinds to fail on, in whatever formats. -/
theorem Outcome.Presents.exitCode_mono {outcome outcome' : Outcome} {plan plan' : ReviewPlan}
    {result : ReviewResult} (h : outcome.Presents plan result)
    (h' : outcome'.Presents plan' result) (hm : plan.minConfidence ≤ plan'.minConfidence)
    (hkind : ∀ kind' ∈ plan'.failOn, ∃ kind ∈ plan.failOn, kind' ∈ kind.failing)
    (hexit : outcome'.exitCode = 1) : outcome.exitCode = 1 := by
  by_cases hwritten : Report.CanBeWritten plan.minConfidence result
  · have hfails := (h'.reports (hwritten.mono hm)).exitCode_eq_one_iff.1 hexit
    exact (h.reports hwritten).exitCode_eq_one_iff.2 (hfails.imp hm hkind)
  · exact (h.stops hwritten).2.1

theorem Course.isExact (c : Course host o) (inTime : ReviewFile → Bool) :
    Report.IsExact (c.resultAt inTime) c.given.rules.tone :=
  Reviewer.isExact_runFiles

/-- A review that comes to its end reports what a course of it finds. -/
theorem exists_course_reports {words : List String}
    (hwords : Command.ofWords words = .ok (.review o))
    (hdone : (run host words inTime).error = none) :
    ∃ c : Course host o, (run host words inTime).Reports c.given.plan (c.resultAt inTime) := by
  obtain ⟨a, t, hreview, hrun⟩ := ends_of_run hwords hdone
  obtain ⟨given, t₁, result, hgiven, hresult, hpresent⟩ := ends_review hreview
  obtain ⟨c, rfl, rfl⟩ := ends_examine hresult ⟨t₁, hgiven⟩
  have hpresents := presents_of_present (c.isExact inTime) host c.given.plan t
  rw [hpresent] at hpresents
  rw [hrun]
  exact ⟨c, hpresents.reports (Report.isWritable_iff.1 (ends_present.1 hpresent).1)⟩

/-- The review of a change comes to a result, which remains to be reported. -/
def ComesToResult (host : Host Id) (o : ReviewOptions) (inTime : ReviewFile → Bool) : Prop :=
  ∃ given t result t', (prepare host o).Ends (firstLog host) given t ∧
    (examine host o inTime given).Ends t result t'

theorem comesToResult_of_run {words : List String}
    (hwords : Command.ofWords words = .ok (.review o))
    (hdone : (run host words inTime).error = none) : ComesToResult host o inTime := by
  obtain ⟨a, t, hreview, -⟩ := ends_of_run hwords hdone
  obtain ⟨given, t₁, result, hgiven, hresult, -⟩ := ends_review hreview
  exact ⟨given, t₁, result, t, hgiven, hresult⟩

/-- The result of a review tells how all reviews end that differ from it in the report alone. -/
theorem exists_course_presents (h : ComesToResult host o inTime) :
    ∃ c : Course host o, c.given.plan.Follows o c.given.config ∧
      ∀ (wish : ReportOptions) (words : List String) (plan : ReviewPlan),
        Command.ofWords words = .ok (.review (o.withReport wish)) →
        ReviewPlan.ofOptions (o.withReport wish) c.given.config = .ok plan →
        (run host words inTime).Presents plan (c.resultAt inTime) := by
  obtain ⟨given, t₁, result, t, hgiven, hresult⟩ := h
  obtain ⟨c, rfl, rfl⟩ := ends_examine hresult ⟨t₁, hgiven⟩
  have hfollows := ofOptions_eq_ok_iff.1 (ends_prepare hgiven).plan
  refine ⟨c, hfollows, ?_⟩
  intro wish words plan hwords hplan
  -- The steps in front of the report are the same ones, with the same log.
  have hprepare := ends_prepare_withReport hgiven hplan
  have hexamine : (examine host (o.withReport wish) inTime { c.given with plan }).Ends t₁
      (c.resultAt inTime) t := by
    rw [hfollows.eq_of_withReport (ofOptions_eq_ok_iff.1 hplan), examine_withReport]
    exact hresult
  have hreview' : (review host (o.withReport wish) inTime).run.run (firstLog host) =
      (present host plan (c.resultAt inTime)).run.run t := by
    rw [review_eq, Task.run_bind_of_ends hprepare, Task.run_bind_of_ends hexamine]
  rw [run_eq_ofAnswer hwords, hreview']
  exact presents_of_present (c.isExact inTime) host plan t

/-- A threshold hides findings from reports and does nothing else. All formats show the findings from
the threshold on, and the review fails in all of them alike, exactly if one of these is of the kind
to fail on or of a more urgent one. On every machine and at every pace this holds of each result of a
review, and reviews on the command line that differ in their wishes for the report have the same
result. So a review that fails does so with a lower threshold and with a less urgent kind to fail on.
Only the numbers of lines set a bound to reports: one that is shown may be too long to be written, and
then there is no report in any format. -/
theorem threshold_only_hides (host : Host Id) (inTime : ReviewFile → Bool) :
    (∀ {r : Reviewer} {history : AccuracyStore} {limits : ReviewLimits} {values : List Value}
        {done : ReviewRun}, r.run history limits inTime values = .ok done →
      Report.IsExact done.result r.rules.tone ∧
        ∀ (plan : ReviewPlan) (t : Transcript),
          (Outcome.ofAnswer ((present host plan done.result).run.run t).2.records
            ((present host plan done.result).run.run t).1).Presents plan done.result) ∧
    (∀ {o : ReviewOptions}, ComesToResult host o inTime →
      ∃ c : Course host o, Report.IsExact (c.resultAt inTime) c.given.rules.tone ∧
        (∀ (format : OutputFormat) (m : Int) (kind : Category), 0 ≤ m → m ≤ 100 →
          ReviewPlan.ofOptions (o.withReport ⟨some format.name, some m, some kind.choice⟩)
            c.given.config =
            .ok { c.given.plan with format, minConfidence := m, failOn := some kind }) ∧
        ∀ (wish : ReportOptions) (words : List String) (plan : ReviewPlan),
          Command.ofWords words = .ok (.review (o.withReport wish)) →
          ReviewPlan.ofOptions (o.withReport wish) c.given.config = .ok plan →
          (run host words inTime).Presents plan (c.resultAt inTime)) ∧
    ∀ {outcome outcome' : Outcome} {plan plan' : ReviewPlan} {result : ReviewResult},
      outcome.Presents plan result → outcome'.Presents plan' result →
      plan.minConfidence ≤ plan'.minConfidence →
      (∀ kind' ∈ plan'.failOn, ∃ kind ∈ plan.failOn, kind' ∈ kind.failing) →
      outcome'.exitCode = 1 → outcome.exitCode = 1 := by
  refine ⟨?_, ?_, Outcome.Presents.exitCode_mono⟩
  · intro r history limits values done hrun
    obtain ⟨-, -, files, -, rfl⟩ := Reviewer.run_eq_ok.1 hrun
    exact ⟨Reviewer.isExact_runFiles, presents_of_present Reviewer.isExact_runFiles host⟩
  · intro o hresult
    obtain ⟨c, hfollows, hpresents⟩ := exists_course_presents hresult
    refine ⟨c, c.isExact inTime, ?_, hpresents⟩
    intro format m kind hm hm'
    exact ofOptions_eq_ok_iff.2 (hfollows.withReport format hm hm' kind)

/-- A strict and a lax review of one change, and a result that makes reviews fail. -/
theorem threshold_only_hides_of_password :
    let host := hostOfInput "--- a/a.js\n+++ b/a.js\n@@ -0,0 +1 @@\n+pwd = 'c'"
    let strict := ["review", "--stdin", "--format", "json", "--min-confidence", "86",
      "--fail-on", "bug"]
    let lax := ["review", "--stdin", "--format", "markdown", "--min-confidence", "60",
      "--fail-on", "refactor"]
    let r : Reviewer := { rules := {}, detectors := [.secrets] }
    let values : List Value := [.table [("path", .text "a.js"), ("content", .text "pwd = 'c'")]]
    let plan : ReviewPlan :=
      { source := .input, format := .human, minConfidence := 86, failOn := some .bug,
        scope := ⟨[], []⟩, limits := {}, maxFiles := 50 }
    ((run host ["review", "--stdin"]).error = none ∧
      ∃ result plan plan', (run host strict).Presents plan result ∧
        (run host lax).Presents plan' result ∧
        ((run host strict).exitCode = 1 → (run host lax).exitCode = 1)) ∧
    ∃ done, r.run {} {} (fun _ => true) values = .ok done ∧
      (Outcome.ofAnswer ((present host plan done.result).run.run (firstLog host)).2.records
        ((present host plan done.result).run.run (firstLog host)).1).exitCode = 1 := by
  intro host strict lax r values plan
  let o : ReviewOptions :=
    { setting := { repository := Path.ofString "." }, diffFile := none, fromInput := true,
      base := none, head := none, title := none, body := none, labels := [], rules := none,
      format := none, minConfidence := none, failOn := none, included := none, excluded := none,
      workers := none, timeout := none }
  have hwords : Command.ofWords ["review", "--stdin"] = .ok (.review o) := rfl
  have hdone : (run host ["review", "--stdin"]).error = none :=
    error_eq_none_of_reachesReport hwords (by decide +kernel)
  have hstrict : Command.ofWords strict = .ok (.review (o.withReport
      ⟨some OutputFormat.json.name, some 86, some Category.bug.choice⟩)) := rfl
  have hlax : Command.ofWords lax = .ok (.review (o.withReport
      ⟨some OutputFormat.markdown.name, some 60, some Category.refactor.choice⟩)) := rfl
  obtain ⟨hresult, hreview, hmono⟩ := threshold_only_hides host fun _ => true
  constructor
  · obtain ⟨c, -, hplan, hpresents⟩ := hreview (comesToResult_of_run hwords hdone)
    have hstrictPresents := hpresents _ _ _ hstrict (hplan .json 86 .bug (by decide) (by decide))
    have hlaxPresents := hpresents _ _ _ hlax (hplan .markdown 60 .refactor (by decide) (by decide))
    refine ⟨hdone, _, _, _, hstrictPresents, hlaxPresents, ?_⟩
    refine hmono hlaxPresents hstrictPresents (show (60 : Int) ≤ 86 by decide) ?_
    rintro _ ⟨⟩
    exact ⟨.refactor, rfl, by decide⟩
  · let f : ReviewFile := { path := "a.js", content := "pwd = 'c'" }
    have hrun : r.run {} {} (fun _ => true) values =
        .ok (r.runFiles {} {} (fun _ => true) [f]) :=
      Reviewer.run_eq_ok.2 ⟨rfl, [f], rfl, Reviewer.waitFails_in_time {} [f], rfl⟩
    obtain ⟨-, hpresents⟩ := hresult hrun
    have hperm := r.findings_runFiles_perm_files {} {} (fun _ => true) [f]
    have hlines : ∀ x ∈ [f].flatMap fun f => (r.reviewFile {} f).findings, x.line = 1 := by
      decide +kernel
    have hwritten : Report.CanBeWritten 86 (r.runFiles {} {} (fun _ => true) [f]).result := by
      intro x hx _
      rw [hlines x (hperm.mem_iff.1 hx)]
      exact Nat.one_lt_pow (by decide) (by decide)
    have hreports := (hpresents plan (firstLog host)).reports hwritten
    refine ⟨_, hrun, hreports.exitCode_eq_one_iff.2 ?_⟩
    have hfound : ∃ x ∈ [f].flatMap fun f => (r.reviewFile {} f).findings,
        86 ≤ x.confidence ∧ x.category = .bug := by decide +kernel
    obtain ⟨x, hx, hconfidence, hbug⟩ := hfound
    refine ⟨x, hperm.mem_iff.2 hx, hconfidence, .bug, rfl, ?_⟩
    rw [hbug]
    exact List.mem_singleton_self _

/-- A finding on a line whose number is too long to be written has no place in a report of any format,
and ends the review as one that fails although there is no kind to fail on. -/
theorem threshold_stops_at_long_number :
    let r : Reviewer := { rules := {}, detectors := [.secrets] }
    let n : Int := 10 ^ Number.maxDigits
    let values : List Value := [.table [("path", .text "a.js"),
      ("changed_lines", .list [.table [("line", .int n), ("content", .text "pwd = 'c'")]])]]
    let host := hostOfInput ""
    ∃ done, r.run {} {} (fun _ => true) values = .ok done ∧
      (∃ x ∈ done.result.findings, x.line = n) ∧
      ∀ format,
        let plan : ReviewPlan :=
          { source := .input, format, minConfidence := 0, failOn := none, scope := ⟨[], []⟩,
            limits := {}, maxFiles := 50 }
        let outcome := Outcome.ofAnswer
          ((present host plan done.result).run.run (firstLog host)).2.records
          ((present host plan done.result).run.run (firstLog host)).1
        outcome.error = some .integerTooLong ∧ outcome.exitCode = 1 ∧ outcome.output = "" ∧
          ¬ Report.Fails plan.failOn plan.minConfidence done.result.findings := by
  intro r n values host
  let f : ReviewFile := { path := "a.js", changed := some [⟨n, "pwd = 'c'"⟩] }
  have hrun : r.run {} {} (fun _ => true) values =
      .ok (r.runFiles {} {} (fun _ => true) [f]) :=
    Reviewer.run_eq_ok.2 ⟨rfl, [f], rfl, Reviewer.waitFails_in_time {} [f], rfl⟩
  have hperm := r.findings_runFiles_perm_files {} {} (fun _ => true) [f]
  have hfound : ∃ x ∈ [f].flatMap fun f => (r.reviewFile {} f).findings,
      0 ≤ x.confidence ∧ x.line = n ∧ ¬ x.line.natAbs < 10 ^ Number.maxDigits := by
    decide +kernel
  obtain ⟨x, hx, hconfidence, hline, hlong⟩ := hfound
  have hmem := hperm.mem_iff.2 hx
  have hstops : ¬ Report.CanBeWritten 0 (r.runFiles {} {} (fun _ => true) [f]).result :=
    fun hwritten => hlong (hwritten x hmem hconfidence)
  refine ⟨_, hrun, ⟨x, hmem, hline⟩, ?_⟩
  intro format plan outcome
  obtain ⟨herror, hexit, houtput⟩ :=
    (presents_of_present Reviewer.isExact_runFiles host plan (firstLog host)).stops hstops
  refine ⟨herror, hexit, houtput, ?_⟩
  rintro ⟨-, -, -, -, ⟨⟩, -⟩

end PatchReview.CommandLine
