import Mathlib.Data.List.TakeWhile
import PatchReview.CommandLine.Run
import PatchReview.Proofs.Host.Task
import PatchReview.Proofs.Review.Collect

/-! The course of a review on the command line. A review that comes to its end has gathered what
it needs, has turned the first patches in scope into files and reports what a run on these files
finds. -/
namespace PatchReview

/-- Where no number is too long the bound on numbers does not matter. -/
theorem FilePatch.ofDiff?_of_readDiff? {text : String} {patches : List FilePatch}
    (h : readDiff? text = .ok patches) : ofDiff? text = .ok patches := by
  obtain ⟨read, hread, h⟩ := bind_eq_ok.1 h
  split at h
  · cases h
  · next hshort =>
    cases h
    have hall : ((Text.lines text.toList).takeWhile fun line =>
        (HunkRange.longNumber? line).isNone) = Text.lines text.toList := by
      refine List.takeWhile_eq_self_iff.2 fun line hline => ?_
      rw [List.findSome?_eq_none_iff.1 hshort line hline]
      rfl
    rw [hall] at hread
    exact mapError_eq_ok.1 hread

namespace CommandLine

section Parts
variable {m : Type → Type} [Monad m]

/-- What a review has at hand before it looks at files. -/
structure Material where
  config : Config
  plan : ReviewPlan
  rules : RuleSet
  detectors : List Detector
  patches : List FilePatch

/-- The first part of a review. Neither the files under review nor the purpose of the change play
a part in it. -/
def prepare (host : Host m) (o : ReviewOptions) : Task CommandError m Material := do
  let config ← loadConfig host o.setting
  let plan ← ReviewPlan.ofOptions o config
  let rules ← loadRules host o.setting o.rules config
  let detectors ← setUpDetectors rules config
  let text ← plan.source.read host o.setting.repository
  let patches ← readPatches text
  return ⟨config, plan, rules, detectors, patches⟩

/-- What the second part finds, on a machine that gets the reviews of certain files done in time. -/
def examine (host : Host m) (o : ReviewOptions) (inTime : ReviewFile → Bool) (given : Material) :
    Task CommandError m ReviewResult := do
  let selected ← selectPatches given.plan given.patches
  let files ← selected.mapM (loadFile host o given.plan.source)
  let change ← purpose o
  checkLimits given.plan.limits
  runReview ⟨given.rules, given.detectors, change⟩ given.plan.limits inTime files

/-- The report on what was found, and the exit. -/
def present (host : Host m) (plan : ReviewPlan) (result : ReviewResult) :
    Task CommandError m Answer := do
  checkNumbers plan result
  let output ← Task.ask (report host plan result)
  let visible := Report.visible plan.minConfidence result.findings
  return { output, isFailing := Report.reaches plan.failOn visible }

theorem review_eq [LawfulMonad m] (host : Host m) (o : ReviewOptions)
    (inTime : ReviewFile → Bool) : review host o inTime = (do
      let given ← prepare host o
      let result ← examine host o inTime given
      present host given.plan result) := by
  simp only [review, prepare, examine, present, bind_assoc, pure_bind]

/-- The text of a file under review, if it is at hand. -/
def textOf (host : Host m) (o : ReviewOptions) (patch : FilePatch) :
    Task CommandError m (Option String) :=
  match o.head with
  | some revision =>
    (Git.fileAt host o.setting.repository revision patch.path).adapt InputSource.callError
  | none => worktreeFile host o.setting.repository patch.path

/-- The file that a patch leads to, once its text has been looked for. -/
def fileOfText (source : InputSource) (patch : FilePatch) :
    Option String → Task CommandError m ReviewFile
  | some text => return fileOfPatch patch text
  | none => do
    if source.isGit then
      Task.note ⟨.warning,
        patch.path ++ ": full content unavailable, reviewing added lines only"⟩
    return fileOfPatch patch patch.addedText

theorem loadFile_eq (host : Host m) (o : ReviewOptions) (source : InputSource)
    (patch : FilePatch) :
    loadFile host o source patch = textOf host o patch >>= fileOfText source patch := by
  unfold loadFile textOf
  cases o.head with
  | some revision => rfl
  | none => rfl

end Parts

variable {host : Host Id} {o : ReviewOptions} {t t' : Transcript}

theorem ends_loadConfig {setting : Setting} {config : Config}
    (h : (loadConfig host setting).Ends t config t') :
    Config.load host setting.repository setting.config = Except.ok config := by
  obtain ⟨loaded, t₁, hloaded, h⟩ := Task.ends_bind.1 h
  rw [(Task.ends_ask.1 hloaded).1]
  cases loaded with
  | error e => exact (Task.not_ends_throw _ h).elim
  | ok loaded =>
    obtain ⟨-, t₂, -, h⟩ := Task.ends_bind.1 h
    rw [(Task.ends_pure.1 h).1]

/-- The selection warns of patches that are left out, and takes the first ones. -/
theorem ends_selectPatches {plan : ReviewPlan} {patches selected : List FilePatch}
    (h : (selectPatches plan patches).Ends t selected t') :
    selected = (plan.scope.select patches).take plan.maxFiles := by
  simp only [selectPatches] at h
  split at h
  · obtain ⟨-, t₁, -, h⟩ := Task.ends_bind.1 h
    exact (Task.ends_pure.1 h).1.symm
  · exact (Task.ends_pure.1 h).1.symm

/-- Whatever text is at hand, the file has the path and the added lines of its patch. -/
theorem ends_loadFile {source : InputSource} {patch : FilePatch} {f : ReviewFile}
    (h : (loadFile host o source patch).Ends t f t') :
    ∃ content, f = fileOfPatch patch content := by
  rw [loadFile_eq] at h
  obtain ⟨text?, t₁, -, h⟩ := Task.ends_bind.1 h
  cases text? with
  | some text => exact ⟨text, (Task.ends_pure.1 h).1.symm⟩
  | none =>
    simp only [fileOfText] at h
    split at h
    · obtain ⟨-, t₂, -, h⟩ := Task.ends_bind.1 h
      exact ⟨_, (Task.ends_pure.1 h).1.symm⟩
    · exact ⟨_, (Task.ends_pure.1 h).1.symm⟩

/-- What is gathered for a review, by its origins. -/
structure Material.Belongs (given : Material) (host : Host Id) (o : ReviewOptions) : Prop where
  config : Config.load host o.setting.repository o.setting.config = Except.ok given.config
  plan : ReviewPlan.ofOptions o given.config = .ok given.plan
  rules : ∃ t t', (loadRules host o.setting o.rules given.config).Ends t given.rules t'
  detectors : given.config.detectors.detectors given.rules given.config.patterns =
    .ok given.detectors
  patches : ∃ text t t', (given.plan.source.read host o.setting.repository).Ends t text t' ∧
    FilePatch.ofDiff? text = .ok given.patches

/-- The steps of the first part, one by one. Only two of them can add to the log. -/
theorem ends_prepare_iff {given : Material} : (prepare host o).Ends t given t' ↔
    ∃ t₁ t₂ text, (loadConfig host o.setting).Ends t given.config t₁ ∧
      ReviewPlan.ofOptions o given.config = .ok given.plan ∧
      (loadRules host o.setting o.rules given.config).Ends t₁ given.rules t₂ ∧
      setUpDetectors given.rules given.config = .ok given.detectors ∧
      (given.plan.source.read host o.setting.repository).Ends t₂ text t' ∧
      readPatches text = .ok given.patches := by
  constructor
  · intro h
    obtain ⟨config, t₁, hconfig, h⟩ := Task.ends_bind.1 h
    obtain ⟨plan, t₂, hplan, h⟩ := Task.ends_bind.1 h
    obtain ⟨rules, t₃, hrules, h⟩ := Task.ends_bind.1 h
    obtain ⟨detectors, t₄, hdetectors, h⟩ := Task.ends_bind.1 h
    obtain ⟨text, t₅, htext, h⟩ := Task.ends_bind.1 h
    obtain ⟨patches, t₆, hpatches, h⟩ := Task.ends_bind.1 h
    obtain ⟨hplan', rfl⟩ := Task.ends_liftM.1 hplan
    obtain ⟨hdetectors', rfl⟩ := Task.ends_liftM.1 hdetectors
    obtain ⟨hpatches', rfl⟩ := Task.ends_liftM.1 hpatches
    obtain ⟨rfl, rfl⟩ := Task.ends_pure.1 h
    exact ⟨_, _, text, hconfig, hplan', hrules, hdetectors', htext, hpatches'⟩
  · rintro ⟨t₁, t₂, text, hconfig, hplan, hrules, hdetectors, htext, hpatches⟩
    refine Task.ends_bind.2 ⟨_, t₁, hconfig, ?_⟩
    refine Task.ends_bind.2 ⟨_, t₁, Task.ends_liftM.2 ⟨hplan, rfl⟩, ?_⟩
    refine Task.ends_bind.2 ⟨_, t₂, hrules, ?_⟩
    refine Task.ends_bind.2 ⟨_, t₂, Task.ends_liftM.2 ⟨hdetectors, rfl⟩, ?_⟩
    refine Task.ends_bind.2 ⟨text, t', htext, ?_⟩
    refine Task.ends_bind.2 ⟨_, t', Task.ends_liftM.2 ⟨hpatches, rfl⟩, ?_⟩
    exact Task.ends_pure.2 ⟨rfl, rfl⟩

theorem ends_prepare {given : Material} (h : (prepare host o).Ends t given t') :
    given.Belongs host o := by
  obtain ⟨t₁, t₂, text, hconfig, hplan, hrules, hdetectors, htext, hpatches⟩ :=
    ends_prepare_iff.1 h
  exact {
    config := ends_loadConfig hconfig
    plan := hplan
    rules := ⟨_, _, hrules⟩
    detectors := mapError_eq_ok.1 hdetectors
    patches := ⟨text, _, _, htext, FilePatch.ofDiff?_of_readDiff? (mapError_eq_ok.1 hpatches)⟩ }

/-- The kind of findings to fail on, as options and a configuration tell it. -/
def chosenKind (o : ReviewOptions) (config : Config) : Except CommandError (Option Category) :=
  match o.failOn with
  | some name => (choose Category.all Category.choice "--fail-on" name).map some
  | none => pure config.failOn

/-- The plan is what the options and the configuration ask for. Options count first. -/
structure ReviewPlan.Follows (plan : ReviewPlan) (o : ReviewOptions) (config : Config) : Prop where
  format : choose OutputFormat.all OutputFormat.name "--format"
    (orElse (o.format.getD "") config.format.name) = .ok plan.format
  minConfidence : plan.minConfidence = o.minConfidence.getD config.minConfidence
  isPercentage : 0 ≤ plan.minConfidence ∧ plan.minConfidence ≤ 100
  failOn : chosenKind o config = .ok plan.failOn
  source : InputSource.ofOptions o = .ok plan.source
  scope : plan.scope =
    ⟨o.included.getD config.scope.included, o.excluded.getD config.scope.excluded⟩
  limits : plan.limits = ⟨o.workers.getD config.workers, (match o.timeout with
    | some t => some t
    | none => config.timeout).map .fractional⟩
  maxFiles : plan.maxFiles = config.maxFiles.toNat

/-- The choice of the kind is a step of its own. -/
theorem ofOptions_eq (o : ReviewOptions) (config : Config) :
    ReviewPlan.ofOptions o config = do
      let format ← choose OutputFormat.all OutputFormat.name "--format"
        (orElse (o.format.getD "") config.format.name)
      let minConfidence := o.minConfidence.getD config.minConfidence
      if minConfidence < 0 ∨ 100 < minConfidence then
        throw (.badValue (some "--min-confidence") "must be between 0 and 100")
      let failOn ← chosenKind o config
      let source ← InputSource.ofOptions o
      return {
        source
        format
        minConfidence
        failOn
        scope := ⟨o.included.getD config.scope.included, o.excluded.getD config.scope.excluded⟩
        limits := ⟨o.workers.getD config.workers, (match o.timeout with
          | some t => some t
          | none => config.timeout).map .fractional⟩
        maxFiles := config.maxFiles.toNat } := by
  unfold ReviewPlan.ofOptions chosenKind
  cases o.failOn <;> rfl

theorem ofOptions_eq_ok_iff {config : Config} {plan : ReviewPlan} :
    ReviewPlan.ofOptions o config = .ok plan ↔ plan.Follows o config := by
  rw [ofOptions_eq]
  simp only [bind_eq_ok, check_eq_ok]
  constructor
  · rintro ⟨format, hformat, hpercentage, failOn, hfailOn, source, hsource, h⟩
    cases h
    rw [not_or, Int.not_lt, Int.not_lt] at hpercentage
    exact ⟨hformat, rfl, hpercentage, hfailOn, hsource, rfl, rfl, rfl⟩
  · intro h
    refine ⟨plan.format, h.format, ?_, plan.failOn, h.failOn, plan.source, h.source, ?_⟩
    · rw [← h.minConfidence, not_or, Int.not_lt, Int.not_lt]
      exact h.isPercentage
    · rw [← h.minConfidence, ← h.scope, ← h.limits, ← h.maxFiles]
      rfl

theorem ofOptions_eq_ok {config : Config} {plan : ReviewPlan}
    (h : ReviewPlan.ofOptions o config = .ok plan) :
    InputSource.ofOptions o = .ok plan.source ∧
      plan.scope = ⟨o.included.getD config.scope.included, o.excluded.getD config.scope.excluded⟩ ∧
      plan.maxFiles = config.maxFiles.toNat := by
  have hplan := ofOptions_eq_ok_iff.1 h
  exact ⟨hplan.source, hplan.scope, hplan.maxFiles⟩

/-- The text that a terminal shows for an output. -/
def shown (output : String) : String := String.ofList (TextStyle.strip (output ++ "\n").toList)

/-- The log with which a run starts. -/
def firstLog (host : Host Id) : Transcript where
  level := LogLevel.resolve (host.environment LogLevel.environmentVariable) LogLevel.warning.name

/-- The course of a review that came to its end: what was gathered, the files that its patches led
to, and the purpose of the change. -/
structure Course (host : Host Id) (o : ReviewOptions) where
  given : Material
  files : List ReviewFile
  change : Option ChangeIntent
  prepared : ∃ t, (prepare host o).Ends (firstLog host) given t
  loaded : List.Forall₂ (fun patch f => ∃ content, f = fileOfPatch patch content)
    ((given.plan.scope.select given.patches).take given.plan.maxFiles) files
  declared : purpose o = .ok change

namespace Course
variable (c : Course host o)

def reviewer : Reviewer := ⟨c.given.rules, c.given.detectors, c.change⟩

/-- What the review finds on a machine that gets the reviews of certain files done in time. -/
def resultAt (inTime : ReviewFile → Bool) : ReviewResult :=
  (c.reviewer.runFiles {} c.given.plan.limits inTime c.files).result

/-- What the review finds if all files are reviewed. -/
def result : ReviewResult := c.reviewer.sequential {} c.files

theorem resultAt_in_time : c.resultAt (fun _ => true) = c.result :=
  Reviewer.runFiles_in_time _ _ _ _

theorem resultAt_of_complete {inTime : ReviewFile → Bool}
    (h : (c.resultAt inTime).isPartial = false) : c.resultAt inTime = c.result :=
  Reviewer.runFiles_eq_sequential h

/-- The answer of the review to a result. -/
def answer (result : ReviewResult) : Answer where
  output := report host c.given.plan result
  isFailing := Report.reaches c.given.plan.failOn
    (Report.visible c.given.plan.minConfidence result.findings)

end Course

theorem ends_runReview {r : Reviewer} {limits : ReviewLimits} {inTime : ReviewFile → Bool}
    {files : List ReviewFile} {result : ReviewResult}
    (h : (runReview r limits inTime files).Ends t result t') :
    result = (r.runFiles {} limits inTime files).result := by
  dsimp only [runReview] at h
  obtain ⟨-, h⟩ := Task.ends_check.1 h
  obtain ⟨-, t₁, -, h⟩ := Task.ends_bind.1 h
  exact (Task.ends_pure.1 h).1.symm

theorem ends_examine {given : Material} {inTime : ReviewFile → Bool} {result : ReviewResult}
    (h : (examine host o inTime given).Ends t result t')
    (hgiven : ∃ t₁, (prepare host o).Ends (firstLog host) given t₁) :
    ∃ c : Course host o, c.given = given ∧ c.resultAt inTime = result := by
  obtain ⟨selected, t₁, hselected, h⟩ := Task.ends_bind.1 h
  obtain ⟨files, t₂, hfiles, h⟩ := Task.ends_bind.1 h
  obtain ⟨change, t₃, hchange, h⟩ := Task.ends_bind.1 h
  obtain ⟨-, t₄, -, h⟩ := Task.ends_bind.1 h
  have hloaded : List.Forall₂ (fun patch f => ∃ content, f = fileOfPatch patch content)
      ((given.plan.scope.select given.patches).take given.plan.maxFiles) files := by
    rw [← ends_selectPatches hselected]
    exact (Task.ends_mapM hfiles).imp fun _ _ ⟨_, _, h⟩ => ends_loadFile h
  exact ⟨⟨given, files, change, hgiven, hloaded, (Task.ends_liftM.1 hchange).1⟩, rfl,
    (ends_runReview h).symm⟩

theorem ends_present {plan : ReviewPlan} {result : ReviewResult} {a : Answer} :
    (present host plan result).Ends t a t' ↔
      Report.isWritable plan.minConfidence result = true ∧
      { output := report host plan result
        isFailing := Report.reaches plan.failOn
          (Report.visible plan.minConfidence result.findings) } = a ∧ t = t' := by
  unfold present checkNumbers
  cases Report.isWritable plan.minConfidence result with
  | false =>
    refine iff_of_false (fun h => ?_) nofun
    obtain ⟨-, t₁, h, -⟩ := Task.ends_bind.1 h
    exact Task.not_ends_throw _ h
  | true => exact Task.ends_pure.trans (and_iff_right rfl).symm

theorem ends_review {inTime : ReviewFile → Bool} {a : Answer} {t₁ : Transcript}
    (h : (review host o inTime).Ends t a t₁) :
    ∃ given t₂ result, (prepare host o).Ends t given t₂ ∧
      (examine host o inTime given).Ends t₂ result t₁ ∧
      (present host given.plan result).Ends t₁ a t₁ := by
  rw [review_eq] at h
  obtain ⟨given, t₂, hgiven, h⟩ := Task.ends_bind.1 h
  obtain ⟨result, t₃, hresult, h⟩ := Task.ends_bind.1 h
  obtain ⟨-, -, rfl⟩ := ends_present.1 h
  exact ⟨given, t₂, result, hgiven, hresult, h⟩

theorem run_eq_ofAnswer {words : List String} (hwords : Command.ofWords words = .ok (.review o))
    (inTime : ReviewFile → Bool) : run host words inTime =
      Outcome.ofAnswer ((review host o inTime).run.run (firstLog host)).2.records
        ((review host o inTime).run.run (firstLog host)).1 := by
  have hperform : performWords host words inTime = review host o inTime := by
    rw [performWords, hwords]
    rfl
  rw [← hperform]
  rfl

/-- A run without an error is a review that comes to its end. -/
theorem ends_of_run {words : List String} {inTime : ReviewFile → Bool}
    (hwords : Command.ofWords words = .ok (.review o))
    (hdone : (run host words inTime).error = none) :
    ∃ a t, (review host o inTime).Ends (firstLog host) a t ∧
      run host words inTime = Outcome.ofAnswer t.records (.ok a) := by
  have hrun : run host words inTime = _ := run_eq_ofAnswer hwords inTime
  rcases hends : (review host o inTime).run.run (firstLog host) with ⟨e | a, t⟩
  · rw [hends] at hrun
    rw [hrun] at hdone
    cases hdone
  · rw [hends] at hrun
    exact ⟨a, t, hends, hrun⟩

theorem exists_course {words : List String} {inTime : ReviewFile → Bool}
    (hwords : Command.ofWords words = .ok (.review o))
    (hdone : (run host words inTime).error = none) :
    ∃ c : Course host o,
      (run host words inTime).output = shown (c.answer (c.resultAt inTime)).output ∧
      (run host words inTime).exitCode = if (c.answer (c.resultAt inTime)).isFailing then 1 else 0 := by
  obtain ⟨a, t, hreview, hrun⟩ := ends_of_run hwords hdone
  obtain ⟨given, t₂, result, hgiven, hresult, hpresent⟩ := ends_review hreview
  obtain ⟨c, rfl, rfl⟩ := ends_examine hresult ⟨t₂, hgiven⟩
  obtain ⟨-, rfl, -⟩ := ends_present.1 hpresent
  refine ⟨c, ?_, ?_⟩
  · rw [hrun]
    rfl
  · rw [hrun]
    rfl

/-- A run in which all files are reviewed. -/
theorem exists_course_in_time {words : List String}
    (hwords : Command.ofWords words = .ok (.review o)) (hdone : (run host words).error = none) :
    ∃ c : Course host o, (run host words).output = shown (c.answer c.result).output ∧
      (run host words).exitCode = if (c.answer c.result).isFailing then 1 else 0 := by
  obtain ⟨c, hcourse⟩ := exists_course hwords hdone
  rw [c.resultAt_in_time] at hcourse
  exact ⟨c, hcourse⟩

/-- A machine without files and without a version control. -/
def hostOfInput (input : String) : Host Id where
  workingDirectory := ⟨"/", ["work"]⟩
  environment := fun _ => none
  entry := fun _ => .missing
  input := input
  git := fun _ => .noProgram
  time := "1970-01-01T00:00:00Z"

end CommandLine
end PatchReview
